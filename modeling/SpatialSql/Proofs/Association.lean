import Mathlib.Data.List.Induction
/-!
# Lists of pairs that are set in place

The cells of a row and the entries of a cache are lists of pairs.  To set a key replaces its pair
where that stands, and adds one behind the others if there is none.  So every key stands once, in
the order in which the keys were first set, and with what it was set to last.
-/

namespace SpatialSql

variable [DecidableEq κ]

/-- A function that sets a key: in the place of its pair, or behind the others. -/
structure SetsInPlace (set : κ → α → List (κ × α) → List (κ × α)) : Prop where
  nil : ∀ key a, set key a [] = [(key, a)]
  cons : ∀ key a pair rest, set key a (pair :: rest) =
    if pair.1 = key then (key, a) :: rest else pair :: set key a rest

/-! ## Looking up -/

theorem lookup_pair_cons (key first : κ) (a : α) (rest : List (κ × α)) :
    ((first, a) :: rest).lookup key = if key = first then some a else rest.lookup key := by
  rw [List.lookup_cons]
  by_cases h : key = first
  · rw [if_pos h, beq_iff_eq.2 h]
  · rw [if_neg h, beq_eq_false_iff_ne.2 h]

theorem mem_keys_iff {key : κ} {pairs : List (κ × α)} :
    key ∈ pairs.map Prod.fst ↔ (pairs.lookup key).isSome = true := by
  rw [List.lookup_isSome_iff, List.mem_map]
  refine exists_congr fun pair => and_congr_right fun _ => ?_
  rw [beq_iff_eq, eq_comm]

theorem map_snd_find?_key (key : κ) (pairs : List (κ × α)) :
    (pairs.find? fun pair => pair.1 == key).map Prod.snd = pairs.lookup key := by
  induction pairs with
  | nil => rfl
  | cons pair rest ih =>
    obtain ⟨first, a⟩ := pair
    rw [List.find?_cons, lookup_pair_cons]
    by_cases h : key = first
    · rw [if_pos h, h, beq_self_eq_true]
      rfl
    · rw [if_neg h, beq_eq_false_iff_ne.2 (Ne.symm h), ih]

theorem map_snd_find?_fst (p : κ → Bool) (pairs : List (κ × α)) :
    (pairs.find? fun pair => p pair.1).map Prod.snd =
      ((pairs.map Prod.fst).find? p).bind fun key => pairs.lookup key := by
  induction pairs with
  | nil => rfl
  | cons pair rest ih =>
    obtain ⟨first, a⟩ := pair
    rw [List.map_cons, List.find?_cons, List.find?_cons]
    cases hfirst : p first with
    | true => simp
    | false =>
      rw [ih]
      -- the key found further behind has the property, so that it is not the first one
      refine Option.bind_congr fun key hkey => ?_
      have hne : key ≠ first := by
        rintro rfl
        rw [List.find?_some hkey] at hfirst
        cases hfirst
      rw [lookup_pair_cons, if_neg hne]

theorem lookup_of_mem {pairs : List (κ × α)} (hkeys : (pairs.map Prod.fst).Nodup) {key : κ} {a : α}
    (h : (key, a) ∈ pairs) : pairs.lookup key = some a := by
  induction pairs with
  | nil => cases h
  | cons pair rest ih =>
    obtain ⟨first, b⟩ := pair
    rw [List.map_cons, List.nodup_cons] at hkeys
    rw [lookup_pair_cons]
    obtain hfirst | hrest := List.mem_cons.1 h
    · cases hfirst
      rw [if_pos rfl]
    · have hne : key ≠ first := by
        rintro rfl
        exact hkeys.1 (List.mem_map.2 ⟨(key, a), hrest, rfl⟩)
      rw [if_neg hne, ih hkeys.2 hrest]

theorem map_snd_getElem? {pairs : List (κ × α)} (hkeys : (pairs.map Prod.fst).Nodup) (i : Nat) :
    pairs[i]?.map Prod.snd = (pairs.map Prod.fst)[i]?.bind fun key => pairs.lookup key := by
  rw [List.getElem?_map]
  cases h : pairs[i]? with
  | none => rfl
  | some pair => exact (lookup_of_mem hkeys (List.mem_of_getElem? h)).symm

/-! ## Setting -/

namespace SetsInPlace

variable {set : κ → α → List (κ × α) → List (κ × α)} (hset : SetsInPlace set)

include hset

theorem lookup_set (key key' : κ) (a : α) (pairs : List (κ × α)) :
    (set key a pairs).lookup key' = if key' = key then some a else pairs.lookup key' := by
  induction pairs with
  | nil => rw [hset.nil, lookup_pair_cons]
  | cons pair rest ih =>
    obtain ⟨first, b⟩ := pair
    by_cases hfirst : first = key
    · rw [hset.cons, if_pos hfirst, lookup_pair_cons, lookup_pair_cons, hfirst]
      by_cases h : key' = key
      · rw [if_pos h, if_pos h]
      · rw [if_neg h, if_neg h, if_neg h]
    · rw [hset.cons, if_neg hfirst, lookup_pair_cons, lookup_pair_cons, ih]
      by_cases h : key' = first
      · have hother : key' ≠ key := fun hkey => hfirst (h.symm.trans hkey)
        rw [if_pos h, if_neg hother, if_pos h]
      · rw [if_neg h, if_neg h]

theorem lookup_foldl (key : κ) (found pairs : List (κ × α)) :
    (found.foldl (fun pairs pair => set pair.1 pair.2 pairs) pairs).lookup key =
      (found.reverse.lookup key).or (pairs.lookup key) := by
  induction found generalizing pairs with
  | nil => rfl
  | cons pair rest ih =>
    obtain ⟨first, a⟩ := pair
    rw [List.foldl_cons, ih, hset.lookup_set, List.reverse_cons, List.lookup_append,
      Option.or_assoc, lookup_pair_cons]
    by_cases h : key = first
    · rw [if_pos h, if_pos h, Option.some_or]
    · rw [if_neg h, if_neg h, List.lookup_nil, Option.none_or]

theorem keys_set (key : κ) (a : α) (pairs : List (κ × α)) :
    (set key a pairs).map Prod.fst =
      if key ∈ pairs.map Prod.fst then pairs.map Prod.fst else pairs.map Prod.fst ++ [key] := by
  induction pairs with
  | nil => rw [hset.nil]; rfl
  | cons pair rest ih =>
    by_cases h : pair.1 = key
    · rw [hset.cons, if_pos h, List.map_cons, List.map_cons, h, if_pos List.mem_cons_self]
    · have hmem : key ∈ pair.1 :: rest.map Prod.fst ↔ key ∈ rest.map Prod.fst := by
        rw [List.mem_cons, or_iff_right (Ne.symm h)]
      rw [hset.cons, if_neg h, List.map_cons, ih, apply_ite (pair.1 :: ·)]
      simp only [List.map_cons, hmem, List.cons_append]

theorem nodup_keys_set {pairs : List (κ × α)} (h : (pairs.map Prod.fst).Nodup) (key : κ) (a : α) :
    ((set key a pairs).map Prod.fst).Nodup := by
  rw [hset.keys_set]
  split
  · exact h
  · rename_i hnew
    refine List.nodup_append.2 ⟨h, by simp, fun b hb c hc => ?_⟩
    rw [List.mem_singleton.1 hc]
    rintro rfl
    exact hnew hb

theorem nodup_keys_foldl {pairs : List (κ × α)} (h : (pairs.map Prod.fst).Nodup)
    (found : List (κ × α)) :
    ((found.foldl (fun pairs pair => set pair.1 pair.2 pairs) pairs).map Prod.fst).Nodup := by
  induction found generalizing pairs with
  | nil => exact h
  | cons pair rest ih => exact ih (hset.nodup_keys_set h pair.1 pair.2)

theorem keys_foldl (found : List (κ × α)) :
    (found.foldl (fun pairs pair => set pair.1 pair.2 pairs) []).map Prod.fst =
      (found.map Prod.fst).eraseDups := by
  induction found using List.reverseRecOn with
  | nil => rfl
  | append_singleton found pair ih =>
    rw [List.foldl_append, List.foldl_cons, List.foldl_nil, hset.keys_set, ih, List.map_append,
      List.map_singleton, List.eraseDups_append]
    by_cases h : pair.1 ∈ found.map Prod.fst
    · have hnone : [pair.1].removeAll (found.map Prod.fst) = [] := by simp [List.removeAll, h]
      rw [if_pos (List.mem_eraseDups.2 h), hnone, List.eraseDups_nil, List.append_nil]
    · have hone : [pair.1].removeAll (found.map Prod.fst) = [pair.1] := by
        simp [List.removeAll, h]
      rw [if_neg (mt List.mem_eraseDups.1 h), hone, List.eraseDups_cons, List.filter_nil,
        List.eraseDups_nil]

end SetsInPlace

end SpatialSql
