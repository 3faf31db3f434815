import SpatialSql.Metadata.Cache
import SpatialSql.Proofs.Association
/-!
# Looking up what is stored

Storing shows through a look-up alone: a column that was stored is found as it was stored last, and
every other column as before.
-/

namespace SpatialSql.Metadata.Cache

open Catalog (ColumnKey)

theorem find?_empty (key : ColumnKey) : empty.find? key = none := rfl

theorem find?_reset (cache : Cache) (key : ColumnKey) : cache.reset.find? key = none := rfl

theorem setsInPlace_setEntry : SetsInPlace setEntry where
  nil _ _ := rfl
  cons _ _ _ _ := rfl

theorem find?_store (cache : Cache) (found : List (ColumnKey × GeometryColumn)) (key : ColumnKey) :
    (cache.store found).find? key = (found.reverse.lookup key).or (cache.find? key) := by
  cases found with
  | nil => rfl
  | cons entry rest => exact setsInPlace_setEntry.lookup_foldl key (entry :: rest) cache.entries

theorem entries_store (cache : Cache) (found : List (ColumnKey × GeometryColumn)) :
    (cache.store found).entries =
      found.foldl (fun entries (key, column) => setEntry key column entries) cache.entries := by
  cases found <;> rfl

theorem entries_store_store (cache : Cache) (found further : List (ColumnKey × GeometryColumn)) :
    ((cache.store found).store further).entries = (cache.store (found ++ further)).entries := by
  rw [entries_store, entries_store, entries_store, List.foldl_append]

section

variable {cache : Cache} {found : List (ColumnKey × GeometryColumn)} {key : ColumnKey}
  {column : GeometryColumn}

theorem mem_of_lookup_reverse (h : found.reverse.lookup key = some column) :
    (key, column) ∈ found := by
  obtain ⟨before, behind, hsplit, -⟩ := List.lookup_eq_some_iff.1 h
  apply List.mem_reverse.1
  rw [hsplit]
  exact List.mem_append_right before List.mem_cons_self

theorem find?_store_of_forall_ne (h : ∀ entry ∈ found, entry.1 ≠ key) :
    (cache.store found).find? key = cache.find? key := by
  have hnone : found.reverse.lookup key = none := by
    refine List.lookup_eq_none_iff.2 fun entry hentry => ?_
    exact bne_iff_ne.2 (h entry (List.mem_reverse.1 hentry)).symm
  rw [find?_store, hnone, Option.none_or]

theorem mem_or_find?_of_find?_store (h : (cache.store found).find? key = some column) :
    (key, column) ∈ found ∨ cache.find? key = some column := by
  rw [find?_store, Option.or_eq_some_iff] at h
  exact h.imp mem_of_lookup_reverse And.right

/-- What is stored is found, unless the same column is stored once more behind it. -/
theorem exists_find?_store (h : (key, column) ∈ found) :
    ∃ last, (key, last) ∈ found ∧ (cache.store found).find? key = some last := by
  cases hlast : found.reverse.lookup key with
  | some last =>
    refine ⟨last, mem_of_lookup_reverse hlast, ?_⟩
    rw [find?_store, hlast, Option.some_or]
  | none =>
    have hne := List.lookup_eq_none_iff.1 hlast _ (List.mem_reverse.2 h)
    exact absurd hne (by simp)

theorem find?_store_of_find? (hnew : ∀ entry ∈ found, cache.find? entry.1 = none)
    (h : cache.find? key = some column) : (cache.store found).find? key = some column := by
  cases hlast : found.reverse.lookup key with
  | some last =>
    have hnone : cache.find? key = none := hnew _ (mem_of_lookup_reverse hlast)
    rw [hnone] at h
    cases h
  | none => rw [find?_store, hlast, Option.none_or, h]

end

/-! ## The columns in a cache -/

def keys (cache : Cache) : List ColumnKey := cache.entries.map Prod.fst

theorem size_eq_length_keys (cache : Cache) : cache.size = cache.keys.length :=
  (List.length_map Prod.fst).symm

theorem mem_keys_iff {cache : Cache} {key : ColumnKey} :
    key ∈ cache.keys ↔ (cache.find? key).isSome = true := SpatialSql.mem_keys_iff

theorem nodup_keys_store {cache : Cache} (h : cache.keys.Nodup)
    (found : List (ColumnKey × GeometryColumn)) : (cache.store found).keys.Nodup := by
  rw [keys, entries_store]
  exact setsInPlace_setEntry.nodup_keys_foldl h found

end SpatialSql.Metadata.Cache
