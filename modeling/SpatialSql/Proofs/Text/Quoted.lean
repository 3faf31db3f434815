import SpatialSql.Text.Quoted
import SpatialSql.Text.Search
/-!
# Quoted texts in a statement

A quoted text is read back from wherever it stands, whatever it says.  A search does not look
across quotes, so that what a quoted text says is found as if it stood alone.
-/

namespace SpatialSql.Text

variable {quote : Char}

/-! ## Reading back -/

section

variable {rest : List Char}

theorem quotedParts_plain {plain : List Char} (h : quote ∉ plain) :
    quotedParts quote none (plain ++ rest) = quotedParts quote none rest := by
  induction plain with
  | nil => rfl
  | cons c plain ih =>
    rw [List.mem_cons, not_or] at h
    rw [List.cons_append, quotedParts, if_neg (Ne.symm h.1), ih h.2]

/-- A text that begins with another quote would go on with the quoted one before it. -/
theorem quotedParts_body (hrest : rest.head? ≠ some quote) (body text : List Char) :
    quotedParts quote (some body) (double quote text ++ quote :: rest) =
      String.ofList (body.reverse ++ text) :: quotedParts quote none rest := by
  induction text generalizing body with
  | nil =>
    rw [List.append_nil]
    cases rest with
    | nil => simp [double, quotedParts]
    | cons next rest =>
      have hnext : next ≠ quote := fun h => hrest (congrArg some h)
      simp [double, quotedParts, hnext]
  | cons c text ih =>
    have hreverse : body.reverse ++ c :: text = (c :: body).reverse ++ text := by simp
    rw [hreverse, ← ih]
    by_cases hc : c = quote
    · simp [double, quotedParts, hc]
    · rw [double, if_neg hc, List.cons_append]
      -- A body goes on, so that its character is not the last of the text.
      cases htail : double quote text ++ quote :: rest with
      | nil => simp at htail
      | cons next tail => rw [quotedParts, if_pos hc]

theorem quotedParts_quoted (hrest : rest.head? ≠ some quote) (text : String) :
    quotedParts quote none ((quoted quote text).toList ++ rest) =
      text :: quotedParts quote none rest := by
  have hbody := quotedParts_body hrest [] text.toList
  rw [List.reverse_nil, List.nil_append, String.ofList_toList] at hbody
  rw [quoted, String.toList_ofList, List.cons_append, quotedParts, if_pos rfl, List.append_assoc]
  exact hbody

end

/-! ## Several quoted texts -/

/-- A text with quoted ones in it: each pair is what stands in front of one, and what that says. -/
def interleaved (quote : Char) (parts : List (String × String)) (ending : String) : String :=
  parts.foldr (fun part rest => part.1 ++ (quoted quote part.2 ++ rest)) ending

section

variable {parts : List (String × String)} {ending : String}

theorem toList_interleaved_cons (part : String × String) (parts : List (String × String))
    (ending : String) :
    (interleaved quote (part :: parts) ending).toList =
      part.1.toList ++
        ((quoted quote part.2).toList ++ (interleaved quote parts ending).toList) := by
  rw [interleaved, List.foldr_cons, String.toList_append, String.toList_append, interleaved]

theorem head?_ne_of_not_mem {text : List Char} (h : quote ∉ text) : text.head? ≠ some quote :=
  fun hhead => h (List.mem_of_head? hhead)

theorem head?_interleaved (hparts : ∀ part ∈ parts, part.1 ≠ "" ∧ quote ∉ part.1.toList)
    (hending : quote ∉ ending.toList) :
    (interleaved quote parts ending).toList.head? ≠ some quote := by
  cases parts with
  | nil => exact head?_ne_of_not_mem hending
  | cons part parts =>
    obtain ⟨hne, hplain⟩ := hparts part List.mem_cons_self
    have hnil : part.1.toList ≠ [] := mt String.toList_eq_nil_iff.1 hne
    rw [toList_interleaved_cons, List.head?_append, Option.or_of_isSome (List.isSome_head?.2 hnil)]
    exact head?_ne_of_not_mem hplain

/-- Quoted texts are read back as what they say, each of them and nothing else, if something without
a quote stands between one and the next. -/
theorem quotedParts_interleaved (hparts : ∀ part ∈ parts, quote ∉ part.1.toList)
    (hending : quote ∉ ending.toList) (hbetween : ∀ part ∈ parts.tail, part.1 ≠ "") :
    quotedParts quote none (interleaved quote parts ending).toList = parts.map Prod.snd := by
  induction parts with
  | nil =>
    rw [← List.append_nil (interleaved quote [] ending).toList]
    exact quotedParts_plain hending
  | cons part parts ih =>
    obtain ⟨hplain, hothers⟩ := List.forall_mem_cons.1 hparts
    have hhead : (interleaved quote parts ending).toList.head? ≠ some quote :=
      head?_interleaved (fun other h => ⟨hbetween other h, hothers other h⟩) hending
    rw [toList_interleaved_cons, quotedParts_plain hplain, quotedParts_quoted hhead,
      ih hothers fun other h => hbetween other (List.mem_of_mem_tail h), List.map_cons]

example : quotedParts '\'' none (interleaved '\'' [("", "a"), ("", "b")] "").toList = ["a'b"] := by
  decide

end

/-! ## Searching -/

section

variable {part : List Char} (h : quote ∉ part)

include h

theorem isPrefixOf_append_quote (text rest : List Char) :
    part.isPrefixOf (text ++ quote :: rest) = part.isPrefixOf text := by
  induction part generalizing text with
  | nil => rfl
  | cons c part ih =>
    rw [List.mem_cons, not_or] at h
    cases text with
    | nil => simp [List.isPrefixOf, Ne.symm h.1]
    | cons d text =>
      rw [List.cons_append, List.isPrefixOf_cons_cons, List.isPrefixOf_cons_cons, ih h.2]

theorem isPrefixOf_quote_cons (rest : List Char) :
    part.isPrefixOf (quote :: rest) = part.isEmpty := by
  rw [← List.nil_append (quote :: rest), isPrefixOf_append_quote h]
  cases part <;> rfl

theorem occursAt_append_quote (text rest : List Char) :
    occursAt part (text ++ quote :: rest) = (occursAt part text || occursAt part rest) := by
  induction text with
  | nil => rw [List.nil_append, occursAt, occursAt, isPrefixOf_quote_cons h]
  | cons c text ih =>
    rw [List.cons_append, occursAt, occursAt, ih, ← List.cons_append, isPrefixOf_append_quote h,
      Bool.or_assoc]

theorem isPrefixOf_double (text : List Char) :
    part.isPrefixOf (double quote text) = part.isPrefixOf text := by
  induction part generalizing text with
  | nil => rfl
  | cons c part ih =>
    rw [List.mem_cons, not_or] at h
    cases text with
    | nil => rfl
    | cons d text =>
      rw [double]
      split
      · rename_i hd
        have hne : (c == d) = false := beq_false_of_ne (hd ▸ Ne.symm h.1)
        rw [List.isPrefixOf_cons_cons, List.isPrefixOf_cons_cons, hne, Bool.false_and,
          Bool.false_and]
      · rw [List.isPrefixOf_cons_cons, List.isPrefixOf_cons_cons, ih h.2]

theorem occursAt_double (text : List Char) :
    occursAt part (double quote text) = occursAt part text := by
  induction text with
  | nil => rfl
  | cons c text ih =>
    rw [double]
    split
    · rename_i hc
      subst hc
      simp only [occursAt, isPrefixOf_quote_cons h, ih]
      rw [← Bool.or_assoc, Bool.or_self]
    · rename_i hc
      have hprefix := isPrefixOf_double h (c :: text)
      rw [double, if_neg hc] at hprefix
      rw [occursAt, occursAt, hprefix, ih]

theorem occursAt_append_quoted (text : List Char) (said : String) (rest : List Char) :
    occursAt part (text ++ ((quoted quote said).toList ++ rest)) =
      (occursAt part text || (occursAt part said.toList || occursAt part rest)) := by
  rw [quoted, String.toList_ofList, List.cons_append, List.append_assoc, List.singleton_append,
    occursAt_append_quote h, occursAt_append_quote h, occursAt_double h]

end

end SpatialSql.Text
