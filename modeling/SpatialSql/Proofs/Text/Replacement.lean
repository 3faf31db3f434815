/-!
# Replacing a part of a text

Every occurrence of a part is replaced, from the left and without overlaps.  A text that no
occurrence can reach into from either side stays as it is wherever it stands, so a text is replaced
piece by piece.
-/

namespace SpatialSql.Text

def replaced (part new : List Char) : List Char → List Char
  | [] => []
  | c :: rest =>
    if part.isPrefixOf (c :: rest) then new ++ replaced part new (rest.drop (part.length - 1))
    else c :: replaced part new rest
termination_by text => text.length
decreasing_by
  · simp only [List.length_drop, List.length_cons]
    omega
  · exact Nat.lt_succ_self _

def replaceAll (part new text : String) : String :=
  String.ofList (replaced part.toList new.toList text.toList)

section Pieces

variable {part new : List Char}

theorem replaced_cons {c : Char} {rest : List Char} (h : ¬part <+: c :: rest) :
    replaced part new (c :: rest) = c :: replaced part new rest := by
  rw [replaced, if_neg (by rwa [List.isPrefixOf_iff_prefix])]

theorem replaced_part (hpart : part ≠ []) (rest : List Char) :
    replaced part new (part ++ rest) = new ++ replaced part new rest := by
  obtain ⟨c, part, rfl⟩ := List.exists_cons_of_ne_nil hpart
  have hprefix : (c :: part).isPrefixOf (c :: (part ++ rest)) = true :=
    List.isPrefixOf_iff_prefix.2 (List.prefix_append (c :: part) rest)
  have hdrop : (part ++ rest).drop ((c :: part).length - 1) = rest := List.drop_left
  rw [List.cons_append, replaced, if_pos hprefix, hdrop]

def Replaces (part new piece piece' : List Char) : Prop :=
  ∀ rest, replaced part new (piece ++ rest) = piece' ++ replaced part new rest

/-- Whether no occurrence can begin in the piece, whatever stands behind it. -/
def isClear (part : List Char) : List Char → Bool
  | [] => true
  | c :: rest => !(c :: rest).isPrefixOf part && !part.isPrefixOf (c :: rest) && isClear part rest

theorem Replaces.append {a a' b b' : List Char} (ha : Replaces part new a a')
    (hb : Replaces part new b b') : Replaces part new (a ++ b) (a' ++ b') := by
  intro rest
  rw [List.append_assoc, ha, hb, List.append_assoc]

theorem replaces_nil : Replaces part new [] [] := fun _ => rfl

theorem replaces_part (hpart : part ≠ []) : Replaces part new part new := replaced_part hpart

theorem replaces_of_isClear {piece : List Char} (h : isClear part piece = true) :
    Replaces part new piece piece := by
  intro rest
  induction piece with
  | nil => rfl
  | cons c piece ih =>
    simp only [isClear, Bool.and_eq_true, Bool.not_eq_true', ← Bool.not_eq_true,
      List.isPrefixOf_iff_prefix] at h
    obtain ⟨⟨hshort, hlong⟩, hclear⟩ := h
    have hnot : ¬part <+: c :: (piece ++ rest) := by
      intro hpart
      have hpiece : c :: piece <+: c :: (piece ++ rest) := List.prefix_append (c :: piece) rest
      obtain hfirst | hfirst := List.prefix_or_prefix_of_prefix hpart hpiece
      · exact hlong hfirst
      · exact hshort hfirst
    rw [List.cons_append, replaced_cons hnot, ih hclear, List.cons_append]

theorem replaces_of_not_mem {first : Char} {others piece : List Char} (h : first ∉ piece) :
    Replaces (first :: others) new piece piece := by
  apply replaces_of_isClear
  induction piece with
  | nil => rfl
  | cons c piece ih =>
    rw [List.mem_cons, not_or] at h
    obtain ⟨hc, hpiece⟩ := h
    have hne : (c == first) = false := beq_false_of_ne (Ne.symm hc)
    have hne' : (first == c) = false := beq_false_of_ne hc
    rw [isClear, List.isPrefixOf, List.isPrefixOf, hne, hne', ih hpiece]
    rfl

theorem Replaces.replaceAll_eq {part new text text' : String}
    (h : Replaces part.toList new.toList text.toList text'.toList) :
    replaceAll part new text = text' := by
  have hall := h []
  have hempty : replaced part.toList new.toList [] = [] := by rw [replaced]
  rw [List.append_nil, hempty, List.append_nil] at hall
  rw [replaceAll, hall, String.ofList_toList]

end Pieces

end SpatialSql.Text
