import SpatialSql.Proofs.Sql.Fragment
/-!
# Numerals

Integers and finite doubles are written as one number each, with a sign of its own if they are
negative.
-/

namespace SpatialSql.Sql

open Binary64 (isFinite isNaN isInfinite infiniteMagnitude literal)

def signedNumber (text : String) : List Token :=
  match text.toList with
  | '-' :: digits => [.operator "-", .number (String.ofList digits)]
  | _ => [.number text]

def IsSigned (text : String) : Prop :=
  ∃ digits, IsNumeral digits ∧ (text.toList = digits ∨ text.toList = '-' :: digits)

theorem reads_signedNumber {text : String} (h : IsSigned text) :
    Reads text (signedNumber text) := by
  obtain ⟨digits, hdigits, htext | htext⟩ := h
  · have hunsigned : signedNumber text = [.number text] := by
      obtain ⟨c, rest, rfl, hc⟩ := head_of_isNumeral hdigits
      unfold signedNumber
      rw [htext]
      split
      · rename_i heq
        cases heq
        cases hc
      · rfl
    rw [hunsigned]
    rw [← htext] at hdigits
    exact reads_number hdigits
  · have hsigned : signedNumber text = [.operator "-", .number (String.ofList digits)] := by
      unfold signedNumber
      rw [htext]
      rfl
    have hnumber : Reads (String.ofList digits) [.number (String.ofList digits)] := by
      apply reads_number
      rw [String.toList_ofList]
      exact hdigits
    rw [hsigned]
    intro rest hrest
    rw [htext, ← List.singleton_append]
    have hdash : Scans "-".toList [.operator "-"] (digits ++ rest) := by
      apply scans_operator (by decide)
      obtain ⟨c, digits, rfl, hc⟩ := head_of_isNumeral hdigits
      intro first hfirst
      cases hfirst
      rw [isSign, isWordChar_of_isDigit hc]
      simp
    have hdigits := hnumber rest hrest
    rw [String.toList_ofList] at hdigits
    exact hdash.append hdigits

/-! ## What is written -/

theorem isDigits_toDigits (n : Nat) : IsDigits (Nat.toDigits 10 n) :=
  ⟨Nat.toDigits_ne_nil, fun _ hc => Nat.isDigit_of_mem_toDigits (by decide) (by decide) hc⟩

theorem IsDigits.append {first more : List Char} (h : IsDigits first)
    (hmore : ∀ c ∈ more, c.isDigit = true) : IsDigits (first ++ more) := by
  refine ⟨List.append_ne_nil_of_left_ne_nil h.1 more, ?_⟩
  intro c hc
  rw [List.mem_append] at hc
  exact hc.elim (h.2 c) (hmore c)

theorem isDigit_replicate (n : Nat) : ∀ c ∈ List.replicate n '0', c.isDigit = true := by
  intro c hc
  rw [(List.mem_replicate.1 hc).2]
  rfl

theorem IsDigits.isNumeral {digits : List Char} (h : IsDigits digits) : IsNumeral digits :=
  ⟨digits, [], [], h, .inl rfl, .inl rfl, by simp⟩

theorem IsDigits.isNumeral_fraction {whole digits : List Char} (h : IsDigits whole)
    (hdigits : IsDigits digits) : IsNumeral (whole ++ '.' :: digits) :=
  ⟨whole, '.' :: digits, [], h, .inr ⟨digits, hdigits, rfl⟩, .inl rfl, by simp⟩

theorem isDigits_digits (d : Decimal) : IsDigits d.digits := isDigits_toDigits d.coefficient

theorem isDigits_positional {d : Decimal} (h : 0 ≤ d.exponent) : IsDigits d.positional := by
  have hplaces : (-d.exponent).toNat = 0 := by omega
  rw [Decimal.positional, hplaces]
  exact (isDigits_digits d).append (isDigit_replicate _)

theorem isNumeral_positional (d : Decimal) : IsNumeral d.positional := by
  by_cases hexponent : 0 ≤ d.exponent
  · exact (isDigits_positional hexponent).isNumeral
  · have hplaces : (-d.exponent).toNat ≠ 0 := by omega
    obtain ⟨hne, hdigits⟩ := isDigits_digits d
    rw [Decimal.positional, if_neg hplaces]
    split
    · rename_i hlength
      have hzero : IsDigits ['0'] := ⟨by simp, by simp⟩
      refine IsDigits.isNumeral_fraction hzero ⟨?_, ?_⟩
      · exact List.append_ne_nil_of_right_ne_nil _ hne
      · intro c hc
        rw [List.mem_append] at hc
        exact hc.elim (isDigit_replicate _ c) (hdigits c)
    · rename_i hlength
      have hwhole : IsDigits (d.digits.take (d.digits.length - (-d.exponent).toNat)) := by
        refine ⟨?_, fun c hc => hdigits c (List.mem_of_mem_take hc)⟩
        rw [← List.length_pos_iff, List.length_take]
        omega
      apply hwhole.isNumeral_fraction
      refine ⟨?_, fun c hc => hdigits c (List.mem_of_mem_drop hc)⟩
      rw [← List.length_pos_iff, List.length_drop]
      omega

theorem toList_toString_int (n : Int) : ∃ digits, IsDigits digits ∧
    ((toString n).toList = digits ∨ (toString n).toList = '-' :: digits) := by
  rw [Int.toString_eq_repr, Int.repr_eq_if]
  split
  · exact ⟨_, isDigits_toDigits n.toNat, .inl Nat.toList_repr⟩
  · refine ⟨_, isDigits_toDigits (-n).toNat, .inr ?_⟩
    rw [String.toList_append, Nat.toList_repr]
    rfl

theorem isNumeral_scientific (d : Decimal) : IsNumeral d.scientific := by
  obtain ⟨hne, hdigits⟩ := isDigits_digits d
  have hpower : IsExponent ('e' :: (toString (d.place - 1)).toList) := by
    obtain ⟨digits, hdigits, heq | heq⟩ := toList_toString_int (d.place - 1)
    · exact .inr ⟨'e', [], digits, .inl rfl, .inl rfl, hdigits, by rw [heq]; rfl⟩
    · exact .inr ⟨'e', ['-'], digits, .inl rfl, .inr (.inl rfl), hdigits, by rw [heq]; rfl⟩
  rw [Decimal.scientific]
  split
  · rename_i lead second rest heq
    rw [heq] at hdigits
    refine ⟨[lead], '.' :: second :: rest, _, ⟨by simp, ?_⟩, ?_, hpower, by simp⟩
    · intro c hc
      exact hdigits c (List.mem_of_mem_take (i := 1) hc)
    · refine .inr ⟨second :: rest, ⟨by simp, ?_⟩, rfl⟩
      intro c hc
      exact hdigits c (List.mem_cons_of_mem lead hc)
  · exact ⟨d.digits, [], _, isDigits_digits d, .inl rfl, hpower, by simp⟩

theorem isSigned_int (n : Int) : IsSigned (toString n) := by
  obtain ⟨digits, hdigits, heq⟩ := toList_toString_int n
  exact ⟨digits, hdigits.isNumeral, heq⟩

theorem isSigned_signed (x : Binary64) {digits : List Char} (h : IsNumeral digits) :
    IsSigned (x.signed (String.ofList digits)) := by
  refine ⟨digits, h, ?_⟩
  rw [Binary64.signed]
  split
  · right
    rw [String.toList_append]
    exact congrArg ('-' :: ·) String.toList_ofList
  · left
    exact String.toList_ofList

theorem isSigned_literal {x : Binary64} (h : x.isFinite = true) : IsSigned x.literal := by
  have hmagnitude : x.magnitude < infiniteMagnitude := by simpa [isFinite] using h
  have hnan : ¬x.isNaN = true := by
    simp only [isNaN, decide_eq_true_eq]
    omega
  have hinfinite : ¬x.isInfinite = true := by
    simp only [isInfinite, beq_iff_eq]
    omega
  rw [literal, if_neg hnan, if_neg hinfinite]
  simp only
  split
  · exact isSigned_signed x (isNumeral_scientific _)
  · split
    · exact isSigned_signed x (isNumeral_positional _)
    · rename_i hexponent
      have hzero : IsDigits ['0'] := ⟨by simp, by simp⟩
      have hwhole := isDigits_positional (Int.not_lt.1 hexponent)
      exact isSigned_signed x (hwhole.isNumeral_fraction hzero)

end SpatialSql.Sql
