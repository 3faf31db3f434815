import SpatialSql.Proofs.Binary64.Text
import SpatialSql.Proofs.Text.LetterCase
/-!
# Numbers in either case

A number has letters in its name or for its exponent.  It is read alike whatever their case.
-/

namespace SpatialSql.Binary64

open Text (toLower_eq_iff isDigit_toLower)

/-! ## Signs and digits -/

theorem splitSign_cons (c : Char) (rest : List Char) :
    splitSign (c :: rest) =
      if c = '-' then (true, rest) else if c = '+' then (false, rest) else (false, c :: rest) := by
  by_cases hminus : c = '-'
  · rw [hminus]
    rfl
  · rw [if_neg hminus]
    by_cases hplus : c = '+'
    · rw [hplus]
      rfl
    · rw [if_neg hplus]
      unfold splitSign
      split
      · exact absurd (List.cons.inj ‹_›).1 hminus
      · exact absurd (List.cons.inj ‹_›).1 hplus
      · rfl

theorem splitSign_lower (text : List Char) :
    splitSign (text.map Char.toLower) =
      ((splitSign text).1, (splitSign text).2.map Char.toLower) := by
  cases text with
  | nil => rfl
  | cons c rest =>
    rw [List.map_cons, splitSign_cons, splitSign_cons]
    simp only [toLower_eq_iff (d := '-') rfl, toLower_eq_iff (d := '+') rfl]
    split
    · rfl
    · split <;> rfl

theorem lower_digits {digits : List Char} (h : digits.all Char.isDigit = true) :
    digits.map Char.toLower = digits := by
  rw [List.all_eq_true] at h
  calc digits.map Char.toLower = digits.map id :=
        List.map_congr_left fun c hc => toLower_of_isDigit (h c hc)
    _ = digits := List.map_id digits

theorem takeWhile_lower (text : List Char) :
    (text.map Char.toLower).takeWhile Char.isDigit = text.takeWhile Char.isDigit := by
  rw [List.takeWhile_map]
  simp only [Function.comp_def, isDigit_toLower]
  exact lower_digits List.all_takeWhile

theorem dropWhile_lower (text : List Char) :
    (text.map Char.toLower).dropWhile Char.isDigit =
      (text.dropWhile Char.isDigit).map Char.toLower := by
  rw [List.dropWhile_map]
  simp only [Function.comp_def, isDigit_toLower]

/-! ## Numerals -/

theorem isMark_iff {c : Char} : (c = 'e' ∨ c = 'E') ↔ c.toLower = 'e' := by
  constructor
  · rintro (rfl | rfl) <;> rfl
  · intro h
    obtain hc | hc := Text.eq_toLower_or_eq_toUpper c
    · exact .inl (hc.trans h)
    · exact .inr (hc.trans (congrArg Char.toUpper h))

theorem readExponent_lower (text : List Char) :
    readExponent (text.map Char.toLower) = readExponent text := by
  cases text with
  | nil => rfl
  | cons mark rest =>
    rw [List.map_cons, readExponent, readExponent, splitSign_lower]
    generalize splitSign rest = signed
    have hall : (signed.2.map Char.toLower).all Char.isDigit = signed.2.all Char.isDigit := by
      rw [List.all_map]
      simp only [Function.comp_def, isDigit_toLower]
    simp only [isMark_iff, Char.toLower_toLower_eq_toLower, hall, ne_eq, List.map_eq_nil_iff]
    by_cases hdigits : signed.2.all Char.isDigit = true
    · rw [lower_digits hdigits]
    · simp only [hdigits, Bool.false_eq_true, and_false, if_false]

/-- The digits behind a point, if there is one in front, and what goes on behind them. -/
def splitFraction : List Char → List Char × List Char
  | '.' :: rest => (rest.takeWhile Char.isDigit, rest.dropWhile Char.isDigit)
  | rest => ([], rest)

theorem splitFraction_cons {c : Char} (hc : c ≠ '.') (rest : List Char) :
    splitFraction (c :: rest) = ([], c :: rest) := by
  unfold splitFraction
  split
  · exact absurd (List.cons.inj ‹_›).1 hc
  · rfl

theorem splitFraction_lower (text : List Char) :
    splitFraction (text.map Char.toLower) =
      ((splitFraction text).1, (splitFraction text).2.map Char.toLower) := by
  cases text with
  | nil => rfl
  | cons c rest =>
    by_cases hpoint : c = '.'
    · have hlower : '.'.toLower = '.' := rfl
      rw [hpoint, List.map_cons, hlower]
      simp only [splitFraction, takeWhile_lower, dropWhile_lower]
    · have hlower : c.toLower ≠ '.' := mt (toLower_eq_iff rfl).1 hpoint
      rw [List.map_cons, splitFraction_cons hlower, splitFraction_cons hpoint, List.map_cons]

theorem readNumeral_eq (text : List Char) :
    readNumeral text = (
      let whole := text.takeWhile Char.isDigit
      let split := splitFraction (text.dropWhile Char.isDigit)
      if whole ++ split.1 = [] then .error .invalid
      else do
        match ← readExponent split.2 with
        | none =>
          .ok (Decimal.magnitude ⟨Nat.ofDigitChars 10 (whole ++ split.1) 0, -split.1.length⟩)
        | some exponent => .ok (scaled (whole ++ split.1) (exponent - split.1.length))) := rfl

theorem readNumeral_lower (text : List Char) :
    readNumeral (text.map Char.toLower) = readNumeral text := by
  rw [readNumeral_eq, readNumeral_eq, takeWhile_lower, dropWhile_lower, splitFraction_lower]
  simp only [readExponent_lower]

/-! ## Numbers -/

theorem readMagnitude_lower (text : List Char) :
    readMagnitude (text.map Char.toLower) = readMagnitude text := by
  unfold readMagnitude
  have htwice : (text.map Char.toLower).map Char.toLower = text.map Char.toLower := by
    rw [List.map_map]
    simp only [Function.comp_def, Char.toLower_toLower_eq_toLower]
  rw [htwice, readNumeral_lower]

theorem read_lower (text : List Char) : read (text.map Char.toLower) = read text := by
  rw [read, read, splitSign_lower]
  simp only [List.map_eq_nil_iff, readMagnitude_lower]

end SpatialSql.Binary64
