import Mathlib
import SpatialSql.Text.Blank
import SpatialSql.Text.CaseFold
/-!
# Letters and their cases

What is no letter has one case alone, so that a change of case passes over digits, signs, blanks
and parentheses.
-/

namespace SpatialSql.Text

theorem toLower_of_not_isAlpha {c : Char} (h : c.isAlpha = false) : c.toLower = c := by
  apply Char.toLower_eq_of_not_isUpper
  rw [Char.isAlpha, Bool.or_eq_false_iff] at h
  simp [h.1]

theorem toLower_eq_iff {c d : Char} (hd : d.isAlpha = false) : c.toLower = d ↔ c = d := by
  constructor
  · intro h
    have hc : c.isAlpha = false := by rw [← Char.isAlpha_toLower_eq_isAlpha, h, hd]
    rw [← h, toLower_of_not_isAlpha hc]
  · rintro rfl
    exact toLower_of_not_isAlpha hd

theorem toLower_beq {c d : Char} (hd : d.isAlpha = false) : (c.toLower == d) = (c == d) := by
  rw [Bool.eq_iff_iff, beq_iff_eq, beq_iff_eq, toLower_eq_iff hd]

theorem eq_toLower_or_eq_toUpper (c : Char) : c = c.toLower ∨ c = c.toLower.toUpper := by
  by_cases h : c.isUpper = true
  · have hnot : ¬ c.isLower = true := Char.not_isLower_of_isUpper h
    rw [Char.toUpper_toLower_eq_toUpper, Char.toUpper_eq_of_not_isLower hnot]
    exact .inr rfl
  · exact .inl (Char.toLower_eq_of_not_isUpper h).symm

theorem isDigit_of_isAlpha {c : Char} (h : c.isAlpha = true) : c.isDigit = false := by
  rw [Bool.eq_false_iff]
  intro hdigit
  simp only [Char.isAlpha, Char.isUpper, Char.isLower, Char.isDigit, Bool.or_eq_true,
    Bool.and_eq_true, decide_eq_true_eq, UInt32.le_iff_toNat_le, ge_iff_le, Char.reduceVal,
    UInt32.reduceToNat] at h hdigit
  omega

theorem isDigit_toLower (c : Char) : c.toLower.isDigit = c.isDigit := by
  by_cases h : c.isAlpha = true
  · have hlower : c.toLower.isAlpha = true := by rw [Char.isAlpha_toLower_eq_isAlpha, h]
    rw [isDigit_of_isAlpha h, isDigit_of_isAlpha hlower]
  · rw [toLower_of_not_isAlpha (Bool.eq_false_iff.2 h)]

theorem isBlankChar_of_isAlpha {c : Char} (h : c.isAlpha = true) : isBlankChar c = false := by
  have hrange : 65 ≤ c.toNat ∧ c.toNat ≤ 122 := by
    simp only [Char.isAlpha, Char.isUpper, Char.isLower, Bool.or_eq_true, Bool.and_eq_true,
      decide_eq_true_eq, UInt32.le_iff_toNat_le, ge_iff_le, Char.reduceVal,
      UInt32.reduceToNat] at h
    show 65 ≤ c.val.toNat ∧ c.val.toNat ≤ 122
    omega
  simp only [isBlankChar, blankRanges, List.any_cons, List.any_nil, Bool.or_false,
    Bool.or_eq_false_iff, decide_eq_false_iff_not]
  omega

theorem isBlankChar_toLower (c : Char) : isBlankChar c.toLower = isBlankChar c := by
  by_cases h : c.isAlpha = true
  · have hlower : c.toLower.isAlpha = true := by rw [Char.isAlpha_toLower_eq_isAlpha, h]
    rw [isBlankChar_of_isAlpha h, isBlankChar_of_isAlpha hlower]
  · rw [toLower_of_not_isAlpha (Bool.eq_false_iff.2 h)]

theorem trimStart_lower (text : List Char) :
    trimStart (text.map Char.toLower) = (trimStart text).map Char.toLower := by
  rw [trimStart, List.dropWhile_map]
  simp only [Function.comp_def, isBlankChar_toLower, trimStart]

theorem trim_lower (text : List Char) :
    trim (text.map Char.toLower) = (trim text).map Char.toLower := by
  rw [trim, trimStart_lower, ← List.map_reverse, trimStart_lower, ← List.map_reverse, trim]

theorem toList_lower (text : String) : (lower text).toList = text.toList.map Char.toLower := by
  rw [lower, String.toList_ofList]

theorem upper_lower (text : String) : upper (lower text) = upper text := by
  rw [upper, toList_lower, List.map_map, upper]
  simp only [Function.comp_def, Char.toUpper_toLower_eq_toUpper]

end SpatialSql.Text
