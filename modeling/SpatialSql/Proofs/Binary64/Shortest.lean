import SpatialSql.Binary64.Decimal
import SpatialSql.Proofs.Binary64.Rounding
/-!
# Shortest decimals read back

A decimal is read by its value alone, so zeros may move between its coefficient and its power of
ten.  Every decimal that the search for the shortest one offers reads back as the double it was
made for.
-/

namespace SpatialSql.Decimal

open Binary64

theorem magnitude_congr {d d' : Decimal}
    (h : d.coefficient * 10 ^ d.exponent.toNat * 10 ^ (-d'.exponent).toNat =
      d'.coefficient * 10 ^ d'.exponent.toNat * 10 ^ (-d.exponent).toNat) :
    d.magnitude = d'.magnitude := by
  have hpos (n : Nat) : 0 < Nat.pow 10 n := Nat.pow_pos (by decide)
  refine nearest_congr (hpos _) (hpos _) ?_
  rw [Nat.mul_right_comm, Nat.mul_right_comm _ unitsPerOne]
  exact congrArg (· * unitsPerOne) h

theorem ofDigitChars_digits (d : Decimal) : Nat.ofDigitChars 10 d.digits 0 = d.coefficient :=
  Nat.ofDigitChars_toDigits (by decide) (by decide)

/-! ## Zeros at either end -/

theorem ofDigitChars_zeros (count init : Nat) :
    Nat.ofDigitChars 10 (List.replicate count '0') init = init * 10 ^ count := by
  induction count generalizing init with
  | zero => simp
  | succ count ih =>
    have hzero : 10 * init + ('0'.toNat - '0'.toNat) = init * 10 := by omega
    rw [List.replicate_succ, Nat.ofDigitChars_cons, hzero, ih, Nat.pow_succ', Nat.mul_assoc]

/-- The zeros at the end of a row of digits are a power of ten in its value. -/
theorem pow_dvd_ofDigitChars (digits : List Char) :
    10 ^ (digits.reverse.takeWhile (· == '0')).length ∣ Nat.ofDigitChars 10 digits 0 := by
  have hzeros : (digits.reverse.takeWhile (· == '0')).reverse =
      List.replicate (digits.reverse.takeWhile (· == '0')).length '0' := by
    rw [List.eq_replicate_iff]
    refine ⟨List.length_reverse, fun c hc => ?_⟩
    have hmem : c ∈ digits.reverse.takeWhile (· == '0') := List.mem_reverse.1 hc
    exact eq_of_beq (List.all_eq_true.1 List.all_takeWhile c hmem)
  have hsplit : digits = (digits.reverse.dropWhile (· == '0')).reverse ++
      List.replicate (digits.reverse.takeWhile (· == '0')).length '0' := by
    rw [← hzeros, ← List.reverse_append, List.takeWhile_append_dropWhile, List.reverse_reverse]
  have hvalue := congrArg (Nat.ofDigitChars 10 · 0) hsplit
  simp only [Nat.ofDigitChars_append, ofDigitChars_zeros] at hvalue
  rw [hvalue]
  exact Nat.dvd_mul_left _ _

theorem magnitude_strip (d : Decimal) : d.strip.magnitude = d.magnitude := by
  unfold strip
  split
  · rename_i hzero
    apply magnitude_congr
    simp [hzero]
  · let zeros := (d.digits.reverse.takeWhile (· == '0')).length
    have hdvd : 10 ^ zeros ∣ d.coefficient := by
      have hpow := pow_dvd_ofDigitChars d.digits
      rwa [ofDigitChars_digits] at hpow
    have hcoefficient : d.coefficient / 10 ^ zeros * 10 ^ zeros = d.coefficient :=
      Nat.div_mul_cancel hdvd
    have hpowers : zeros + d.exponent.toNat + (-(d.exponent + zeros)).toNat =
        (d.exponent + zeros).toNat + (-d.exponent).toNat := by omega
    apply magnitude_congr
    change d.coefficient / 10 ^ zeros * 10 ^ (d.exponent + zeros).toNat * 10 ^ (-d.exponent).toNat
      = d.coefficient * 10 ^ d.exponent.toNat * 10 ^ (-(d.exponent + zeros)).toNat
    calc d.coefficient / 10 ^ zeros * 10 ^ (d.exponent + zeros).toNat * 10 ^ (-d.exponent).toNat
        = d.coefficient / 10 ^ zeros *
            10 ^ ((d.exponent + zeros).toNat + (-d.exponent).toNat) := by
          rw [Nat.pow_add, Nat.mul_assoc]
      _ = d.coefficient / 10 ^ zeros *
            10 ^ (zeros + d.exponent.toNat + (-(d.exponent + zeros)).toNat) := by rw [hpowers]
      _ = d.coefficient / 10 ^ zeros * 10 ^ zeros * 10 ^ d.exponent.toNat *
            10 ^ (-(d.exponent + zeros)).toNat := by
          rw [Nat.pow_add, Nat.pow_add, ← Nat.mul_assoc, ← Nat.mul_assoc]
      _ = _ := by rw [hcoefficient]

/-! ## The search -/

theorem magnitude_onGrid {target : Nat} {exponent : Int} {d : Decimal}
    (h : onGrid? target exponent = some d) : d.magnitude = target := by
  unfold onGrid? at h
  simp only at h
  split at h
  · rename_i hlower
    cases h
    rw [Bool.and_eq_true] at hlower
    exact eq_of_beq hlower.1
  · split at h
    · rename_i hupper
      cases h
      exact eq_of_beq hupper
    · cases h

theorem magnitude_exact {target : Nat} (hfinite : target < infiniteMagnitude) :
    (exact target).magnitude = target := by
  -- The power is a variable: nothing should try to evaluate it.
  obtain ⟨places, hplaces⟩ : ∃ places, places = 1074 := ⟨_, rfl⟩
  have hnone : (-1074 : Int).toNat = 0 := rfl
  have hall : (- -1074 : Int).toNat = places := hplaces.symm
  have hten : Nat.pow 5 places * Nat.pow 2 places = Nat.pow 10 places :=
    (Nat.mul_pow 5 2 places).symm
  have hnum : units target * Nat.pow 5 places * Nat.pow 10 0 * Nat.pow 2 places =
      units target * Nat.pow 10 places := by
    rw [← hten, ← Nat.mul_assoc]
    exact congrArg (· * Nat.pow 2 places) (Nat.mul_one _)
  have hpower : 0 < Nat.pow 10 places := Nat.pow_pos (by decide)
  have hmul := nearest_mul (units target) 1 hpower
  unfold magnitude exact unitsPerOne
  simp only [hnone, hall]
  rw [← hplaces, hnum]
  rw [Nat.one_mul] at hmul
  exact hmul.trans (nearest_units hfinite)

theorem magnitude_shortest {target : Nat} (hfinite : target < infiniteMagnitude) :
    (shortest target).magnitude = target := by
  unfold shortest
  split
  · rename_i hzero
    have hnearest : nearest (units target) 1 = target := nearest_units hfinite
    have hnothing : units target = 0 := by simp [hzero, units, significand]
    rw [hnothing] at hnearest
    refine Eq.trans ?_ hnearest
    exact nearest_congr Nat.one_pos Nat.one_pos (by simp)
  · rw [magnitude_strip]
    cases hfound : (List.range 17).findSome? fun (further : Nat) =>
        onGrid? target (leadingExponent (units target) - further) with
    | none => exact magnitude_exact hfinite
    | some d =>
      obtain ⟨further, -, hgrid⟩ := List.exists_of_findSome?_eq_some hfound
      exact magnitude_onGrid hgrid

end SpatialSql.Decimal
