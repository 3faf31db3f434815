import Mathlib.Algebra.Group.Nat.Defs
import SpatialSql.Binary64.Rounding
/-!
# What rounding keeps

Rounding looks at a fraction of units only through its value, and gives a double back that is
rounded exactly.
-/

namespace SpatialSql.Binary64

theorem roundQuotient_mul (num den : Nat) {k : Nat} (hk : 0 < k) :
    roundQuotient (num * k) (den * k) = roundQuotient num den := by
  have hbelow (rest : Nat) : 2 * (rest * k) < den * k ↔ 2 * rest < den := by
    rw [← Nat.mul_assoc, Nat.mul_lt_mul_right hk]
  have habove (rest : Nat) : den * k < 2 * (rest * k) ↔ den < 2 * rest := by
    rw [← Nat.mul_assoc, Nat.mul_lt_mul_right hk]
  simp only [roundQuotient, Nat.mul_div_mul_right num den hk, Nat.mul_mod_mul_right, hbelow,
    habove]

theorem roundQuotient_mul_self (n : Nat) {den : Nat} (hden : 0 < den) :
    roundQuotient (n * den) den = n := by
  simp [roundQuotient, Nat.mul_div_cancel n hden, hden]

theorem nearest_mul (num den : Nat) {k : Nat} (hk : 0 < k) :
    nearest (num * k) (den * k) = nearest num den := by
  have hswap (power : Nat) : den * k * power = den * power * k := Nat.mul_right_comm den k power
  simp only [nearest, Nat.mul_div_mul_right num den hk, hswap, roundQuotient_mul _ _ hk]

theorem nearest_congr {num den num' den' : Nat} (hden : 0 < den) (hden' : 0 < den')
    (h : num * den' = num' * den) : nearest num den = nearest num' den' := by
  rw [← nearest_mul num den hden', h, Nat.mul_comm den den', nearest_mul num' den' hden]

/-! ## Exact values -/

theorem nearest_units_subnormal {magnitude : Nat} (h : magnitude < 2 ^ 53)
    (hfinite : magnitude < infiniteMagnitude) : nearest (units magnitude) 1 = magnitude := by
  have hstep : step magnitude = 0 := by
    unfold step
    omega
  have hunits : units magnitude = magnitude := by
    simp [units, significand, hstep]
  have hexponent : magnitude.log2 - 52 = 0 := by
    rcases Nat.eq_zero_or_pos magnitude with rfl | hpos
    · rfl
    · have hlog : magnitude.log2 < 53 := (Nat.log2_lt (by omega)).2 h
      omega
  rw [hunits, nearest, Nat.div_one, hexponent]
  have hround : roundQuotient magnitude (1 * Nat.pow 2 0) = magnitude := by
    have hself := roundQuotient_mul_self magnitude Nat.one_pos
    rwa [Nat.mul_one] at hself
  rw [hround, Nat.zero_mul, Nat.zero_add]
  exact Nat.min_eq_left (Nat.le_of_lt hfinite)

theorem nearest_units_normal {magnitude : Nat} (h : 2 ^ 53 ≤ magnitude)
    (hfinite : magnitude < infiniteMagnitude) : nearest (units magnitude) 1 = magnitude := by
  have hlow : 2 ^ 52 ≤ significand magnitude := by
    unfold significand step
    omega
  have hhigh : significand magnitude < 2 ^ 53 := by
    unfold significand step
    omega
  have hsplit : step magnitude * 0x10000000000000 + significand magnitude = magnitude := by
    unfold significand step
    omega
  have hpower : 0 < 2 ^ step magnitude := Nat.two_pow_pos _
  have hlog : (units magnitude).log2 = 52 + step magnitude := by
    have hunits : units magnitude = significand magnitude * 2 ^ step magnitude := rfl
    have hne : units magnitude ≠ 0 := by
      rw [hunits]
      exact Nat.mul_ne_zero (by omega) (by omega)
    rw [Nat.log2_eq_iff hne, hunits]
    constructor
    · rw [Nat.pow_add]
      exact Nat.mul_le_mul_right _ hlow
    · rw [Nat.add_right_comm, Nat.pow_add]
      exact Nat.mul_lt_mul_of_pos_right hhigh hpower
  have hround : roundQuotient (units magnitude) (1 * Nat.pow 2 (step magnitude)) =
      significand magnitude := by
    rw [Nat.one_mul]
    exact roundQuotient_mul_self _ hpower
  rw [nearest, Nat.div_one, hlog, Nat.add_sub_cancel_left, hround, hsplit]
  exact Nat.min_eq_left (Nat.le_of_lt hfinite)

theorem nearest_units {magnitude : Nat} (hfinite : magnitude < infiniteMagnitude) :
    nearest (units magnitude) 1 = magnitude := by
  by_cases h : magnitude < 2 ^ 53
  · exact nearest_units_subnormal h hfinite
  · exact nearest_units_normal (Nat.le_of_not_lt h) hfinite

end SpatialSql.Binary64
