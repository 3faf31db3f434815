import SpatialSql.Envelope
import SpatialSql.Proofs.Binary64.Extrema
/-!
# Joining envelopes

Growing an envelope, by a coordinate or by another envelope, is one operation bound by bound: the
lesser of the lower bounds and the greater of the upper ones.  Leaving out what is null makes no
difference to it, since the bounds of the null envelope give way to any number.
-/

namespace SpatialSql

/-- Whether a coordinate has a place in the plane. -/
def Coordinate.contributes (c : Coordinate) : Bool := !c.x.isNaN && !c.y.isNaN

def Coordinate.height? (c : Coordinate) : Option Binary64 := c.z.filter fun z => !z.isNaN

theorem Coordinate.contributes_iff {c : Coordinate} :
    c.contributes = true ↔ c.x.isNaN = false ∧ c.y.isNaN = false := by
  rw [contributes, Bool.and_eq_true, Bool.not_eq_true', Bool.not_eq_true']

theorem Coordinate.isNaN_of_height? {c : Coordinate} {z : Binary64} (h : c.height? = some z) :
    z.isNaN = false := by
  rw [height?, Option.filter_eq_some_iff] at h
  simpa using h.2

namespace Envelope

/-! ## Sound envelopes -/

/-- An envelope with ordered bounds, and with two bounds of the third ordinate or none. -/
structure IsBox (e : Envelope) : Prop where
  x : e.minX.le e.maxX = true
  y : e.minY.le e.maxY = true
  z : (e.minZ = none ∧ e.maxZ = none) ∨
    ∃ low high, e.minZ = some low ∧ e.maxZ = some high ∧ low.le high = true

/-- An envelope that is the null one or a box. -/
def IsSound (e : Envelope) : Prop := e = null ∨ e.IsBox

/-- Bounds in the plane that are numbers, in whatever order. -/
structure HasNumbers (e : Envelope) : Prop where
  minX : e.minX.isNaN = false
  minY : e.minY.isNaN = false
  maxX : e.maxX.isNaN = false
  maxY : e.maxY.isNaN = false

theorem hasNumbers_null : null.HasNumbers := ⟨by decide, by decide, by decide, by decide⟩

theorem isNull_null : null.isNull = true := by decide

theorem isSound_null : null.IsSound := .inl rfl

theorem isNull_eq_false_of_le {e : Envelope} (h : e.minX.le e.maxX = true) : e.isNull = false := by
  have hkey := (Binary64.le_eq_true_iff.1 h).2.2
  rw [isNull, Binary64.lt, decide_eq_false (Int.not_lt.2 hkey), Bool.and_false]

theorem IsBox.isNull_eq_false {e : Envelope} (h : e.IsBox) : e.isNull = false :=
  isNull_eq_false_of_le h.x

theorem IsBox.hasNumbers {e : Envelope} (h : e.IsBox) : e.HasNumbers := by
  have hx := Binary64.le_eq_true_iff.1 h.x
  have hy := Binary64.le_eq_true_iff.1 h.y
  exact ⟨hx.1, hy.1, hx.2.1, hy.2.1⟩

section

variable {e : Envelope} (h : e.IsSound)

include h

theorem IsSound.hasNumbers : e.HasNumbers := by
  obtain rfl | hbox := h
  · exact hasNumbers_null
  · exact hbox.hasNumbers

theorem IsSound.isNull_iff : e.isNull = true ↔ e = null := by
  obtain rfl | hbox := h
  · exact iff_of_true isNull_null rfl
  · rw [hbox.isNull_eq_false]
    refine ⟨nofun, fun hnull => ?_⟩
    have hfalse := hbox.isNull_eq_false
    rw [hnull, isNull_null] at hfalse
    cases hfalse

theorem IsSound.isBox (hnull : e.isNull = false) : e.IsBox := by
  obtain rfl | hbox := h
  · rw [isNull_null] at hnull
    cases hnull
  · exact hbox

end

/-! ## The join -/

/-- The lesser lower bounds and the greater upper bounds of two envelopes. -/
def join (a b : Envelope) : Envelope where
  minX := a.minX.min b.minX
  minY := a.minY.min b.minY
  maxX := a.maxX.max b.maxX
  maxY := a.maxY.max b.maxY
  minZ := a.minZ.merge Binary64.min b.minZ
  maxZ := a.maxZ.merge Binary64.max b.maxZ

theorem join_assoc (a b c : Envelope) : (a.join b).join c = a.join (b.join c) := by
  have hlow (x y z : Option Binary64) : (x.merge Binary64.min y).merge Binary64.min z =
      x.merge Binary64.min (y.merge Binary64.min z) := Std.Associative.assoc x y z
  have hhigh (x y z : Option Binary64) : (x.merge Binary64.max y).merge Binary64.max z =
      x.merge Binary64.max (y.merge Binary64.max z) := Std.Associative.assoc x y z
  simp only [join, Binary64.min_assoc, Binary64.max_assoc, hlow, hhigh]

theorem join_self (e : Envelope) : e.join e = e := by
  have hlow (x : Option Binary64) : x.merge Binary64.min x = x := Std.IdempotentOp.idempotent x
  have hhigh (x : Option Binary64) : x.merge Binary64.max x = x := Std.IdempotentOp.idempotent x
  simp only [join, Binary64.min_self, Binary64.max_self, hlow, hhigh]

section

variable {e : Envelope} (h : e.HasNumbers)

include h

theorem null_join : null.join e = e := by
  simp only [join, null, Binary64.infinity_min h.minX, Binary64.infinity_min h.minY,
    Binary64.negInfinity_max h.maxX, Binary64.negInfinity_max h.maxY, Option.merge_none_left]

theorem join_null : e.join null = e := by
  simp only [join, null, Binary64.min_infinity h.minX, Binary64.min_infinity h.minY,
    Binary64.max_negInfinity h.maxX, Binary64.max_negInfinity h.maxY, Option.merge_none_right]

end

/-! ## Growing is joining -/

theorem widen_eq_merge (choose : Binary64 → Binary64 → Binary64) (bound : Option Binary64)
    (z : Binary64) : widen choose bound z = bound.merge choose (some z) := by
  cases bound <;> rfl

section

variable {a b : Envelope} (ha : a.IsSound) (hb : b.IsSound)

include ha hb

theorem union_eq_join : a.union b = a.join b := by
  obtain rfl | hbox := hb
  · rw [union, if_pos isNull_null, join_null ha.hasNumbers]
  · rw [union, if_neg (Bool.eq_false_iff.1 hbox.isNull_eq_false), join]
    obtain ⟨hlow, hhigh⟩ | ⟨low, high, hlow, hhigh, -⟩ := hbox.z
    · simp only [hlow, hhigh, Option.merge_none_right]
    · simp only [hlow, hhigh, widenZ, widen_eq_merge]

end

def ofCoordinate (c : Coordinate) : Envelope :=
  if c.contributes then ⟨c.x, c.y, c.x, c.y, c.height?, c.height?⟩ else null

theorem insert_of_not_contributes {c : Coordinate} (hc : c.contributes = false) (e : Envelope) :
    e.insert c = e := by
  have hnan : (c.x.isNaN || c.y.isNaN) = true := by
    rwa [Coordinate.contributes, ← Bool.not_or, Bool.not_eq_false'] at hc
  rw [insert, if_pos hnan]

theorem insert_eq_join {e : Envelope} (h : e.HasNumbers) (c : Coordinate) :
    e.insert c = e.join (ofCoordinate c) := by
  cases hc : c.contributes with
  | false => rw [insert_of_not_contributes hc, ofCoordinate, hc, if_neg nofun, join_null h]
  | true =>
    obtain ⟨hx, hy⟩ := Coordinate.contributes_iff.1 hc
    rw [insert, hx, hy, ofCoordinate, if_pos hc, if_neg nofun, ← Coordinate.height?, join]
    cases c.height? with
    | none => simp only [Option.merge_none_right]
    | some z => simp only [widenZ, widen_eq_merge]

/-! ## Soundness is kept -/

theorem IsBox.join {a b : Envelope} (ha : a.IsBox) (hb : b.IsBox) : (a.join b).IsBox where
  x := Binary64.le_trans (Binary64.min_le_left ha.hasNumbers.minX hb.hasNumbers.minX)
    (Binary64.le_trans ha.x (Binary64.le_max_left ha.hasNumbers.maxX hb.hasNumbers.maxX))
  y := Binary64.le_trans (Binary64.min_le_left ha.hasNumbers.minY hb.hasNumbers.minY)
    (Binary64.le_trans ha.y (Binary64.le_max_left ha.hasNumbers.maxY hb.hasNumbers.maxY))
  z := by
    obtain ⟨halow, hahigh⟩ | ⟨low, high, halow, hahigh, hle⟩ := ha.z
    · simp only [Envelope.join, halow, hahigh, Option.merge_none_left]
      exact hb.z
    · obtain ⟨hblow, hbhigh⟩ | ⟨low', high', hblow, hbhigh, hle'⟩ := hb.z
      · simp only [Envelope.join, hblow, hbhigh, Option.merge_none_right]
        exact ha.z
      · right
        refine ⟨low.min low', high.max high', ?_, ?_, ?_⟩
        · rw [Envelope.join, halow, hblow, Option.merge_some_some]
        · rw [Envelope.join, hahigh, hbhigh, Option.merge_some_some]
        · have hnumber := Binary64.le_eq_true_iff.1 hle
          have hnumber' := Binary64.le_eq_true_iff.1 hle'
          exact Binary64.le_trans (Binary64.min_le_left hnumber.1 hnumber'.1)
            (Binary64.le_trans hle (Binary64.le_max_left hnumber.2.1 hnumber'.2.1))

theorem IsSound.join {a b : Envelope} (ha : a.IsSound) (hb : b.IsSound) : (a.join b).IsSound := by
  obtain rfl | hbox := ha
  · rwa [null_join hb.hasNumbers]
  · obtain rfl | hbox' := hb
    · rw [join_null hbox.hasNumbers]
      exact .inr hbox
    · exact .inr (hbox.join hbox')

theorem isSound_ofCoordinate (c : Coordinate) : (ofCoordinate c).IsSound := by
  cases hc : c.contributes with
  | false =>
    rw [ofCoordinate, hc, if_neg nofun]
    exact isSound_null
  | true =>
    obtain ⟨hx, hy⟩ := Coordinate.contributes_iff.1 hc
    rw [ofCoordinate, if_pos hc]
    refine .inr ⟨Binary64.le_refl hx, Binary64.le_refl hy, ?_⟩
    cases hz : c.height? with
    | none => exact .inl ⟨rfl, rfl⟩
    | some z => exact .inr ⟨z, z, rfl, rfl, Binary64.le_refl (Coordinate.isNaN_of_height? hz)⟩

theorem IsSound.insert {e : Envelope} (h : e.IsSound) (c : Coordinate) : (e.insert c).IsSound := by
  rw [insert_eq_join h.hasNumbers]
  exact h.join (isSound_ofCoordinate c)

theorem IsSound.union {a b : Envelope} (ha : a.IsSound) (hb : b.IsSound) :
    (a.union b).IsSound := by
  rw [union_eq_join ha hb]
  exact ha.join hb

/-! ## Sequences of coordinates -/

theorem IsSound.foldl_insert {e : Envelope} (h : e.IsSound) (cs : List Coordinate) :
    (cs.foldl Envelope.insert e).IsSound := by
  induction cs generalizing e with
  | nil => exact h
  | cons c rest ih => exact ih (h.insert c)

theorem isSound_ofCoordinates (cs : List Coordinate) : (ofCoordinates cs).IsSound :=
  isSound_null.foldl_insert cs

theorem foldl_insert_eq_join {e : Envelope} (h : e.IsSound) (cs : List Coordinate) :
    cs.foldl insert e = e.join (ofCoordinates cs) := by
  induction cs generalizing e with
  | nil => exact (join_null h.hasNumbers).symm
  | cons c rest ih =>
    have hfirst : null.insert c = ofCoordinate c := by
      rw [insert_eq_join hasNumbers_null, null_join (isSound_ofCoordinate c).hasNumbers]
    calc (c :: rest).foldl insert e = rest.foldl insert (e.insert c) := rfl
      _ = (e.insert c).join (ofCoordinates rest) := ih (h.insert c)
      _ = (e.join (null.insert c)).join (ofCoordinates rest) := by
        rw [insert_eq_join h.hasNumbers, hfirst]
      _ = e.join ((null.insert c).join (ofCoordinates rest)) := join_assoc _ _ _
      _ = e.join (ofCoordinates (c :: rest)) := by
        rw [← ih (isSound_null.insert c)]
        rfl

theorem ofCoordinates_append (cs ds : List Coordinate) :
    ofCoordinates (cs ++ ds) = (ofCoordinates cs).join (ofCoordinates ds) := by
  rw [ofCoordinates, List.foldl_append]
  exact foldl_insert_eq_join (isSound_ofCoordinates cs) ds

end Envelope

end SpatialSql
