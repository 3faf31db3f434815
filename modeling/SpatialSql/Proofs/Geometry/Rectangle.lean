import SpatialSql.Dialect
import SpatialSql.Proofs.Envelope.Joining
import SpatialSql.Proofs.Geometry.Building
/-!
# Rectangles

The bounds between two corners are settled: meeting them again, in whatever order, changes none of
their bits, the sign of a zero included.  So the envelope that a rectangle was built from is the
one that is read off it, also behind either format.
-/

namespace SpatialSql

namespace Binary64

/-- Two numbers in order, whose lesser one is the first and whose greater one is the second with
every bit. -/
structure IsSpan (low high : Binary64) : Prop where
  isNaN_low : low.isNaN = false
  isNaN_high : high.isNaN = false
  min_eq : low.min high = low
  max_eq : low.max high = high
  max_swapped : high.max low = high

theorem isSpan_min_max {x y : Binary64} (hx : x.isNaN = false) (hy : y.isNaN = false) :
    IsSpan (x.min y) (x.max y) := by
  have hlow : (x.min y).isNaN = false := by rw [isNaN_min, hx, Bool.false_and]
  have hhigh : (x.max y).isNaN = false := by rw [isNaN_max, hx, Bool.false_and]
  have hle : (x.min y).key ≤ (x.max y).key := (le_eq_true_iff.1 (min_le_max hx hy)).2.2
  have hfalling : fallingKey (x.max y) ≤ fallingKey (x.min y) := Int.neg_le_neg hle
  refine ⟨hlow, hhigh, pick_of_le hlow hhigh hle, ?_, ?_⟩
  · by_cases hlt : (x.min y).key < (x.max y).key
    · rw [max_eq_pick] at hhigh hlt ⊢
      exact pick_of_lt hlow hhigh (Int.neg_lt_neg hlt)
    · -- numbers with one key: both choices fall on the first
      have hkey : x.key = y.key := by
        rw [key_min hx hy, key_max hx hy] at hlt
        omega
      have hmin : x.min y = x := pick_of_le hx hy (Int.le_of_eq hkey)
      have hmax : x.max y = x := by
        rw [max_eq_pick]
        exact pick_of_le hx hy (Int.neg_le_neg (Int.le_of_eq hkey.symm))
      rw [hmin, hmax, max_self]
  · rw [max_eq_pick] at hhigh hfalling ⊢
    exact pick_of_le hhigh hlow hfalling

theorem isFinite_pick {r : Binary64 → Int} {x y : Binary64} (hx : x.isFinite = true)
    (hy : y.isFinite = true) : (pick r x y).isFinite = true := by
  obtain h | h := pick_eq_or (r := r) x y
  · rwa [h]
  · rwa [h]

end Binary64

namespace Envelope

open Binary64 (IsSpan)

theorem insert_planar {e : Envelope} {x y : Binary64} (hx : x.isNaN = false)
    (hy : y.isNaN = false) : e.insert (.planar x y) =
      { e with minX := e.minX.min x, minY := e.minY.min y
               maxX := e.maxX.max x, maxY := e.maxY.max y } := by
  simp only [insert, Coordinate.planar, hx, hy, Option.filter_none]
  rfl

theorem ofCoordinates_corners {lowX highX lowY highY : Binary64} (hx : IsSpan lowX highX)
    (hy : IsSpan lowY highY) :
    ofCoordinates [.planar lowX lowY, .planar lowX highY, .planar highX highY,
      .planar highX lowY, .planar lowX lowY] = ⟨lowX, lowY, highX, highY, none, none⟩ := by
  simp only [ofCoordinates, List.foldl_cons, List.foldl_nil, null,
    insert_planar hx.isNaN_low hy.isNaN_low, insert_planar hx.isNaN_low hy.isNaN_high,
    insert_planar hx.isNaN_high hy.isNaN_high, insert_planar hx.isNaN_high hy.isNaN_low,
    Binary64.infinity_min hx.isNaN_low, Binary64.infinity_min hy.isNaN_low,
    Binary64.negInfinity_max hx.isNaN_low, Binary64.negInfinity_max hy.isNaN_low,
    Binary64.min_self, Binary64.max_self, hx.min_eq, hx.max_eq, hx.max_swapped, hy.min_eq,
    hy.max_eq, hy.max_swapped]

end Envelope

namespace Geometry

theorem envelope_rectangle {x₀ y₀ x₁ y₁ : Binary64} (hx₀ : x₀.isNaN = false)
    (hy₀ : y₀.isNaN = false) (hx₁ : x₁.isNaN = false) (hy₁ : y₁.isNaN = false) :
    (rectangle x₀ y₀ x₁ y₁).envelope = .ofCorners x₀ y₀ x₁ y₁ :=
  Envelope.ofCoordinates_corners (Binary64.isSpan_min_max hx₀ hx₁)
    (Binary64.isSpan_min_max hy₀ hy₁)

theorem hasRings_rectangle {x₀ y₀ : Binary64} (hx₀ : x₀.isFinite = true)
    (hy₀ : y₀.isFinite = true) (x₁ y₁ : Binary64) : (rectangle x₀ y₀ x₁ y₁).HasRings := by
  rw [hasRings_rectangle_iff, Binary64.isNaN_of_isFinite hx₀, Binary64.isNaN_of_isFinite hy₀]
  exact ⟨rfl, rfl⟩

section Finite

variable {x₀ y₀ x₁ y₁ : Binary64} (hx₀ : x₀.isFinite = true) (hy₀ : y₀.isFinite = true)
  (hx₁ : x₁.isFinite = true) (hy₁ : y₁.isFinite = true)

include hx₀ hy₀ hx₁ hy₁

theorem isFinite_of_mem_rectangle :
    ∀ c ∈ (rectangle x₀ y₀ x₁ y₁).coordinates, c.IsFinite ∧ c.hasZ = false := by
  have hminX : (x₀.min x₁).isFinite = true := Binary64.isFinite_pick hx₀ hx₁
  have hminY : (y₀.min y₁).isFinite = true := Binary64.isFinite_pick hy₀ hy₁
  have hmaxX : (x₀.max x₁).isFinite = true := by
    rw [Binary64.max_eq_pick]
    exact Binary64.isFinite_pick hx₀ hx₁
  have hmaxY : (y₀.max y₁).isFinite = true := by
    rw [Binary64.max_eq_pick]
    exact Binary64.isFinite_pick hy₀ hy₁
  have hplanar {x y : Binary64} (hx : x.isFinite = true) (hy : y.isFinite = true) :
      (Coordinate.planar x y).IsFinite ∧ (Coordinate.planar x y).hasZ = false :=
    ⟨⟨hx, hy, nofun⟩, rfl⟩
  show ∀ c ∈ [_, _, _, _, _], _
  simp only [List.forall_mem_cons]
  exact ⟨hplanar hminX hminY, hplanar hminX hmaxY, hplanar hmaxX hmaxY, hplanar hmaxX hminY,
    hplanar hminX hminY, nofun⟩

theorem decode_encode_rectangle (order : Wkb.ByteOrder) (srid : Option Int32) :
    Wkb.decode (Wkb.encode order (rectangle x₀ y₀ x₁ y₁) srid) =
      .ok (rectangle x₀ y₀ x₁ y₁, srid) := by
  have hcanonical (c : Coordinate) (hc : c ∈ (rectangle x₀ y₀ x₁ y₁).coordinates) :
      c.IsCanonical := by
    obtain ⟨⟨hx, hy, hz⟩, -⟩ := isFinite_of_mem_rectangle hx₀ hy₀ hx₁ hy₁ c hc
    refine ⟨?_, fun z hcz => Binary64.isNaN_of_isFinite (hz z hcz)⟩
    rw [Coordinate.isBlank, Binary64.isNaN_of_isFinite hx, Bool.false_and]
  have hlists : (rectangle x₀ y₀ x₁ y₁).IsCountable :=
    show ∀ n ∈ [1, 5], n < 2 ^ 32 by decide
  rw [Wkb.decode_encode_of_le (hasRings_rectangle hx₀ hy₀ x₁ y₁) hlists order srid
    (Nat.zero_le _), canonical_eq _ rfl hcanonical]

theorem read_write_rectangle :
    Wkt.read (Wkt.write (rectangle x₀ y₀ x₁ y₁)) = .ok (rectangle x₀ y₀ x₁ y₁) := by
  have hfinite := isFinite_of_mem_rectangle hx₀ hy₀ hx₁ hy₁
  have hregular : (rectangle x₀ y₀ x₁ y₁).IsRegular := by
    refine ⟨fun _ => .inr fun c hc => (hfinite c hc).2, ?_, ?_⟩
    · exact List.forall_mem_singleton.2 (Or.inr rfl)
    · intro hmembers
      cases hmembers
  have hlegible := (rectangle x₀ y₀ x₁ y₁).legible_eq (fun c hc => (hfinite c hc).1)
    (List.forall_mem_singleton.2 hregular)
  have hspelled : ∀ c ∈ (rectangle x₀ y₀ x₁ y₁).legible.coordinates, c.IsSpelled := by
    rw [hlegible]
    exact fun c hc => Wkt.isSpelled_of_isFinite (hfinite c hc).1
  have hread := Wkt.read_write_legible (hasRings_rectangle hx₀ hy₀ x₁ y₁) (Nat.zero_le _) hspelled
  rwa [hlegible] at hread

end Finite

/-- The rectangle between two corners with finite ordinates, in any order, is a polygon of one
closed ring.  The envelope between the corners is its envelope, bit for bit, as it is behind the
binary format in either byte order and behind the text. -/
theorem rectangle_keeps_envelope {x₀ y₀ x₁ y₁ : Binary64} (hx₀ : x₀.isFinite = true)
    (hy₀ : y₀.isFinite = true) (hx₁ : x₁.isFinite = true) (hy₁ : y₁.isFinite = true) :
    (∃ ring, rectangle x₀ y₀ x₁ y₁ = .polygon [ring] ∧ ring.length = 5 ∧ ring.isRing = true ∧
      ring.isClosed = true) ∧
    (rectangle x₀ y₀ x₁ y₁).envelope = .ofCorners x₀ y₀ x₁ y₁ ∧
    (∀ order srid, (Wkb.decode (Wkb.encode order (rectangle x₀ y₀ x₁ y₁) srid)).map
      (fun decoded => decoded.1.envelope) = .ok (.ofCorners x₀ y₀ x₁ y₁)) ∧
    Dialect.readEnvelope (some (Wkt.write (rectangle x₀ y₀ x₁ y₁))) =
      .ok (.ofCorners x₀ y₀ x₁ y₁) := by
  have henvelope := envelope_rectangle (Binary64.isNaN_of_isFinite hx₀)
    (Binary64.isNaN_of_isFinite hy₀) (Binary64.isNaN_of_isFinite hx₁)
    (Binary64.isNaN_of_isFinite hy₁)
  refine ⟨?_, henvelope, fun order srid => ?_, ?_⟩
  · have hring := List.forall_mem_singleton.1 (hasRings_rectangle hx₀ hy₀ x₁ y₁)
    obtain hempty | ⟨-, hclosed⟩ := Path.isRing_iff.1 hring
    · cases hempty
    · exact ⟨_, rfl, rfl, hring, hclosed⟩
  · rw [decode_encode_rectangle hx₀ hy₀ hx₁ hy₁, Except.map, henvelope]
  · rw [Dialect.readEnvelope, read_write_rectangle hx₀ hy₀ hx₁ hy₁, ok_bind, henvelope]
    rfl

def unitLength : Binary64 := ⟨0x3ff0000000000000⟩

def negZero : Binary64 := .ofParts true 0

/-- Corners in the wrong order, and a side between the two zeros. -/
theorem rectangle_keeps_envelope_swapped :
    (unitLength.isFinite = true ∧ negZero.isFinite = true ∧ Binary64.zero.isFinite = true) ∧
    (∃ ring, rectangle unitLength negZero .zero .zero = .polygon [ring] ∧ ring.length = 5 ∧
      ring.isRing = true ∧ ring.isClosed = true) ∧
    (rectangle unitLength negZero .zero .zero).envelope =
      .ofCorners unitLength negZero .zero .zero ∧
    (∀ order srid,
      (Wkb.decode (Wkb.encode order (rectangle unitLength negZero .zero .zero) srid)).map
        (fun decoded => decoded.1.envelope) = .ok (.ofCorners unitLength negZero .zero .zero)) ∧
    Dialect.readEnvelope (some (Wkt.write (rectangle unitLength negZero .zero .zero))) =
      .ok (.ofCorners unitLength negZero .zero .zero) :=
  ⟨⟨by decide, by decide, by decide⟩,
    rectangle_keeps_envelope (by decide) (by decide) (by decide) (by decide)⟩

end Geometry

end SpatialSql
