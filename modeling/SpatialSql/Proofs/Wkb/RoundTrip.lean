import SpatialSql.Proofs.Wkb.Decoding
import SpatialSql.Proofs.Wkb.Depth
/-!
# Encoding and decoding again

Decoding an encoding gives the canonical form and the reference system as long as the nesting
allows, and otherwise fails for the depth.
-/

namespace SpatialSql.Wkb

section

variable {g : Geometry} (hrings : g.HasRings) (hlists : g.IsCountable) (order : ByteOrder)
  (srid : Option Int32)

include hrings hlists

theorem decode_encode_of_le (hnesting : g.nesting ≤ maxDepth) :
    decode (encode order g srid) = .ok (g.canonical, srid) := by
  rw [decode_eq_ok_iff_isGeometry]
  exact (isGeometry_encode hrings hlists order srid hnesting).mono fun _ => rfl

theorem decode_encode_of_lt (hnesting : maxDepth < g.nesting) :
    decode (encode order g srid) = .error .tooDeep := by
  let l : Layout := ⟨order, g.hasZ⟩
  have hholds (c : Coordinate) (hc : c ∈ g.coordinates) : l.Holds c := Layout.holds_of_mem hc order
  have hread : geometry (maxDepth + 1) (l.header g.kind srid ++ (l.body g ++ [])) =
      .error .tooDeep := by
    apply geometry_eq_tooDeep srid hnesting
    intro levels h hlevels hl hkind
    exact body_eq_tooDeep g hrings hlists hholds hlevels hl hkind []
  rw [List.append_nil] at hread
  rw [decode, encode, hread, error_bind]

end

/-- An encoding is decoded to the canonical form with its reference system, or refused as malformed
when it is nested too deep.  A geometry without rings of its own and without the ordinates that the
canonical form drops comes back as it is. -/
theorem decode_encode_complete (g : Geometry) (hrings : g.HasRings) (hlists : g.IsCountable)
    (order : ByteOrder) (srid : Option Int32) :
    (g.nesting ≤ maxDepth → decode (encode order g srid) = .ok (g.canonical, srid)) ∧
      (maxDepth < g.nesting → decode (encode order g srid) = .error .tooDeep ∧
        Fault.toFailure (encode order g srid).length .tooDeep =
          .malformedWireFormat "geometry nesting deeper than 64") ∧
      (g.nesting ≤ maxDepth → g.containsRing = false → (∀ c ∈ g.coordinates, c.IsCanonical) →
        decode (encode order g srid) = .ok (g, srid)) := by
  refine ⟨decode_encode_of_le hrings hlists order srid, fun hnesting => ⟨?_, rfl⟩, ?_⟩
  · exact decode_encode_of_lt hrings hlists order srid hnesting
  · intro hnesting hring hcanonical
    rw [decode_encode_of_le hrings hlists order srid hnesting, g.canonical_eq hring hcanonical]

def mixedGeometry : Geometry :=
  let c (x y : UInt64) (z : Option Binary64) : Coordinate := ⟨⟨x⟩, ⟨y⟩, z⟩
  .collection [.point (some (c 1 2 (some .nan))), .multiPoint [none, some (c 3 4 (some ⟨5⟩))],
    .collection [.collection [], .linearRing []],
    .polygon [[c 0 0 none, c 0 1 none, c 1 1 none, c 0 0 none], []]]

def plainGeometry : Geometry :=
  .collection [.point none, .multiPoint [none, some ⟨⟨3⟩, ⟨4⟩, some ⟨5⟩⟩],
    .collection [.collection [], .lineString [⟨⟨1⟩, ⟨2⟩, none⟩]]]

def buried (g : Geometry) : (depth : Nat) → Geometry
  | 0 => g
  | depth + 1 => .collection [buried g depth]

theorem decode_encode_complete_mixed :
    (mixedGeometry.HasRings ∧ mixedGeometry.IsCountable ∧ mixedGeometry.nesting ≤ maxDepth ∧
      decode (encode .bigEndian mixedGeometry (some (-1))) =
        .ok (mixedGeometry.canonical, some (-1))) ∧
    ((buried mixedGeometry 63).HasRings ∧ (buried mixedGeometry 63).IsCountable ∧
      maxDepth < (buried mixedGeometry 63).nesting ∧
      decode (encode .littleEndian (buried mixedGeometry 63) none) = .error .tooDeep) ∧
    decode (encode .littleEndian plainGeometry (some (-1))) = .ok (plainGeometry, some (-1)) := by
  have hmixed : mixedGeometry.HasRings ∧ mixedGeometry.IsCountable ∧
      mixedGeometry.nesting ≤ maxDepth := by decide +kernel
  have hburied : (buried mixedGeometry 63).HasRings ∧ (buried mixedGeometry 63).IsCountable ∧
      maxDepth < (buried mixedGeometry 63).nesting := by decide +kernel
  have hplain : plainGeometry.HasRings ∧ plainGeometry.IsCountable ∧
      plainGeometry.nesting ≤ maxDepth ∧ plainGeometry.containsRing = false ∧
      ∀ c ∈ plainGeometry.coordinates, c.IsCanonical := by decide +kernel
  refine ⟨⟨hmixed.1, hmixed.2.1, hmixed.2.2, ?_⟩, ⟨hburied.1, hburied.2.1, hburied.2.2, ?_⟩, ?_⟩
  · exact (decode_encode_complete _ hmixed.1 hmixed.2.1 .bigEndian (some (-1))).1 hmixed.2.2
  · exact ((decode_encode_complete _ hburied.1 hburied.2.1 .littleEndian none).2.1 hburied.2.2).1
  · exact (decode_encode_complete _ hplain.1 hplain.2.1 .littleEndian (some (-1))).2.2
      hplain.2.2.1 hplain.2.2.2.1 hplain.2.2.2.2

end SpatialSql.Wkb
