import SpatialSql.Proofs.Wkb.HeaderCodes
import SpatialSql.Wkb.Codec
/-!
# Decoding and the grammar

Decoding accepts a byte string exactly when the lenient grammar derives the whole of it, and the
strict grammar is what is left when no header has the bit that has no meaning.
-/

namespace SpatialSql.Wkb

theorem decode_eq_ok_iff_isGeometry {bytes : List UInt8} {g : Geometry} {srid : Option Int32} :
    decode bytes = .ok (g, srid) ↔ IsGeometry true (maxDepth + 1) bytes g srid := by
  unfold decode
  rw [bind_eq_ok]
  constructor
  · rintro ⟨⟨result, rest⟩, hread, hend⟩
    obtain ⟨used, hused, rfl⟩ := (accepts_geometry (maxDepth + 1)).sound hread
    cases rest with
    | nil =>
      cases hend
      rwa [List.append_nil]
    | cons b rest => cases hend
  · intro hg
    have hread := (accepts_geometry (maxDepth + 1)).complete [] (a := (g, srid)) hg
    rw [List.append_nil] at hread
    exact ⟨_, hread, rfl⟩

theorem decode_eq_ok_iff_strict {bytes : List UInt8}
    (hcodes : ∀ code ∈ decodedCodes bytes, isReserved code = false) {g : Geometry}
    {srid : Option Int32} :
    decode bytes = .ok (g, srid) ↔ IsGeometry false (maxDepth + 1) bytes g srid := by
  rw [decode_eq_ok_iff_isGeometry]
  constructor
  · intro hg
    apply hg.strict []
    rwa [List.append_nil]
  · exact IsGeometry.mono fun _ => rfl

theorem toFailure_eq_malformed (size : Nat) (fault : Fault) :
    fault.toFailure size = .malformedWireFormat (fault.message size) := rfl

/-- Decoding accepts exactly the grammar, and reports everything else as malformed, wherever no
header that is read has the bit without a meaning. -/
theorem decode_accepts_exactly (bytes : List UInt8)
    (hcodes : ∀ code ∈ decodedCodes bytes, isReserved code = false) :
    (∀ g srid, decode bytes = .ok (g, srid) ↔ IsGeometry false (maxDepth + 1) bytes g srid) ∧
      ((¬ ∃ g srid, IsGeometry false (maxDepth + 1) bytes g srid) →
        ∃ fault, decode bytes = .error fault ∧
          fault.toFailure bytes.length = .malformedWireFormat (fault.message bytes.length)) := by
  refine ⟨fun g srid => decode_eq_ok_iff_strict hcodes, fun hnone => ?_⟩
  cases hdecode : decode bytes with
  | error fault => exact ⟨fault, rfl, toFailure_eq_malformed bytes.length fault⟩
  | ok result =>
    obtain ⟨g, srid⟩ := result
    exact absurd ⟨g, srid, (decode_eq_ok_iff_strict hcodes).1 hdecode⟩ hnone

/-- A big-endian collection with a reference system, whose members are a little-endian point in
the thousands of a measure and a big-endian path flagged for a third ordinate. -/
def mixedBytes : List UInt8 :=
  [0, 0x20, 0, 0, 7, 0xff, 0xff, 0xff, 0xff, 0, 0, 0, 2,
    1, 0xd1, 7, 0, 0, 0, 0, 0, 0, 0, 0, 0xf0, 0x3f, 0, 0, 0, 0, 0, 0, 0, 0x80, 1, 2, 3, 4, 5, 6,
    7, 8,
    0, 0x80, 0, 0, 2, 0, 0, 0, 0]

theorem decode_accepts_exactly_mixed :
    (∀ code ∈ decodedCodes mixedBytes, isReserved code = false) ∧
      IsGeometry false (maxDepth + 1) mixedBytes
        (.collection [.point (some ⟨⟨0x3ff0000000000000⟩, ⟨0x8000000000000000⟩, none⟩),
          .lineString []]) (some (-1)) := by
  have hcodes : ∀ code ∈ decodedCodes mixedBytes, isReserved code = false := by decide +kernel
  exact ⟨hcodes, ((decode_accepts_exactly mixedBytes hcodes).1 _ _).1 rfl⟩

end SpatialSql.Wkb
