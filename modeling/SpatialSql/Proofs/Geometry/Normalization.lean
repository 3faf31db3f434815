import SpatialSql.Proofs.Wkt.Retagging
import SpatialSql.Wkb.Writing
/-!
# What the normal form keeps

A linear ring is stored, measured and encoded as the line string along it, so nothing but its tag
tells a geometry from its normal form.
-/

namespace SpatialSql

namespace Wkb.Layout

open SpatialSql.Geometry (membersWithoutRings)

mutual

theorem body_withoutRings (l : Layout) : (g : Geometry) → l.body g.withoutRings = l.body g
  | .collection members => by
    rw [Geometry.withoutRings, body, body, collected_withoutRings l members]
    simp only [count, Geometry.membersWithoutRings_eq_map, List.length_map]
  | .point _ | .lineString _ | .linearRing _ | .polygon _ | .multiPoint _ | .multiLineString _
  | .multiPolygon _ => rfl

theorem collected_withoutRings (l : Layout) :
    (gs : List Geometry) → l.collected (membersWithoutRings gs) = l.collected gs
  | [] => rfl
  | g :: rest => by
    rw [membersWithoutRings, collected, collected, Geometry.kind_withoutRings,
      body_withoutRings l g, collected_withoutRings l rest]

end

end Wkb.Layout

namespace Geometry

theorem hasZ_withoutRings (g : Geometry) : g.withoutRings.hasZ = g.hasZ := by
  rw [hasZ, coordinates_withoutRings, hasZ]

theorem encode_withoutRings (order : Wkb.ByteOrder) (g : Geometry) (srid : Option Int32) :
    Wkb.encode order g.withoutRings srid = Wkb.encode order g srid := by
  simp only [Wkb.encode, hasZ_withoutRings, kind_withoutRings, Wkb.Layout.body_withoutRings]

theorem linearRing_not_mem_parts_withoutRings (g : Geometry) (path : Path) :
    .linearRing path ∉ g.withoutRings.parts := by
  intro hmem
  have hring := (containsRing_iff g.withoutRings).2 ⟨path, hmem⟩
  rw [containsRing_withoutRings] at hring
  cases hring

theorem normalized_eq_rebuilt_iff (g : Geometry) :
    g.normalized = .rebuilt g.withoutRings ↔ ∃ path, .linearRing path ∈ g.parts := by
  rw [← containsRing_iff, normalized]
  cases g.containsRing <;> simp

theorem normalized_eq_borrowed_iff (g : Geometry) :
    g.normalized = .borrowed g ↔ ∀ path, .linearRing path ∉ g.parts := by
  rw [← not_exists, ← containsRing_iff, normalized]
  cases g.containsRing <;> simp

theorem withoutRings_ne_self_iff (g : Geometry) :
    g.withoutRings ≠ g ↔ ∃ path, .linearRing path ∈ g.parts := by
  constructor
  · intro hne
    rw [← containsRing_iff]
    cases hring : g.containsRing with
    | true => rfl
    | false => exact absurd (withoutRings_eq g hring) hne
  · rintro ⟨path, hmem⟩ heq
    rw [← heq] at hmem
    exact linearRing_not_mem_parts_withoutRings g path hmem

/-- The normal form has no linear ring at any depth and is borrowed as its own.  It is rebuilt
exactly when one of the parts is a linear ring, and otherwise the geometry itself is borrowed.  The
two are of one kind, are empty and spatial alike, visit the same coordinates in the same envelope
and have the same bytes in either byte order, and their texts differ in the tag of linear rings
only. -/
theorem normalized_renames_rings (g : Geometry) :
    let h := g.normalized.geometry
    (∀ path, .linearRing path ∉ h.parts) ∧
    h.normalized = .borrowed h ∧
    (g.normalized = .rebuilt h ↔ ∃ path, .linearRing path ∈ g.parts) ∧
    (g.normalized = .borrowed g ↔ ∀ path, .linearRing path ∉ g.parts) ∧
    (g.containsRing = true ↔ ∃ path, .linearRing path ∈ g.parts) ∧
    (h ≠ g ↔ ∃ path, .linearRing path ∈ g.parts) ∧
    h.kind = g.kind ∧
    h.isEmpty = g.isEmpty ∧
    h.hasZ = g.hasZ ∧
    h.coordinates = g.coordinates ∧
    h.envelope = g.envelope ∧
    (∀ order srid, Wkb.encode order h srid = Wkb.encode order g srid) ∧
    Wkt.write h = Text.replaceAll "LINEARRING" "LINESTRING" (Wkt.write g) := by
  intro h
  have hform : h = g.withoutRings := geometry_normalized g
  have hrings : ∀ path, .linearRing path ∉ g.withoutRings.parts :=
    linearRing_not_mem_parts_withoutRings g
  rw [hform]
  refine ⟨hrings, (normalized_eq_borrowed_iff _).2 hrings, normalized_eq_rebuilt_iff g,
    normalized_eq_borrowed_iff g, containsRing_iff g, withoutRings_ne_self_iff g,
    kind_withoutRings g, isEmpty_withoutRings g, hasZ_withoutRings g, coordinates_withoutRings g,
    ?_, fun order srid => encode_withoutRings order g srid, Wkt.write_withoutRings g⟩
  rw [envelope, coordinates_withoutRings, envelope]

/-- A ring two collections deep. -/
example (path : Path) :
    (collection [.point none, .collection [.linearRing path]]).normalized =
      .rebuilt (.collection [.point none, .collection [.lineString path]]) := rfl

end Geometry

end SpatialSql
