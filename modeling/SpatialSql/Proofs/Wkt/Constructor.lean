import Mathlib.Data.List.Basic
import SpatialSql.Dialect
import SpatialSql.Proofs.Geometry.Building
import SpatialSql.Proofs.Sql.Scanning
/-!
# Geometries as constructor calls

A geometry is sent to the database as a call of the constructor of its kind, with its text in
quotes.  What that text is read as has no linear rings, is of the kind that the constructor is for
and goes through the same positions; the third ordinates of a part are kept if all of its
coordinates have one, and otherwise left out.
-/

namespace SpatialSql

namespace Geometry

/-! ## What is written of the coordinates -/

/-- The coordinates of a part as they are written: in space if all of them are, otherwise in the
plane. -/
def written (p : Geometry) : List Coordinate :=
  if p.coordinates.all Coordinate.hasZ then p.coordinates
  else p.coordinates.map fun c => .planar c.x c.y

theorem kept_eq_written {p : Geometry} (hfinite : ∀ c ∈ p.coordinates, c.IsFinite) :
    Wkt.kept p = p.written := by
  rw [Wkt.kept, written]
  cases hall : p.coordinates.all Coordinate.hasZ with
  | true =>
    rw [if_pos rfl]
    have huniform : p.IsUniform := .inl (List.all_eq_true.1 hall)
    exact map_eq_self fun c hc => legible_coordinate huniform hc (hfinite c hc)
  | false =>
    rw [if_neg Bool.false_ne_true]
    have hplanar : Wkt.isSpatial p = false := by rw [Wkt.isSpatial, hall, Bool.and_false]
    refine List.map_congr_left fun c hc => ?_
    obtain ⟨hx, hy, -⟩ := hfinite c hc
    rw [hplanar, Coordinate.legible, Binary64.legible_eq (Binary64.isNaN_of_isFinite hx),
      Binary64.legible_eq (Binary64.isNaN_of_isFinite hy)]
    rfl

theorem positions_written (p : Geometry) :
    p.written.map (fun c => (c.x, c.y)) = p.coordinates.map fun c => (c.x, c.y) := by
  unfold written
  split
  · rfl
  · rw [List.map_map]
    rfl

theorem isFinite_of_mem_written {p : Geometry} (hfinite : ∀ c ∈ p.coordinates, c.IsFinite)
    {c : Coordinate} (hc : c ∈ p.written) : c.IsFinite := by
  unfold written at hc
  split at hc
  · exact hfinite c hc
  · obtain ⟨c, hmem, rfl⟩ := List.mem_map.1 hc
    obtain ⟨hx, hy, -⟩ := hfinite c hmem
    exact ⟨hx, hy, nofun⟩

theorem coordinates_subset_of_mem_leaves {g p : Geometry} (hp : p ∈ g.leaves) :
    p.coordinates ⊆ g.coordinates := by
  intro c hc
  rw [coordinates_eq_flatMap_leaves]
  exact List.mem_flatMap.2 ⟨p, hp, hc⟩

/-! ## The form without linear rings -/

section

variable {g : Geometry} (hexteriors : g.HasExteriors)

include hexteriors

theorem HasExteriors.withoutRings : g.withoutRings.HasExteriors := by
  intro p hp rings hrings
  rw [parts_withoutRings] at hp
  obtain ⟨q, hq, rfl⟩ := List.mem_map.1 hp
  rw [polygons_withoutRings] at hrings
  exact hexteriors q hq rings hrings

variable (hfinite : ∀ c ∈ g.coordinates, c.IsFinite)

include hfinite

theorem HasExteriors.isStable : ∀ p ∈ g.parts, Wkt.IsStable p := by
  intro p hp
  refine ⟨fun _ c hc z hz => ?_, hexteriors p hp⟩
  obtain ⟨-, -, hheight⟩ := hfinite c (coordinates_subset_of_mem_parts g p hp hc)
  exact Binary64.isNaN_of_isFinite (hheight z hz)

theorem coordinates_legible_withoutRings :
    g.withoutRings.legible.coordinates = g.leaves.flatMap written := by
  have hstable : ∀ p ∈ g.withoutRings.parts, Wkt.IsStable p :=
    hexteriors.withoutRings.isStable (by rwa [coordinates_withoutRings])
  rw [Wkt.coordinates_legible_leaves _ hstable, leaves_withoutRings, List.flatMap_map]
  refine List.flatMap_congr fun p hp => ?_
  have hleaf : p.withoutRings.written = p.written := by
    rw [written, written, coordinates_withoutRings]
  rw [kept_eq_written, hleaf]
  rw [coordinates_withoutRings]
  exact fun c hc => hfinite c (coordinates_subset_of_mem_leaves hp hc)

end

end Geometry

namespace Dialect

/-! ## The call -/

def closing (srid : Int32) : String :=
  (if 0 < srid.toInt then ", " ++ toString srid.toInt else "") ++ ")"

theorem geometryLiteral_of_isEmpty {g : Geometry} (hempty : g.isEmpty = true) (srid : Int32) :
    geometryLiteral (some g) srid = "NULL" := by
  simp only [geometryLiteral, Option.filter_some, hempty, Bool.not_true, Bool.false_eq_true,
    if_false]

theorem geometryLiteral_eq {g : Geometry} (hsome : g.isEmpty = false) (srid : Int32) :
    geometryLiteral (some g) srid =
      "NEW " ++ g.kind.nativeName ++ "('" ++ Sql.escape (Wkt.write g.withoutRings) ++ "'"
        ++ closing srid := by
  have hstring (text : String) : Sql.string text = "'" ++ Sql.escape text ++ "'" := by
    apply String.toList_injective
    simp [Sql.string, Sql.escape, Text.quoted]
  have hopening : "('" = "(" ++ "'" := rfl
  simp only [geometryLiteral, Option.filter_some, hsome, Bool.not_false, if_true, hstring, hopening,
    closing, Geometry.geometry_normalized, Geometry.kind_withoutRings, String.append_assoc]

theorem geometryLiteral_eq_null_iff {g : Geometry} (srid : Int32) :
    geometryLiteral (some g) srid = "NULL" ↔ g.isEmpty = true := by
  refine ⟨fun hnull => ?_, fun hempty => geometryLiteral_of_isEmpty hempty srid⟩
  by_contra hsome
  rw [geometryLiteral_eq (Bool.eq_false_iff.2 hsome)] at hnull
  -- the second letters tell a call from null
  have hsecond := congrArg (fun text : String => text.toList[1]?) hnull
  simp [String.toList_append] at hsecond

theorem unquote_escape (text : String) (srid : Int32) :
    Sql.unquote '\'' (Sql.escape text ++ "'" ++ closing srid).toList =
      some (text.toList, (closing srid).toList) := by
  have hclosing : (closing srid).toList.head? ≠ some '\'' := by
    unfold closing
    split <;> simp
  have hbody : (Sql.escape text ++ "'" ++ closing srid).toList =
      Text.double '\'' text.toList ++ '\'' :: (closing srid).toList := by
    simp [Sql.escape]
  rw [hbody, Sql.unquote_double text.toList hclosing]

/-- A geometry with finite ordinates and rings, in no more collections than a text may nest and
without a hole where there is no exterior, is written as null exactly if it has no coordinates.
Otherwise the text in the constructor call is read as a geometry of the kind that the constructor is
for.  It has no linear rings, its positions are those of the geometry in their order, and leaf by
leaf it keeps the third ordinates where all coordinates have one. -/
theorem geometryLiteral_denotes (g : Geometry) (srid : Int32) (hrings : g.HasRings)
    (hdepth : g.depth ≤ Wkt.maxDepth) (hfinite : ∀ c ∈ g.coordinates, c.IsFinite)
    (hexteriors : g.HasExteriors) :
    (geometryLiteral (some g) srid = "NULL" ↔ g.coordinates = []) ∧
    (g.coordinates ≠ [] →
      let rest := (if 0 < srid.toInt then ", " ++ toString srid.toInt else "") ++ ")"
      ∃ (body text : String) (h : Geometry),
        geometryLiteral (some g) srid = "NEW " ++ g.kind.nativeName ++ "('" ++ body ++ "'" ++ rest ∧
        Sql.unquote '\'' (body ++ "'" ++ rest).toList = some (text.toList, rest.toList) ∧
        Wkt.read text = .ok h ∧
        h.kind = g.kind ∧
        h.containsRing = false ∧
        h.coordinates.map (fun c => (c.x, c.y)) = g.coordinates.map (fun c => (c.x, c.y)) ∧
        g.coordinates = g.leaves.flatMap Geometry.coordinates ∧
        h.coordinates = g.leaves.flatMap Geometry.written) := by
  have hempty : g.isEmpty = true ↔ g.coordinates = [] :=
    ⟨g.coordinates_eq_nil hexteriors, g.isEmpty_of_coordinates⟩
  refine ⟨(geometryLiteral_eq_null_iff srid).trans hempty, fun hcoordinates => ?_⟩
  intro rest
  have hsome : g.isEmpty = false := by
    rw [Bool.eq_false_iff, ne_eq, hempty]
    exact hcoordinates
  have hkept := Geometry.coordinates_legible_withoutRings hexteriors hfinite
  have hread : Wkt.read (Wkt.write g.withoutRings) = .ok g.withoutRings.legible := by
    apply Wkt.read_write_legible hrings.withoutRings
    · rwa [Geometry.depth_withoutRings]
    · intro c hc
      rw [hkept] at hc
      obtain ⟨p, hp, hc⟩ := List.mem_flatMap.1 hc
      refine Wkt.isSpelled_of_isFinite (Geometry.isFinite_of_mem_written (fun c hc => ?_) hc)
      exact hfinite c (Geometry.coordinates_subset_of_mem_leaves hp hc)
  refine ⟨Sql.escape (Wkt.write g.withoutRings), Wkt.write g.withoutRings, g.withoutRings.legible,
    geometryLiteral_eq hsome srid, unquote_escape _ srid, hread, ?_,
    Geometry.containsRing_legible _ g.containsRing_withoutRings, ?_,
    g.coordinates_eq_flatMap_leaves, hkept⟩
  · rw [Geometry.kind_legible, Geometry.kind_withoutRings]
  · rw [hkept, g.coordinates_eq_flatMap_leaves, List.map_flatMap, List.map_flatMap]
    simp only [Geometry.positions_written]

/-! ## A sample -/

/-- A ring in space and, one collection deeper, a ring without coordinates, a point and a line of
which only one end has a height. -/
def surveyGeometry : Geometry :=
  let one : Binary64 := .ofInt 1
  let height : Option Binary64 := some (.ofInt 7)
  .collection
    [.linearRing [⟨.zero, .zero, height⟩, ⟨.zero, one, height⟩, ⟨one, one, height⟩,
        ⟨.zero, .zero, height⟩],
      .collection [.linearRing [], .point (some (.planar .zero one)),
        .lineString [⟨.zero, .zero, height⟩, .planar one one]]]

def surveyText : String :=
  "GEOMETRYCOLLECTION (LINESTRING Z (0 0 7, 0 1 7, 1 1 7, 0 0 7), "
    ++ "GEOMETRYCOLLECTION (LINESTRING EMPTY, POINT (0 1), LINESTRING (0 0, 1 1)))"

theorem geometryLiteral_denotes_survey :
    (surveyGeometry.HasRings ∧ surveyGeometry.depth ≤ Wkt.maxDepth ∧
      (∀ c ∈ surveyGeometry.coordinates, c.IsFinite) ∧ surveyGeometry.HasExteriors ∧
      surveyGeometry.coordinates ≠ []) ∧
    geometryLiteral (some surveyGeometry) 4326 = "NEW ST_Geometry('" ++ surveyText ++ "', 4326)" ∧
    ∃ (text : String) (h : Geometry), Wkt.read text = .ok h ∧ h.containsRing = false ∧
      h.coordinates = surveyGeometry.leaves.flatMap Geometry.written := by
  have h : surveyGeometry.HasRings ∧ surveyGeometry.depth ≤ Wkt.maxDepth ∧
      (∀ c ∈ surveyGeometry.coordinates, c.IsFinite) ∧ surveyGeometry.HasExteriors ∧
      surveyGeometry.coordinates ≠ [] := by decide +kernel
  refine ⟨h, by decide +kernel, ?_⟩
  obtain ⟨hrings, hdepth, hfinite, hexteriors, hcoordinates⟩ := h
  obtain ⟨-, text, h, -, -, hread, -, hring, -, -, hwritten⟩ :=
    (geometryLiteral_denotes surveyGeometry 4326 hrings hdepth hfinite hexteriors).2 hcoordinates
  exact ⟨text, h, hread, hring, hwritten⟩

end Dialect

end SpatialSql
