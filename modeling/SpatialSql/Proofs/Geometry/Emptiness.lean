import SpatialSql.Geometry.Equality
import SpatialSql.Proofs.Envelope.Tightness
import SpatialSql.Proofs.Geometry.Members
import SpatialSql.Proofs.Geometry.Parts
import SpatialSql.Wkt.Reading
/-!
# Emptiness

A geometry may be empty by the rule of its kind, have no coordinates, or have the envelope of
nothing.  The last two agree wherever there are numbers.  The rule looks at no holes, so it also
calls a polygon empty that has no exterior and yet holes with coordinates.
-/

namespace SpatialSql

theorem Polygon.isEmpty_of_flatten {rings : Polygon} (h : rings.flatten = []) :
    rings.isEmpty = true := by
  cases rings with
  | nil => rfl
  | cons ring rest =>
    rw [List.flatten_cons, List.append_eq_nil_iff] at h
    exact List.isEmpty_iff.2 h.1

namespace Geometry

/-! ## Without coordinates -/

mutual

theorem isEmpty_of_coordinates : (g : Geometry) → g.coordinates = [] → g.isEmpty = true
  | .point p, h => by
    rw [coordinates, Option.toList_eq_nil_iff] at h
    rw [h]
    rfl
  | .lineString _, h | .linearRing _, h => List.isEmpty_iff.2 h
  | .polygon _, h => Polygon.isEmpty_of_flatten h
  | .multiPoint points, h => List.all_eq_true.2 fun p hp =>
      Option.isNone_iff_eq_none.2 (Option.toList_eq_nil_iff.1 (List.flatMap_eq_nil_iff.1 h p hp))
  | .multiLineString paths, h => List.all_eq_true.2 fun path hpath =>
      List.isEmpty_iff.2 (List.flatten_eq_nil_iff.1 h path hpath)
  | .multiPolygon polygons, h => List.all_eq_true.2 fun rings hrings =>
      Polygon.isEmpty_of_flatten (List.flatMap_eq_nil_iff.1 h rings hrings)
  | .collection members, h => allEmpty_of_coordinates members h

theorem allEmpty_of_coordinates :
    (gs : List Geometry) → memberCoordinates gs = [] → allEmpty gs = true
  | [], _ => rfl
  | g :: rest, h => by
    rw [memberCoordinates, List.append_eq_nil_iff] at h
    rw [allEmpty, isEmpty_of_coordinates g h.1, allEmpty_of_coordinates rest h.2, Bool.and_self]

end

/-! ## Empty by the rule -/

/-- Wherever a polygon has no exterior, its holes have no coordinates. -/
def HasExteriors (g : Geometry) : Prop :=
  ∀ p ∈ g.parts, ∀ rings ∈ p.polygons, rings.isEmpty = true → rings.flatten = []

instance (g : Geometry) : Decidable g.HasExteriors :=
  inferInstanceAs (Decidable (∀ p ∈ g.parts, ∀ rings ∈ p.polygons,
    rings.isEmpty = true → rings.flatten = []))

mutual

theorem coordinates_eq_nil : (g : Geometry) → g.HasExteriors → g.isEmpty = true →
    g.coordinates = []
  | .point p, _, hempty => by
    rw [Option.isNone_iff_eq_none.1 hempty]
    rfl
  | .lineString path, _, hempty | .linearRing path, _, hempty => List.isEmpty_iff.1 hempty
  | .polygon rings, hexteriors, hempty =>
    hexteriors _ (mem_parts_self _) rings (List.mem_singleton_self rings) hempty
  | .multiPoint points, _, hempty => by
    refine List.flatMap_eq_nil_iff.2 fun p hp => ?_
    rw [Option.isNone_iff_eq_none.1 (List.all_eq_true.1 hempty p hp)]
    rfl
  | .multiLineString paths, _, hempty =>
    List.flatten_eq_nil_iff.2 fun path hpath =>
      List.isEmpty_iff.1 (List.all_eq_true.1 hempty path hpath)
  | .multiPolygon polygons, hexteriors, hempty =>
    List.flatMap_eq_nil_iff.2 fun rings hrings =>
      hexteriors _ (mem_parts_self _) rings hrings (List.all_eq_true.1 hempty rings hrings)
  | .collection members, hexteriors, hempty =>
    memberCoordinates_eq_nil members (fun p hp => hexteriors p (List.mem_cons_of_mem _ hp)) hempty

theorem memberCoordinates_eq_nil : (gs : List Geometry) →
    (∀ p ∈ memberParts gs, ∀ rings ∈ p.polygons, rings.isEmpty = true → rings.flatten = []) →
    allEmpty gs = true → memberCoordinates gs = []
  | [], _, _ => rfl
  | g :: rest, hexteriors, hempty => by
    rw [allEmpty, Bool.and_eq_true] at hempty
    have hg := coordinates_eq_nil g (fun p hp => hexteriors p (List.mem_append_left _ hp)) hempty.1
    have hrest := memberCoordinates_eq_nil rest
      (fun p hp => hexteriors p (List.mem_append_right _ hp)) hempty.2
    rw [memberCoordinates, hg, hrest]
    rfl

end

mutual

theorem coordinates_subset_of_mem_parts :
    (g : Geometry) → ∀ p ∈ g.parts, p.coordinates ⊆ g.coordinates
  | .collection members, p, hp => by
    obtain rfl | hp := List.mem_cons.1 hp
    · exact List.Subset.refl _
    · exact coordinates_subset_of_mem_memberParts members p hp
  | .point _, p, hp | .lineString _, p, hp | .linearRing _, p, hp | .polygon _, p, hp
  | .multiPoint _, p, hp | .multiLineString _, p, hp | .multiPolygon _, p, hp => by
    rw [List.mem_singleton.1 hp]
    exact List.Subset.refl _

theorem coordinates_subset_of_mem_memberParts :
    (gs : List Geometry) → ∀ p ∈ memberParts gs, p.coordinates ⊆ memberCoordinates gs
  | [], _, hp => nomatch hp
  | g :: rest, p, hp => by
    obtain hp | hp := List.mem_append.1 hp
    · exact List.subset_append_of_subset_left _ (coordinates_subset_of_mem_parts g p hp)
    · exact List.subset_append_of_subset_right _ (coordinates_subset_of_mem_memberParts rest p hp)

end

theorem flatten_subset_of_mem_polygons {p : Geometry} {rings : Polygon} (h : rings ∈ p.polygons) :
    rings.flatten ⊆ p.coordinates := by
  cases p with
  | polygon rings' =>
    rw [List.mem_singleton.1 h]
    exact List.Subset.refl _
  | multiPolygon polygons =>
    exact fun c hc => List.mem_flatMap.2 ⟨rings, h, hc⟩
  | _ => cases h

theorem coordinates_eq_nil_iff {g : Geometry} (hempty : g.isEmpty = true) :
    g.coordinates = [] ↔ g.HasExteriors := by
  constructor
  · intro hnil p hp rings hrings _
    have hsubset : rings.flatten ⊆ g.coordinates :=
      List.Subset.trans (flatten_subset_of_mem_polygons hrings)
        (coordinates_subset_of_mem_parts g p hp)
    rw [hnil] at hsubset
    exact List.subset_nil.1 hsubset
  · exact fun hexteriors => coordinates_eq_nil g hexteriors hempty

/-- Where there are numbers, a geometry has no coordinates exactly if its envelope is null, and
exactly if it is empty and no polygon without an exterior has coordinates in its holes. -/
theorem emptiness_agrees_but_for_holes (g : Geometry)
    (hnumbers : ∀ c ∈ g.coordinates, c.x.isNaN = false ∧ c.y.isNaN = false) :
    (g.coordinates.length = 0 ↔ g.envelope.isNull = true) ∧
      (g.coordinates.length = 0 ↔ g.envelope = .null) ∧
      (g.coordinates.length = 0 ↔ g.isEmpty = true ∧ g.HasExteriors) := by
  have hnull : g.envelope.isNull = true ↔ g.coordinates = [] :=
    Envelope.isNull_ofCoordinates_iff hnumbers
  rw [List.length_eq_zero_iff]
  refine ⟨hnull.symm, ⟨fun hnil => ?_, fun henvelope => ?_⟩, fun hnil => ?_, fun h => ?_⟩
  · rw [envelope, hnil]
    rfl
  · apply hnull.1
    rw [henvelope]
    decide
  · have hempty : g.isEmpty = true := isEmpty_of_coordinates g hnil
    exact ⟨hempty, (coordinates_eq_nil_iff hempty).1 hnil⟩
  · exact (coordinates_eq_nil_iff h.1).2 h.2

def holeAlone : Geometry :=
  let one : Binary64 := ⟨0x3ff0000000000000⟩
  .polygon [[], [.planar .zero .zero, .planar .zero one, .planar one one, .planar .zero .zero]]

def emptyParts : Geometry :=
  .collection [.point none, .multiPolygon [[], [[], []]], .collection [.multiPoint [none]]]

theorem emptiness_agrees_but_for_holes_both :
    ((∀ c ∈ emptyParts.coordinates, c.x.isNaN = false ∧ c.y.isNaN = false) ∧
      emptyParts.isEmpty = true ∧ emptyParts.HasExteriors ∧ emptyParts.coordinates.length = 0 ∧
      emptyParts.envelope = .null) ∧
    ((∀ c ∈ holeAlone.coordinates, c.x.isNaN = false ∧ c.y.isNaN = false) ∧
      holeAlone.coordinates.length ≠ 0 ∧ ¬ holeAlone.HasExteriors) := by
  have hparts : (∀ c ∈ emptyParts.coordinates, c.x.isNaN = false ∧ c.y.isNaN = false) ∧
      emptyParts.isEmpty = true ∧ emptyParts.HasExteriors := by decide
  have hhole : (∀ c ∈ holeAlone.coordinates, c.x.isNaN = false ∧ c.y.isNaN = false) ∧
      holeAlone.isEmpty = true ∧ holeAlone.coordinates.length ≠ 0 := by decide
  have hagrees := emptiness_agrees_but_for_holes emptyParts hparts.1
  have hlength : emptyParts.coordinates.length = 0 := hagrees.2.2.2 hparts.2
  refine ⟨⟨hparts.1, hparts.2.1, hparts.2.2, hlength, hagrees.2.1.1 hlength⟩,
    hhole.1, hhole.2.2, fun hexteriors => hhole.2.2 ?_⟩
  exact (emptiness_agrees_but_for_holes holeAlone hhole.1).2.2.2 ⟨hhole.2.1, hexteriors⟩

/-- A geometry that is read from a text may be empty and have coordinates and an envelope. -/
theorem emptiness_disagrees :
    (Wkt.read "POLYGON (EMPTY, (0 0, 0 1, 1 1, 0 0))").toOption = some holeAlone ∧
      holeAlone.HasRings ∧
      (∀ c ∈ holeAlone.coordinates, c.x.isNaN = false ∧ c.y.isNaN = false) ∧
      holeAlone.isEmpty = true ∧ holeAlone.coordinates.length = 4 ∧
      holeAlone.envelope.isNull = false ∧ holeAlone.envelope ≠ .null := by
  decide +kernel

end Geometry

end SpatialSql
