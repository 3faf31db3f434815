import SpatialSql.Proofs.Geometry.Emptiness
import SpatialSql.Proofs.Wkt.Legible
/-!
# Writing what a text keeps

What a text keeps of a geometry is written as the same text, unless what it leaves out made the
difference between two and three dimensions.
-/

namespace SpatialSql.Wkt

open SpatialSql.Coordinate (hasZ)
open SpatialSql.Geometry (allEmpty memberCoordinates memberLeaves memberParts membersLegible
  mem_parts_self)

/-! ## Bodies -/

theorem writeCoordinate_legible (z : Bool) (c : Coordinate) :
    writeCoordinate z (c.legible z) = writeCoordinate z c := by
  have hheight : ((c.z.filter fun w => !w.isNaN).getD .nan).plain = (c.z.getD .nan).plain := by
    cases c.z with
    | none => rfl
    | some w =>
      cases hw : w.isNaN with
      | false => simp [Option.filter, hw]
      | true =>
        have hlegible : w.legible = .nan := by rw [Binary64.legible, if_pos hw]
        simp [Option.filter, hw, ← hlegible, Binary64.plain_legible]
  cases z with
  | false => simp only [writeCoordinate, Coordinate.legible, Binary64.plain_legible,
      Bool.false_eq_true, if_false]
  | true => simp only [writeCoordinate, Coordinate.legible, Binary64.plain_legible, if_true,
      hheight]

theorem writePoint_legible (z : Bool) (p : Point) :
    writePoint z (p.legible z) = writePoint z p := by
  cases p with
  | none => rfl
  | some c => simp only [Point.legible, Option.map_some, writePoint, writeCoordinate_legible]

theorem writeList_map {f : α → α} {write : α → String} (items : List α)
    (h : ∀ a, write (f a) = write a) :
    writeList ((items.map f).map write) = writeList (items.map write) := by
  rw [List.map_map, Function.comp_def, funext h]

theorem writePath_legible (z : Bool) (path : Path) :
    writePath z (path.legible z) = writePath z path := by
  rw [writePath, writePath, Path.isEmpty_legible, Path.legible,
    writeList_map path (writeCoordinate_legible z)]

theorem writePolygon_legible (z : Bool) (rings : Polygon) :
    writePolygon z (rings.legible z) = writePolygon z rings := by
  rw [writePolygon, writePolygon, Polygon.isEmpty_legible]
  cases hempty : rings.isEmpty with
  | true => rfl
  | false =>
    rw [Polygon.legible, if_neg (Bool.eq_false_iff.1 hempty),
      writeList_map rings (writePath_legible z)]

theorem write_congr {g h : Geometry} (htag : tagOf h = tagOf g)
    (hspatial : isSpatial h = isSpatial g) (hempty : h.isEmpty = g.isEmpty)
    (hbody : g.isEmpty = false → writeBody h (isSpatial g) = writeBody g (isSpatial g)) :
    write h = write g := by
  rw [write_eq_framed, write_eq_framed, framed, framed, htag, hspatial, hempty]
  cases hg : g.isEmpty with
  | true => rfl
  | false => rw [hbody hg]

/-! ## Dimensions -/

/-- A part in which nothing that its text leaves out changes the dimensions: no third ordinate is
written that is NaN, and no hole lies in a polygon without an exterior. -/
structure IsStable (p : Geometry) : Prop where
  heights : isSpatial p = true → ∀ c ∈ p.coordinates, ∀ z ∈ c.z, z.isNaN = false
  holes : ∀ rings ∈ p.polygons, rings.isEmpty = true → rings.flatten = []

instance (p : Geometry) : Decidable (IsStable p) :=
  decidable_of_iff ((isSpatial p = true → ∀ c ∈ p.coordinates, ∀ z ∈ c.z, z.isNaN = false) ∧
      ∀ rings ∈ p.polygons, rings.isEmpty = true → rings.flatten = [])
    ⟨fun h => ⟨h.1, h.2⟩, fun h => ⟨h.heights, h.holes⟩⟩

theorem coordinates_eq_nil {g : Geometry} (hstable : ∀ p ∈ g.parts, IsStable p)
    (hempty : g.isEmpty = true) : g.coordinates = [] :=
  g.coordinates_eq_nil (fun p hp => (hstable p hp).holes) hempty

theorem flatten_legible (z : Bool) {rings : Polygon}
    (hholes : rings.isEmpty = true → rings.flatten = []) :
    (rings.legible z).flatten = rings.flatten.map (Coordinate.legible z) := by
  cases hempty : rings.isEmpty with
  | true =>
    rw [Polygon.legible, if_pos hempty, hholes hempty]
    rfl
  | false =>
    rw [Polygon.legible, if_neg (Bool.eq_false_iff.1 hempty), List.map_flatten]
    rfl

theorem coordinates_items {g : Geometry} {items : List α} {f : α → α} {t : α → List Coordinate}
    {z : Bool} (hnil : g.isEmpty = true → items.flatMap t = [])
    (h : ∀ a ∈ items, t (f a) = (t a).map (Coordinate.legible z)) :
    (if g.isEmpty then [] else items.map f).flatMap t =
      (items.flatMap t).map (Coordinate.legible z) := by
  cases hempty : g.isEmpty with
  | true =>
    rw [if_pos rfl, hnil hempty]
    rfl
  | false =>
    rw [if_neg Bool.false_ne_true, List.flatMap_map, List.map_flatMap, List.flatMap_def,
      List.flatMap_def, List.map_congr_left h]

theorem coordinates_legible {g : Geometry} (hkind : g.kind ≠ .collection)
    (hstable : ∀ p ∈ g.parts, IsStable p) :
    g.legible.coordinates = g.coordinates.map (Coordinate.legible (isSpatial g)) := by
  have hnil : g.isEmpty = true → g.coordinates = [] := coordinates_eq_nil hstable
  have hholes := (hstable g (mem_parts_self g)).holes
  cases g with
  | point p => cases p <;> rfl
  | lineString path => rfl
  | linearRing path => rfl
  | polygon rings => exact flatten_legible _ (hholes rings (List.mem_singleton_self rings))
  | multiPoint points =>
    refine coordinates_items hnil fun p _ => ?_
    cases p <;> rfl
  | multiLineString paths =>
    have hitems := coordinates_items (t := id)
      (f := Path.legible (isSpatial (.multiLineString paths)))
      (by rw [List.flatMap_id]; exact hnil) fun path _ => rfl
    rw [List.flatMap_id, List.flatMap_id] at hitems
    exact hitems
  | multiPolygon polygons =>
    exact coordinates_items hnil fun rings hrings => flatten_legible _ (hholes rings hrings)
  | collection members => exact absurd rfl hkind

def kept (p : Geometry) : List Coordinate :=
  p.coordinates.map (Coordinate.legible (isSpatial p))

theorem coordinates_legible_single {g : Geometry} (hkind : g.kind ≠ .collection)
    (hstable : ∀ p ∈ g.parts, IsStable p) : g.legible.coordinates = [g].flatMap kept := by
  rw [coordinates_legible hkind hstable, List.flatMap_singleton, kept]

mutual

theorem coordinates_legible_leaves : (g : Geometry) → (∀ p ∈ g.parts, IsStable p) →
    g.legible.coordinates = g.leaves.flatMap kept
  | .collection members, hstable => by
    cases hempty : allEmpty members with
    | true =>
      have hnil : (Geometry.collection members).coordinates = [] :=
        coordinates_eq_nil hstable hempty
      rw [Geometry.coordinates_eq_flatMap_leaves, List.flatMap_eq_nil_iff] at hnil
      have hkept : (Geometry.collection members).leaves.flatMap kept = [] :=
        List.flatMap_eq_nil_iff.2 fun p hp => List.map_eq_nil_iff.2 (hnil p hp)
      rw [Geometry.legible, if_pos hempty, hkept]
      rfl
    | false =>
      rw [Geometry.legible, if_neg (Bool.eq_false_iff.1 hempty)]
      exact memberCoordinates_legible_leaves members fun p hp =>
        hstable p (List.mem_cons_of_mem _ hp)
  | .point _, hstable | .lineString _, hstable | .linearRing _, hstable | .polygon _, hstable
  | .multiPoint _, hstable | .multiLineString _, hstable | .multiPolygon _, hstable =>
    coordinates_legible_single nofun hstable

theorem memberCoordinates_legible_leaves : (gs : List Geometry) →
    (∀ p ∈ memberParts gs, IsStable p) →
      memberCoordinates (membersLegible gs) = (memberLeaves gs).flatMap kept
  | [], _ => rfl
  | g :: rest, hstable => by
    have hg := coordinates_legible_leaves g fun p hp => hstable p (List.mem_append_left _ hp)
    have hrest := memberCoordinates_legible_leaves rest fun p hp =>
      hstable p (List.mem_append_right _ hp)
    rw [membersLegible, memberCoordinates, hg, hrest, memberLeaves, List.flatMap_append]

end

/-- What decides between two and three dimensions: whether there are coordinates, and whether all
of them have a third ordinate. -/
def shape (coordinates : List Coordinate) : Bool × Bool :=
  (coordinates.isEmpty, coordinates.all hasZ)

theorem isSpatial_eq_of_shape {g h : Geometry}
    (hshape : shape h.coordinates = shape g.coordinates) : isSpatial h = isSpatial g := by
  obtain ⟨hempty, hall⟩ := Prod.mk.inj hshape
  rw [isSpatial, isSpatial, hempty, hall]

theorem shape_append {cs cs' ds ds' : List Coordinate} (hc : shape cs' = shape cs)
    (hd : shape ds' = shape ds) : shape (cs' ++ ds') = shape (cs ++ ds) := by
  obtain ⟨hcempty, hcall⟩ := Prod.mk.inj hc
  obtain ⟨hdempty, hdall⟩ := Prod.mk.inj hd
  have hempty (as bs : List Coordinate) : (as ++ bs).isEmpty = (as.isEmpty && bs.isEmpty) := by
    cases as <;> rfl
  simp only [shape, hempty, List.all_append, hcempty, hdempty, hcall, hdall]

theorem shape_map {g : Geometry} (hstable : IsStable g) :
    shape (g.coordinates.map (Coordinate.legible (isSpatial g))) = shape g.coordinates := by
  have hall : (g.coordinates.map (Coordinate.legible (isSpatial g))).all hasZ =
      g.coordinates.all hasZ := by
    -- in three dimensions no height is lost; in two none is kept, and one was missing before
    cases hspatial : isSpatial g with
    | true =>
      have hheights (c : Coordinate) (hc : c ∈ g.coordinates) : (c.legible true).hasZ = true := by
        have hfilter := filter_isNaN_eq (hstable.heights hspatial c hc)
        have hc : c.hasZ = true :=
          List.all_eq_true.1 (Bool.and_eq_true_iff.1 hspatial).2 c hc
        exact (congrArg Option.isSome hfilter).trans hc
      rw [(Bool.and_eq_true_iff.1 hspatial).2, List.all_map]
      exact List.all_eq_true.2 hheights
    | false =>
      obtain hnil | hplanar := Bool.and_eq_false_iff.1 hspatial
      · rw [List.isEmpty_iff.1 (Bool.not_eq_eq_eq_not.1 hnil)]
        rfl
      · obtain ⟨c, hc, -⟩ := List.all_eq_false.1 hplanar
        rw [hplanar]
        exact List.all_eq_false.2 ⟨_, List.mem_map_of_mem hc, Bool.false_ne_true⟩
  rw [shape, hall, List.isEmpty_map]
  rfl

theorem shape_legible_single {g : Geometry} (hkind : g.kind ≠ .collection)
    (hstable : ∀ p ∈ g.parts, IsStable p) : shape g.legible.coordinates = shape g.coordinates := by
  rw [coordinates_legible hkind hstable, shape_map (hstable g (mem_parts_self g))]

mutual

theorem shape_legible : (g : Geometry) → (∀ p ∈ g.parts, IsStable p) →
    shape g.legible.coordinates = shape g.coordinates
  | .collection members, hstable => by
    have hmembers : ∀ p ∈ memberParts members, IsStable p :=
      fun p hp => hstable p (List.mem_cons_of_mem _ hp)
    cases hempty : allEmpty members with
    | true =>
      have hnil : (Geometry.collection members).coordinates = [] :=
        coordinates_eq_nil hstable hempty
      rw [Geometry.legible, if_pos hempty, hnil]
      rfl
    | false =>
      rw [Geometry.legible, if_neg (Bool.eq_false_iff.1 hempty)]
      exact memberShape_legible members hmembers
  | .point _, hstable | .lineString _, hstable | .linearRing _, hstable | .polygon _, hstable
  | .multiPoint _, hstable | .multiLineString _, hstable | .multiPolygon _, hstable =>
    shape_legible_single nofun hstable

theorem memberShape_legible : (gs : List Geometry) → (∀ p ∈ memberParts gs, IsStable p) →
    shape (memberCoordinates (membersLegible gs)) = shape (memberCoordinates gs)
  | [], _ => rfl
  | g :: rest, hstable =>
    shape_append (shape_legible g fun p hp => hstable p (List.mem_append_left _ hp))
      (memberShape_legible rest fun p hp => hstable p (List.mem_append_right _ hp))

end

/-! ## Texts -/

theorem writeBody_legible {g : Geometry} (hkind : g.kind ≠ .collection)
    (hsome : g.isEmpty = false) :
    writeBody g.legible (isSpatial g) = writeBody g (isSpatial g) := by
  have hsome := Bool.eq_false_iff.1 hsome
  cases g with
  | point p => exact writePoint_legible _ p
  | lineString path => exact writePath_legible _ path
  | linearRing path => exact writePath_legible _ path
  | polygon rings => exact writePolygon_legible _ rings
  | multiPoint points =>
    rw [Geometry.legible, if_neg hsome]
    exact writeList_map points (writePoint_legible _)
  | multiLineString paths =>
    rw [Geometry.legible, if_neg hsome]
    exact writeList_map paths (writePath_legible _)
  | multiPolygon polygons =>
    rw [Geometry.legible, if_neg hsome]
    exact writeList_map polygons (writePolygon_legible _)
  | collection members => exact absurd rfl hkind

theorem write_legible_single {g : Geometry} (hkind : g.kind ≠ .collection)
    (hstable : ∀ p ∈ g.parts, IsStable p) : write g.legible = write g :=
  write_congr g.tagOf_legible (isSpatial_eq_of_shape (shape_legible g hstable)) g.isEmpty_legible
    (writeBody_legible hkind)

mutual

theorem write_legible : (g : Geometry) → (∀ p ∈ g.parts, IsStable p) → write g.legible = write g
  | .collection members, hstable => by
    refine write_congr (Geometry.tagOf_legible _) (isSpatial_eq_of_shape (shape_legible _ hstable))
      (Geometry.isEmpty_legible _) fun hsome => ?_
    have hsome : ¬allEmpty members = true := Bool.eq_false_iff.1 hsome
    have hmembers := writeMembers_legible members fun p hp =>
      hstable p (List.mem_cons_of_mem _ hp)
    rw [Geometry.legible, if_neg hsome, writeBody, writeBody, hmembers]
  | .point _, hstable | .lineString _, hstable | .linearRing _, hstable | .polygon _, hstable
  | .multiPoint _, hstable | .multiLineString _, hstable | .multiPolygon _, hstable =>
    write_legible_single nofun hstable

theorem writeMembers_legible : (gs : List Geometry) → (∀ p ∈ memberParts gs, IsStable p) →
    writeMembers (membersLegible gs) = writeMembers gs
  | [], _ => rfl
  | g :: rest, hstable => by
    have hg := write_legible g fun p hp => hstable p (List.mem_append_left _ hp)
    have hrest := writeMembers_legible rest fun p hp => hstable p (List.mem_append_right _ hp)
    rw [membersLegible, writeMembers, writeMembers, hg, hrest]

end

end SpatialSql.Wkt
