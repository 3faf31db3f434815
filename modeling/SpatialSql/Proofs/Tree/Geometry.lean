import SpatialSql.Proofs.Geometry.Members
import SpatialSql.Proofs.Wkt.Legible
import SpatialSql.Tree.Geometry
/-!
# Geometries from documents

A document has no number that is not finite.  Where a coordinate has none in the plane, nothing is
read back; where its third ordinate is none, the coordinate is read back without one.  Apart from
that a geometry is read back from the tree that it is stored as.  Nothing is asked of its paths: a
document of a ring that is none is read like any other.
-/

namespace SpatialSql

theorem filter_eq_self_iff {p : α → Bool} {o : Option α} :
    o.filter p = o ↔ ∀ a ∈ o, p a = true := by
  cases o with
  | none => exact iff_of_true rfl nofun
  | some a => simp [Option.filter_some]

/-! ## Numbers and lists -/

namespace Tree

theorem number?_ofNumber (x : Binary64) :
    (ofNumber x).number? = if x.isFinite then some x else none := by
  unfold ofNumber
  cases x.isFinite <;> rfl

theorem required_ofNumber_bind (x : Binary64) (f : Binary64 → Option α) :
    (required number? (some (ofNumber x))).bind f = if x.isFinite then f x else none := by
  show (ofNumber x).number?.bind f = _
  rw [number?_ofNumber]
  by_cases hx : x.isFinite = true
  · rw [if_pos hx, if_pos hx, Option.bind_some]
  · rw [if_neg hx, if_neg hx, Option.bind_none]

theorem if_and {p q : Bool} {result : Option α} :
    (if p && q then result else none) = if p then if q then result else none else none := by
  cases p <;> rfl

theorem map_kept {x : Option α} {keeps : Bool} {a : α} (h : x = if keeps then some a else none)
    (f : α → β) : x.map f = if keeps then some (f a) else none := by
  rw [h, Option.map_if]

theorem optional_ofNumber (z : Option Binary64) :
    optional number? (some (ofOption ofNumber z)) = some (z.filter Binary64.isFinite) := by
  cases z with
  | none => rfl
  | some w =>
    show option? number? (ofNumber w) = some ((some w).filter Binary64.isFinite)
    rw [ofNumber, Option.filter_some]
    cases w.isFinite <;> rfl

theorem list?_ofList {write : α → Tree} {read : Tree → Option α} {keeps : α → Bool} {kept : α → α}
    (h : ∀ a, read (write a) = if keeps a then some (kept a) else none) (items : List α) :
    (ofList write items).list? read = if items.all keeps then some (items.map kept) else none := by
  show (items.map write).mapM read = _
  induction items with
  | nil => rfl
  | cons a rest ih =>
    rw [List.map_cons, List.mapM_cons, h a, ih, List.all_cons]
    cases keeps a with
    | false => rfl
    | true =>
      cases rest.all keeps <;> rfl

end Tree

/-! ## Coordinates -/

namespace Coordinate

/-- Whether a document has numbers for the place of the coordinate in the plane. -/
def isPlaced (c : Coordinate) : Bool := c.x.isFinite && c.y.isFinite

def stored (c : Coordinate) : Coordinate := { c with z := c.z.filter Binary64.isFinite }

theorem stored_eq_self_iff {c : Coordinate} :
    c.stored = c ↔ ∀ z ∈ c.z, z.isFinite = true := by
  obtain ⟨x, y, z⟩ := c
  simp only [stored, Coordinate.mk.injEq, true_and]
  exact filter_eq_self_iff

theorem ofTree?_toTree (c : Coordinate) :
    ofTree? c.toTree = if c.isPlaced then some c.stored else none := by
  have hrecord : c.toTree.record? ["x", "y", "z"] 3 =
      some [some (.ofNumber c.x), some (.ofNumber c.y), some (.ofOption .ofNumber c.z)] := rfl
  rw [isPlaced, Tree.if_and]
  simp only [ofTree?, hrecord, Option.bind_eq_bind, Option.bind_some, Tree.required_ofNumber_bind,
    Tree.optional_ofNumber]
  rfl

end Coordinate

theorem Point.ofTree?_toTree (p : Point) :
    Point.ofTree? (Point.toTree p) =
      if p.toList.all Coordinate.isPlaced then some (p.map Coordinate.stored) else none := by
  cases p with
  | none => rfl
  | some c =>
    rw [Option.toList_some, List.all_cons, List.all_nil, Bool.and_true]
    exact Tree.map_kept (Coordinate.ofTree?_toTree c) some

theorem Path.ofTree?_toTree (path : Path) :
    Path.ofTree? (Path.toTree path) =
      if path.all Coordinate.isPlaced then some (path.map Coordinate.stored) else none :=
  Tree.list?_ofList Coordinate.ofTree?_toTree path

theorem Polygon.ofTree?_toTree (rings : Polygon) :
    Polygon.ofTree? (Polygon.toTree rings) =
      if rings.flatten.all Coordinate.isPlaced then some (rings.map (List.map Coordinate.stored))
      else none := by
  rw [List.all_flatten]
  exact Tree.list?_ofList Path.ofTree?_toTree rings

/-! ## Geometries -/

namespace Geometry

mutual

def mapCoordinates (f : Coordinate → Coordinate) : Geometry → Geometry
  | .point p => .point (Option.map f p)
  | .lineString path => .lineString (List.map f path)
  | .linearRing path => .linearRing (List.map f path)
  | .polygon rings => .polygon (List.map (List.map f) rings)
  | .multiPoint points => .multiPoint (List.map (Option.map f) points)
  | .multiLineString paths => .multiLineString (List.map (List.map f) paths)
  | .multiPolygon polygons => .multiPolygon (List.map (List.map (List.map f)) polygons)
  | .collection members => .collection (mapMembers f members)
termination_by structural g => g

def mapMembers (f : Coordinate → Coordinate) : List Geometry → List Geometry
  | [] => []
  | g :: rest => g.mapCoordinates f :: mapMembers f rest
termination_by structural gs => gs

end

mutual

theorem coordinates_mapCoordinates (f : Coordinate → Coordinate) :
    (g : Geometry) → (g.mapCoordinates f).coordinates = g.coordinates.map f
  | .point _ => Option.toList_map
  | .lineString _ | .linearRing _ => rfl
  | .polygon _ | .multiLineString _ => List.map_flatten.symm
  | .multiPoint points => by
    simp only [mapCoordinates, coordinates, List.map_flatMap, List.flatMap_map, Option.toList_map]
  | .multiPolygon polygons => by
    simp only [mapCoordinates, coordinates, List.map_flatMap, List.flatMap_map, List.map_flatten]
  | .collection members => memberCoordinates_mapMembers f members

theorem memberCoordinates_mapMembers (f : Coordinate → Coordinate) :
    (gs : List Geometry) → memberCoordinates (mapMembers f gs) = (memberCoordinates gs).map f
  | [] => rfl
  | g :: rest => by
    rw [mapMembers, memberCoordinates, memberCoordinates, coordinates_mapCoordinates f g,
      memberCoordinates_mapMembers f rest, List.map_append]

end

mutual

theorem mapCoordinates_eq_self {f : Coordinate → Coordinate} :
    (g : Geometry) → (∀ c ∈ g.coordinates, f c = c) → g.mapCoordinates f = g
  | .point none, _ => rfl
  | .point (some c), h => congrArg (fun c => point (some c)) (h c List.mem_cons_self)
  | .lineString _, h => congrArg lineString (map_eq_self h)
  | .linearRing _, h => congrArg linearRing (map_eq_self h)
  | .polygon _, h => congrArg polygon <| map_eq_self fun ring hring =>
    map_eq_self fun c hc => h c (List.mem_flatten.2 ⟨ring, hring, hc⟩)
  | .multiPoint _, h => congrArg multiPoint <| map_eq_self fun p hp => by
    cases p with
    | none => rfl
    | some c =>
      rw [Option.map_some, h c (List.mem_flatMap.2 ⟨some c, hp, List.mem_cons_self⟩)]
  | .multiLineString _, h => congrArg multiLineString <| map_eq_self fun path hpath =>
    map_eq_self fun c hc => h c (List.mem_flatten.2 ⟨path, hpath, hc⟩)
  | .multiPolygon _, h => congrArg multiPolygon <| map_eq_self fun rings hrings =>
    map_eq_self fun ring hring => map_eq_self fun c hc =>
      h c (List.mem_flatMap.2 ⟨rings, hrings, List.mem_flatten.2 ⟨ring, hring, hc⟩⟩)
  | .collection members, h => congrArg collection (mapMembers_eq_self members h)

theorem mapMembers_eq_self {f : Coordinate → Coordinate} :
    (gs : List Geometry) → (∀ c ∈ memberCoordinates gs, f c = c) → mapMembers f gs = gs
  | [], _ => rfl
  | g :: rest, h => by
    rw [mapMembers, mapCoordinates_eq_self g fun c hc => h c (List.mem_append_left _ hc),
      mapMembers_eq_self rest fun c hc => h c (List.mem_append_right _ hc)]

end

theorem mapCoordinates_eq_self_iff {f : Coordinate → Coordinate} {g : Geometry} :
    g.mapCoordinates f = g ↔ ∀ c ∈ g.coordinates, f c = c := by
  refine ⟨fun h => ?_, mapCoordinates_eq_self g⟩
  have hcoordinates : g.coordinates.map f = g.coordinates.map id := by
    rw [← coordinates_mapCoordinates, h, List.map_id]
  exact List.map_inj_left.1 hcoordinates

def isPlaced (g : Geometry) : Bool := g.coordinates.all Coordinate.isPlaced

def stored (g : Geometry) : Geometry := g.mapCoordinates Coordinate.stored

theorem stored_eq_self_iff {g : Geometry} :
    g.stored = g ↔ ∀ c ∈ g.coordinates, ∀ z ∈ c.z, z.isFinite = true := by
  simp only [stored, mapCoordinates_eq_self_iff, Coordinate.stored_eq_self_iff]

mutual

theorem ofTree?_toTree_eq :
    (g : Geometry) → ofTree? g.toTree = if g.isPlaced then some g.stored else none
  | .point p => Tree.map_kept (Point.ofTree?_toTree p) point
  | .lineString path => Tree.map_kept (Path.ofTree?_toTree path) lineString
  | .linearRing path => Tree.map_kept (Path.ofTree?_toTree path) linearRing
  | .polygon rings => Tree.map_kept (Polygon.ofTree?_toTree rings) polygon
  | .multiPoint points => by
    rw [isPlaced, coordinates, List.all_flatMap]
    exact Tree.map_kept (Tree.list?_ofList Point.ofTree?_toTree points) multiPoint
  | .multiLineString paths => by
    rw [isPlaced, coordinates, List.all_flatten]
    exact Tree.map_kept (Tree.list?_ofList Path.ofTree?_toTree paths) multiLineString
  | .multiPolygon polygons => by
    rw [isPlaced, coordinates, List.all_flatMap]
    exact Tree.map_kept (Tree.list?_ofList Polygon.ofTree?_toTree polygons) multiPolygon
  | .collection members => Tree.map_kept (membersOfTree?_membersToTree_eq members) collection

theorem membersOfTree?_membersToTree_eq : (gs : List Geometry) →
    membersOfTree? (membersToTree gs) =
      if (memberCoordinates gs).all Coordinate.isPlaced then some (mapMembers Coordinate.stored gs)
      else none
  | [] => rfl
  | g :: rest => by
    rw [membersToTree, membersOfTree?, ofTree?_toTree_eq g, membersOfTree?_membersToTree_eq rest,
      memberCoordinates, List.all_append, isPlaced]
    cases g.coordinates.all Coordinate.isPlaced with
    | false => rfl
    | true =>
      cases (memberCoordinates rest).all Coordinate.isPlaced <;> rfl

end

theorem ofTree?_toTree (g : Geometry) (h : ∀ c ∈ g.coordinates, c.IsFinite) :
    ofTree? g.toTree = some g := by
  have hplaced : g.isPlaced = true := by
    rw [isPlaced, List.all_eq_true]
    intro c hc
    rw [Coordinate.isPlaced, (h c hc).1, (h c hc).2.1]
    rfl
  have hstored : g.stored = g := stored_eq_self_iff.2 fun c hc => (h c hc).2.2
  rw [ofTree?_toTree_eq, if_pos hplaced, hstored]

end Geometry

end SpatialSql
