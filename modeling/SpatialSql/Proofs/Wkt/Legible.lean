import SpatialSql.Proofs.Geometry.Members
import SpatialSql.Wkt.Writing
/-!
# What a text keeps

The geometry that the text of a geometry is read as: a NaN loses its payload, a third ordinate is
there only if it was written and is a number, and what is written as `EMPTY` has no parts.
-/

namespace SpatialSql

namespace Wkt

def writeBody : Geometry → (z : Bool) → String
  | .point p, z => writePoint z p
  | .lineString path, z | .linearRing path, z => writePath z path
  | .polygon rings, z => writePolygon z rings
  | .multiPoint points, z => writeList (points.map (writePoint z))
  | .multiLineString paths, z => writeList (paths.map (writePath z))
  | .multiPolygon polygons, z => writeList (polygons.map (writePolygon z))
  | .collection members, _ => writeList (writeMembers members)

theorem write_eq_framed (g : Geometry) : write g = framed g (writeBody g) := by
  cases g <;> rfl

theorem writeMembers_eq_map (gs : List Geometry) : writeMembers gs = gs.map write := by
  induction gs with
  | nil => rfl
  | cons g rest ih => rw [writeMembers, ih, List.map_cons]

end Wkt

/-! ## Ordinates -/

def Binary64.legible (x : Binary64) : Binary64 := if x.isNaN then .nan else x

namespace Binary64

theorem legible_eq {x : Binary64} (h : x.isNaN = false) : x.legible = x := by
  rw [legible, h]
  rfl

theorem isNaN_legible (x : Binary64) : x.legible.isNaN = x.isNaN := by
  cases h : x.isNaN with
  | false => rw [legible_eq h, h]
  | true =>
    rw [legible, h]
    rfl

theorem plain_legible (x : Binary64) : x.legible.plain = x.plain := by
  cases h : x.isNaN with
  | false => rw [legible_eq h]
  | true =>
    have hnan : nan.isNaN = true := rfl
    have hlegible : x.legible = nan := by rw [legible, if_pos h]
    rw [hlegible, plain, plain, if_pos hnan, if_pos h]

theorem numEq_legible (x y : Binary64) : x.legible.numEq y.legible = x.numEq y := by
  cases hx : x.isNaN with
  | true => simp [numEq, isNaN_legible, hx]
  | false =>
    cases hy : y.isNaN with
    | true => simp [numEq, isNaN_legible, hx, hy]
    | false => rw [legible_eq hx, legible_eq hy]

theorem isNaN_of_isFinite {x : Binary64} (h : x.isFinite = true) : x.isNaN = false := by
  have hmagnitude : x.magnitude < infiniteMagnitude := by simpa [isFinite] using h
  simp only [isNaN, decide_eq_false_iff_not]
  omega

end Binary64

/-! ## Coordinates -/

def Coordinate.legible (z : Bool) (c : Coordinate) : Coordinate where
  x := c.x.legible
  y := c.y.legible
  z := if z then c.z.filter fun z => !z.isNaN else none

def Coordinate.IsFinite (c : Coordinate) : Prop :=
  c.x.isFinite = true ∧ c.y.isFinite = true ∧ ∀ z ∈ c.z, z.isFinite = true

instance (c : Coordinate) : Decidable c.IsFinite :=
  inferInstanceAs (Decidable (c.x.isFinite = true ∧ c.y.isFinite = true ∧
    ∀ z ∈ c.z, z.isFinite = true))

/-- No ordinate is positive infinity, whose name is read as a word. -/
def Coordinate.IsSpelled (c : Coordinate) : Prop :=
  c.x ≠ .infinity ∧ c.y ≠ .infinity ∧ ∀ z ∈ c.z, z ≠ .infinity

instance (c : Coordinate) : Decidable c.IsSpelled :=
  inferInstanceAs (Decidable (c.x ≠ .infinity ∧ c.y ≠ .infinity ∧ ∀ z ∈ c.z, z ≠ .infinity))

theorem filter_isNaN_eq {z : Option Binary64} (h : ∀ w ∈ z, w.isNaN = false) :
    z.filter (fun w => !w.isNaN) = z := by
  cases z with
  | none => rfl
  | some w => simp [h w rfl]

namespace Coordinate

theorem legible_eq {z : Bool} {c : Coordinate} (hc : c.IsFinite) (hz : c.hasZ = z) :
    c.legible z = c := by
  obtain ⟨hx, hy, hw⟩ := hc
  have hfilter := filter_isNaN_eq fun w hcw => Binary64.isNaN_of_isFinite (hw w hcw)
  have hthird : (if z then c.z.filter fun w => !w.isNaN else none) = c.z := by
    rw [hfilter]
    cases z with
    | true => rfl
    | false =>
      have hnone : c.z = none := by simpa [hasZ] using hz
      exact hnone.symm
  rw [legible, Binary64.legible_eq (Binary64.isNaN_of_isFinite hx),
    Binary64.legible_eq (Binary64.isNaN_of_isFinite hy), hthird]

theorem numEq2d_legible (z : Bool) (a b : Coordinate) :
    (a.legible z).numEq2d (b.legible z) = a.numEq2d b := by
  simp only [numEq2d, legible, Binary64.numEq_legible]

end Coordinate

def Point.legible (z : Bool) (p : Point) : Point := p.map (Coordinate.legible z)

def Path.legible (z : Bool) (path : Path) : Path := path.map (Coordinate.legible z)

def Polygon.legible (z : Bool) (rings : Polygon) : Polygon :=
  if rings.isEmpty then [] else rings.map (Path.legible z)

theorem Path.isEmpty_legible (z : Bool) (path : Path) :
    List.isEmpty (path.legible z) = List.isEmpty path := List.isEmpty_map

theorem Path.isClosed_legible (z : Bool) (path : Path) :
    (path.legible z).isClosed = path.isClosed := by
  have hhead : (path.legible z).head? = path.head?.map (Coordinate.legible z) := List.head?_map
  have hlast : (path.legible z).getLast? = path.getLast?.map (Coordinate.legible z) :=
    List.getLast?_map
  unfold isClosed
  rw [hhead, hlast]
  cases path.head? <;> cases path.getLast? <;> simp [Coordinate.numEq2d_legible]

theorem Polygon.isEmpty_legible (z : Bool) (rings : Polygon) :
    (rings.legible z).isEmpty = rings.isEmpty := by
  cases hempty : rings.isEmpty with
  | true =>
    rw [legible, hempty]
    rfl
  | false =>
    rw [legible, hempty]
    cases rings with
    | nil => cases hempty
    | cons ring rings => exact (Path.isEmpty_legible z ring).trans hempty

/-! ## Geometries -/

namespace Geometry

open SpatialSql.Wkt (isSpatial)

mutual

/-- What the text of a geometry keeps of it.  Each part that is no collection tells for itself
whether third ordinates are written. -/
def legible : Geometry → Geometry
  | .point p => .point (p.legible (isSpatial (.point p)))
  | .lineString path => .lineString (path.legible (isSpatial (.lineString path)))
  | .linearRing path => .linearRing (path.legible (isSpatial (.linearRing path)))
  | .polygon rings => .polygon (rings.legible (isSpatial (.polygon rings)))
  | .multiPoint points =>
    .multiPoint (if (multiPoint points).isEmpty then []
      else points.map (Point.legible (isSpatial (.multiPoint points))))
  | .multiLineString paths =>
    .multiLineString (if (multiLineString paths).isEmpty then []
      else paths.map (Path.legible (isSpatial (.multiLineString paths))))
  | .multiPolygon polygons =>
    .multiPolygon (if (multiPolygon polygons).isEmpty then []
      else polygons.map (Polygon.legible (isSpatial (.multiPolygon polygons))))
  | .collection members => .collection (if allEmpty members then [] else membersLegible members)
termination_by structural g => g

def membersLegible : List Geometry → List Geometry
  | [] => []
  | g :: rest => g.legible :: membersLegible rest
termination_by structural gs => gs

end

theorem membersLegible_eq_map (gs : List Geometry) : membersLegible gs = gs.map legible := by
  induction gs with
  | nil => rfl
  | cons g rest ih => rw [membersLegible, ih, List.map_cons]

theorem tagOf_legible (g : Geometry) : Wkt.tagOf g.legible = Wkt.tagOf g := by
  cases g <;> rfl

theorem kind_legible (g : Geometry) : g.legible.kind = g.kind := by cases g <;> rfl

mutual

theorem containsRing_legible :
    (g : Geometry) → g.containsRing = false → g.legible.containsRing = false
  | .linearRing _, hring => by cases hring
  | .collection members, hring => by
    rw [legible, containsRing]
    cases allEmpty members with
    | true => rfl
    | false => exact anyContainsRing_legible members hring
  | .point _, _ | .lineString _, _ | .polygon _, _ | .multiPoint _, _ | .multiLineString _, _
  | .multiPolygon _, _ => rfl

theorem anyContainsRing_legible :
    (gs : List Geometry) → anyContainsRing gs = false → anyContainsRing (membersLegible gs) = false
  | [], _ => rfl
  | g :: rest, hring => by
    rw [anyContainsRing, Bool.or_eq_false_iff] at hring
    rw [membersLegible, anyContainsRing, containsRing_legible g hring.1,
      anyContainsRing_legible rest hring.2, Bool.or_self]

end

/-- A list that is left out is as empty as its geometry, and so is one that is kept. -/
theorem all_items {g : Geometry} {items : List α} {f : α → α} {p : α → Bool}
    (hempty : g.isEmpty = items.all p) (h : ∀ a, p (f a) = p a) :
    (if g.isEmpty then [] else items.map f).all p = g.isEmpty := by
  cases hg : g.isEmpty with
  | true => rfl
  | false => rw [if_neg Bool.false_ne_true, List.all_map, Function.comp_def, funext h, ← hempty, hg]

mutual

theorem isEmpty_legible : (g : Geometry) → g.legible.isEmpty = g.isEmpty
  | .point p => Option.isNone_map
  | .lineString path => Path.isEmpty_legible _ path
  | .linearRing path => Path.isEmpty_legible _ path
  | .polygon rings => Polygon.isEmpty_legible _ rings
  | .multiPoint points => all_items rfl fun p => Option.isNone_map
  | .multiLineString paths => all_items rfl fun path => Path.isEmpty_legible _ path
  | .multiPolygon polygons => all_items rfl fun rings => Polygon.isEmpty_legible _ rings
  | .collection members => by
    cases hempty : allEmpty members with
    | true =>
      rw [legible, if_pos hempty]
      exact hempty.symm
    | false =>
      rw [legible, if_neg (Bool.eq_false_iff.1 hempty)]
      exact allEmpty_legible members

theorem allEmpty_legible : (gs : List Geometry) → allEmpty (membersLegible gs) = allEmpty gs
  | [] => rfl
  | g :: rest => by
    rw [membersLegible, allEmpty, allEmpty, isEmpty_legible g, allEmpty_legible rest]

end

/-! ## Geometries that their texts keep -/

def IsUniform (g : Geometry) : Prop :=
  (∀ c ∈ g.coordinates, c.hasZ = true) ∨ ∀ c ∈ g.coordinates, c.hasZ = false

instance (g : Geometry) : Decidable g.IsUniform :=
  inferInstanceAs (Decidable (_ ∨ _))

/-- A part in which nothing is left out of the text. -/
structure IsRegular (p : Geometry) : Prop where
  uniform : p.kind ≠ .collection → p.IsUniform
  exterior : ∀ rings ∈ p.polygons, rings = [] ∨ rings.isEmpty = false
  inhabited : p.hasMembers = true → p.isEmpty = false

instance (p : Geometry) : Decidable p.IsRegular :=
  decidable_of_iff ((p.kind ≠ .collection → p.IsUniform) ∧
      (∀ rings ∈ p.polygons, rings = [] ∨ rings.isEmpty = false) ∧
      (p.hasMembers = true → p.isEmpty = false))
    ⟨fun h => ⟨h.1, h.2.1, h.2.2⟩, fun h => ⟨h.uniform, h.exterior, h.inhabited⟩⟩

theorem legible_coordinate {g : Geometry} (huniform : g.IsUniform) {c : Coordinate}
    (hc : c ∈ g.coordinates) (hfinite : c.IsFinite) : c.legible (isSpatial g) = c := by
  have hcoordinates : g.coordinates.isEmpty = false :=
    List.isEmpty_eq_false_iff.2 (List.ne_nil_of_mem hc)
  apply Coordinate.legible_eq hfinite
  cases huniform with
  | inl hall =>
    have hspatial : isSpatial g = true := by
      rw [isSpatial, hcoordinates, List.all_eq_true.2 hall]
      rfl
    rw [hall c hc, hspatial]
  | inr hnone =>
    have hspatial : isSpatial g = false := by
      rw [isSpatial, Bool.and_eq_false_iff]
      exact .inr (List.all_eq_false.2 ⟨c, hc, Bool.eq_false_iff.1 (hnone c hc)⟩)
    rw [hnone c hc, hspatial]

theorem legible_items {g : Geometry} {items : List α} {f : α → α}
    (hinhabited : items.isEmpty = false → g.isEmpty = false) (h : ∀ a ∈ items, f a = a) :
    (if g.isEmpty then [] else items.map f) = items := by
  cases items with
  | nil => exact ite_self _
  | cons a items => rw [if_neg (Bool.eq_false_iff.1 (hinhabited rfl)), map_eq_self h]

theorem legible_path {path : Path} {z : Bool}
    (h : ∀ c ∈ path, c.legible z = c) : path.legible z = path := map_eq_self h

theorem legible_polygon {rings : Polygon} {z : Bool}
    (hexterior : rings = [] ∨ rings.isEmpty = false)
    (h : ∀ ring ∈ rings, ∀ c ∈ ring, c.legible z = c) : rings.legible z = rings := by
  obtain rfl | hexterior := hexterior
  · rfl
  · rw [Polygon.legible, if_neg (Bool.eq_false_iff.1 hexterior)]
    exact map_eq_self fun ring hring => map_eq_self (h ring hring)

theorem legible_single {g : Geometry} (hkind : g.kind ≠ .collection)
    (hfinite : ∀ c ∈ g.coordinates, c.IsFinite) (hregular : g.IsRegular) : g.legible = g := by
  have hc (c : Coordinate) (hmem : c ∈ g.coordinates) : c.legible (isSpatial g) = c :=
    legible_coordinate (hregular.uniform hkind) hmem (hfinite c hmem)
  have hinhabited := hregular.inhabited
  have hexterior := hregular.exterior
  cases g with
  | point p =>
    cases p with
    | none => rfl
    | some c => rw [legible, Point.legible, Option.map_some, hc c (List.mem_singleton_self c)]
  | lineString path => exact congrArg lineString (legible_path hc)
  | linearRing path => exact congrArg linearRing (legible_path hc)
  | polygon rings =>
    refine congrArg polygon (legible_polygon (hexterior rings (List.mem_singleton_self rings)) ?_)
    exact fun ring hring c hcr => hc c (List.mem_flatten.2 ⟨ring, hring, hcr⟩)
  | multiPoint points =>
    refine congrArg multiPoint (legible_items (fun h => hinhabited (by simp [hasMembers, h])) ?_)
    intro p hp
    cases p with
    | none => rfl
    | some c => exact congrArg some (hc c (List.mem_flatMap.2 ⟨_, hp, List.mem_singleton_self c⟩))
  | multiLineString paths =>
    refine congrArg multiLineString
      (legible_items (fun h => hinhabited (by simp [hasMembers, h])) ?_)
    exact fun path hpath => legible_path fun c hcp => hc c (List.mem_flatten.2 ⟨path, hpath, hcp⟩)
  | multiPolygon polygons =>
    refine congrArg multiPolygon
      (legible_items (fun h => hinhabited (by simp [hasMembers, h])) ?_)
    intro rings hrings
    refine legible_polygon (hexterior rings hrings) fun ring hring c hcr => ?_
    exact hc c (List.mem_flatMap.2 ⟨rings, hrings, List.mem_flatten.2 ⟨ring, hring, hcr⟩⟩)
  | collection members => exact absurd rfl hkind

mutual

theorem legible_eq : (g : Geometry) → (∀ c ∈ g.coordinates, c.IsFinite) →
    (∀ p ∈ g.parts, p.IsRegular) → g.legible = g
  | .collection members, hfinite, hregular => by
    have hinhabited := (hregular _ (mem_parts_self _)).inhabited
    have hmembers := membersLegible_eq members hfinite fun p hp =>
      hregular p (List.mem_cons_of_mem _ hp)
    cases members with
    | nil => rfl
    | cons g rest =>
      have hsome : allEmpty (g :: rest) = false := hinhabited rfl
      rw [legible, if_neg (Bool.eq_false_iff.1 hsome), hmembers]
  | .point _, hfinite, hregular | .lineString _, hfinite, hregular
  | .linearRing _, hfinite, hregular | .polygon _, hfinite, hregular
  | .multiPoint _, hfinite, hregular | .multiLineString _, hfinite, hregular
  | .multiPolygon _, hfinite, hregular =>
    legible_single nofun hfinite (hregular _ (mem_parts_self _))

theorem membersLegible_eq : (gs : List Geometry) → (∀ c ∈ memberCoordinates gs, c.IsFinite) →
    (∀ p ∈ memberParts gs, p.IsRegular) → membersLegible gs = gs
  | [], _, _ => rfl
  | g :: rest, hfinite, hregular => by
    have hg := legible_eq g (fun c hc => hfinite c (List.mem_append_left _ hc))
      fun p hp => hregular p (List.mem_append_left _ hp)
    have hrest := membersLegible_eq rest (fun c hc => hfinite c (List.mem_append_right _ hc))
      fun p hp => hregular p (List.mem_append_right _ hp)
    rw [membersLegible, hg, hrest]

end

end Geometry

end SpatialSql
