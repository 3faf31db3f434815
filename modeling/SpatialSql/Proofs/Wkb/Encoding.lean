import SpatialSql.Proofs.Wkb.Canonical
import SpatialSql.Proofs.Wkb.Grammar
import SpatialSql.Wkb.Writing
/-!
# What is written is derived

The bytes of a geometry are derived by the strict grammar, as a spelling of its canonical form with
the levels that its nesting takes.  No reader is mentioned here.
-/

namespace SpatialSql.Wkb

open SpatialSql.Geometry (IsCountable lengths pathLengths memberRings memberLengths
  memberCoordinates memberNesting membersCanonical length_membersCanonical)

/-- A header that says of the body what a layout decides. -/
structure Layout.Describes (l : Layout) (h : Header) : Prop where
  order : h.order = l.order
  z : h.z = l.z
  m : h.m = false

/-! ## Headers -/

namespace Layout

variable (l : Layout)

/-- The choices of a layout: flags alone, and no measure. -/
def heading (kind : Geometry.Kind) (hkind : kind ≠ .generic) (srid : Option Int32) : Heading where
  order := l.order
  kind := kind
  thousands := 0
  zFlagged := l.z
  mFlagged := false
  srid := srid
  reserved := false
  concrete := hkind
  thousands_le := Nat.zero_le 3

theorem header_eq_bytes {kind : Geometry.Kind} (hkind : kind ≠ .generic) (srid : Option Int32) :
    l.header kind srid = (l.heading kind hkind srid).bytes := by
  have hcode : typeCode kind l.z srid.isSome = (l.heading kind hkind srid).code := by
    unfold typeCode Heading.code heading
    cases l.z <;> cases srid.isSome <;> simp [Nat.add_comm, Nat.add_left_comm]
  unfold header Heading.bytes
  rw [hcode]
  cases srid <;> rfl

theorem describes_heading {kind : Geometry.Kind} (hkind : kind ≠ .generic)
    (srid : Option Int32) : l.Describes (l.heading kind hkind srid).toHeader where
  order := rfl
  z := by simp [Heading.toHeader, heading]
  m := rfl

variable {l} {h : Header}

theorem isGeometry_of_isBody {kind : Geometry.Kind} (hkind : kind ≠ .generic)
    (srid : Option Int32) {levels : Nat} {used : List UInt8} {g : Geometry}
    (hbody : ∀ h : Header, l.Describes h → h.kind = kind → IsBody false levels h used g) :
    IsGeometry false (levels + 1) (l.header kind srid ++ used) g srid := by
  rw [header_eq_bytes l hkind srid]
  apply IsGeometry.intro (l.heading kind hkind srid)
  · intro hreserved
    cases hreserved
  · exact hbody _ (l.describes_heading hkind srid) rfl

/-! ## Counted items -/

theorem count_eq {items : List α} (hlt : items.length < 2 ^ 32) :
    l.count items = l.order.encode items.length 4 := by
  have hmod : items.length % 0x100000000 = items.length := Nat.mod_eq_of_lt hlt
  rw [count, hmod]

theorem each_flatMap {item : Spelling β} {write : α → List UInt8} {f : α → β} {items : List α}
    (hitem : ∀ a ∈ items, item (write a) (f a)) :
    Each item (items.flatMap write) (items.map f) := by
  induction items with
  | nil => exact .nil
  | cons a items ih =>
    rw [List.flatMap_cons, List.map_cons]
    exact .cons (hitem a List.mem_cons_self)
      (ih fun b hb => hitem b (List.mem_cons_of_mem a hb))

theorem counted_flatMap (hl : l.Describes h) {item : Spelling β} {write : α → List UInt8}
    {f : α → β} {items : List α} (hlt : items.length < 2 ^ 32)
    (hitem : ∀ a ∈ items, item (write a) (f a)) :
    Counted h.order item (l.count items ++ items.flatMap write) (items.map f) := by
  rw [count_eq hlt, ← hl.order, ← List.length_map (f := f)]
  exact .intro (by rwa [List.length_map]) (each_flatMap hitem)

/-! ## Coordinates and paths -/

def Holds (l : Layout) (c : Coordinate) : Prop := c.hasZ = true → l.z = true

theorem isOrdinate_ordinate (hl : l.Describes h) (x : Binary64) :
    IsOrdinate h (l.ordinate x) x := by
  rw [IsOrdinate, hl.order]
  rfl

theorem filter_getD_nan (z : Option Binary64) :
    (some (z.getD .nan)).filter (fun z => !z.isNaN) = z.filter fun z => !z.isNaN := by
  cases z with
  | none => decide
  | some z => rfl

theorem isCoordinate_coordinate (hl : l.Describes h) {c : Coordinate} (hc : l.Holds c) :
    IsCoordinate h (l.coordinate c) c.canonical := by
  have hx := isOrdinate_ordinate hl c.x
  have hy := isOrdinate_ordinate hl c.y
  have hm : IsOptional h h.m [] none := hl.m ▸ .absent
  unfold coordinate Coordinate.canonical
  cases hz : l.z with
  | true =>
    have hzbytes : IsOptional h h.z (l.ordinate (c.z.getD .nan)) (some (c.z.getD .nan)) := by
      rw [hl.z, hz]
      exact .present (isOrdinate_ordinate hl _)
    have hcoordinate := IsCoordinate.intro hx hy hzbytes hm
    rw [filter_getD_nan] at hcoordinate
    simpa using hcoordinate
  | false =>
    have habsent : c.z = none := by
      cases hcz : c.z with
      | none => rfl
      | some z =>
        have hroom := hc (by simp [Coordinate.hasZ, hcz])
        rw [hz] at hroom
        cases hroom
    have hzbytes : IsOptional h h.z [] none := by
      rw [hl.z, hz]
      exact .absent
    have hcoordinate := IsCoordinate.intro hx hy hzbytes hm
    rw [habsent]
    simpa using hcoordinate

theorem isPoint_point (hl : l.Describes h) {p : Point} (hp : ∀ c ∈ p, l.Holds c) :
    IsPoint h (l.point p) p.canonical := by
  cases p with
  | none =>
    have hcoordinate := isCoordinate_coordinate (c := ⟨.nan, .nan, none⟩) hl (fun hz => by cases hz)
    exact .empty hcoordinate (by decide)
  | some c =>
    have hcoordinate := isCoordinate_coordinate hl (hp c rfl)
    cases hblank : c.isBlank with
    | true =>
      have hcanonical : Point.canonical (some c) = none := by simp [Point.canonical, hblank]
      rw [hcanonical]
      exact .empty hcoordinate hblank
    | false =>
      have hcanonical : Point.canonical (some c) = some c.canonical := by
        simp [Point.canonical, hblank]
      rw [hcanonical]
      exact .coordinate hcoordinate hblank

theorem isPath_path (hl : l.Describes h) {path : Path} (hlt : path.length < 2 ^ 32)
    (hpath : ∀ c ∈ path, l.Holds c) : IsPath h (l.path path) path.canonical :=
  counted_flatMap hl hlt fun c hc => isCoordinate_coordinate hl (hpath c hc)

theorem isRing_path (hl : l.Describes h) {path : Path} (hring : path.isRing = true)
    (hlt : path.length < 2 ^ 32) (hpath : ∀ c ∈ path, l.Holds c) :
    IsRing h (l.path path) path.canonical := by
  refine ⟨isPath_path hl hlt hpath, ?_⟩
  rw [← Path.isRing_iff, Path.isRing_canonical]
  exact hring

theorem isPolygon_polygon (hl : l.Describes h) {rings : Polygon}
    (hrings : ∀ ring ∈ rings, ring.isRing = true)
    (hlists : ∀ n ∈ Geometry.pathLengths rings, n < 2 ^ 32)
    (hz : ∀ c ∈ rings.flatten, l.Holds c) : IsPolygon h (l.polygon rings) rings.canonical := by
  rw [Geometry.pathLengths, List.forall_mem_cons] at hlists
  refine counted_flatMap hl hlists.1 fun ring hring => ?_
  apply isRing_path hl (hrings ring hring)
  · exact hlists.2 _ (List.mem_map_of_mem hring)
  · intro c hc
    exact hz c (List.mem_flatten.2 ⟨ring, hring, hc⟩)

/-! ## Geometries -/

theorem isMembers_flatMap {kind : Geometry.Kind} (hkind : kind ≠ .generic) {levels : Nat}
    {write : α → List UInt8} {f : α → Geometry} {items : List α}
    (hlevels : (if items.isEmpty then 0 else 1) ≤ levels)
    (hitem : ∀ a ∈ items, ∀ (levels : Nat) (h : Header), l.Describes h → h.kind = kind →
      IsBody false levels h (write a) (f a)) :
    IsMembers false levels (items.flatMap fun item => l.header kind none ++ write item)
      (items.map f) := by
  cases levels with
  | zero =>
    cases items with
    | nil => exact .nil
    | cons a items => simp at hlevels
  | succ levels =>
    refine isMembers_iff_each.2 (each_flatMap fun a ha => ⟨none, ?_⟩)
    exact isGeometry_of_isBody hkind none (hitem a ha levels)

theorem isMembers_points {points : List Point} {levels : Nat}
    (hlevels : (if points.isEmpty then 0 else 1) ≤ levels)
    (hz : ∀ c ∈ points.flatMap Option.toList, l.Holds c) :
    IsMembers false levels (points.flatMap fun p => l.header .point none ++ l.point p)
      (points.map fun p => .point p.canonical) := by
  refine isMembers_flatMap (by decide) hlevels fun p hp _ h hl hkind => ?_
  refine .point hkind (isPoint_point hl fun c hc => hz c ?_)
  exact List.mem_flatMap.2 ⟨p, hp, by simpa using hc⟩

theorem isMembers_paths {paths : List Path} {levels : Nat}
    (hlevels : (if paths.isEmpty then 0 else 1) ≤ levels)
    (hlists : ∀ n ∈ pathLengths paths, n < 2 ^ 32) (hz : ∀ c ∈ paths.flatten, l.Holds c) :
    IsMembers false levels (paths.flatMap fun path => l.header .lineString none ++ l.path path)
      (paths.map fun path => .lineString path.canonical) := by
  refine isMembers_flatMap (by decide) hlevels fun path hpath _ h hl hkind => ?_
  refine .lineString hkind (isPath_path hl ?_ fun c hc => hz c ?_)
  · exact hlists _ (List.mem_cons_of_mem _ (List.mem_map_of_mem hpath))
  · exact List.mem_flatten.2 ⟨path, hpath, hc⟩

theorem isMembers_polygons {polygons : List Polygon} {levels : Nat}
    (hlevels : (if polygons.isEmpty then 0 else 1) ≤ levels)
    (hrings : ∀ ring ∈ polygons.flatten, ring.isRing = true)
    (hlists : ∀ n ∈ polygons.flatMap pathLengths, n < 2 ^ 32)
    (hz : ∀ c ∈ polygons.flatMap List.flatten, l.Holds c) :
    IsMembers false levels (polygons.flatMap fun rings => l.header .polygon none ++ l.polygon rings)
      (polygons.map fun rings => .polygon rings.canonical) := by
  refine isMembers_flatMap (by decide) hlevels fun rings hmem _ h hl hkind => ?_
  refine .polygon hkind (isPolygon_polygon hl ?_ ?_ ?_)
  · intro ring hring
    exact hrings ring (List.mem_flatten.2 ⟨rings, hmem, hring⟩)
  · intro n hn
    exact hlists n (List.mem_flatMap.2 ⟨rings, hmem, hn⟩)
  · intro c hc
    exact hz c (List.mem_flatMap.2 ⟨rings, hmem, hc⟩)

mutual

theorem isBody_body : (g : Geometry) → g.HasRings → g.IsCountable →
    (∀ c ∈ g.coordinates, l.Holds c) → ∀ {levels : Nat} {h : Header}, g.nesting ≤ levels →
    l.Describes h → h.kind = g.kind → IsBody false levels h (l.body g) g.canonical
  | .point p, _, _, hz, _, _, _, hl, hkind => by
    refine .point hkind (isPoint_point hl fun c hc => hz c ?_)
    simpa [Geometry.coordinates] using hc
  | .lineString path, _, hlists, hz, _, _, _, hl, hkind =>
    .lineString hkind (isPath_path hl (hlists _ List.mem_cons_self) hz)
  | .linearRing path, _, hlists, hz, _, _, _, hl, hkind =>
    .lineString hkind (isPath_path hl (hlists _ List.mem_cons_self) hz)
  | .polygon rings, hrings, hlists, hz, _, _, _, hl, hkind =>
    .polygon hkind (isPolygon_polygon hl hrings hlists hz)
  | .multiPoint points, _, hlists, hz, levels, h, hlevels, hl, hkind => by
    have hlt : points.length < 2 ^ 32 := hlists _ List.mem_cons_self
    have hbody : IsBody false levels h _ (.multiPoint (points.map Point.canonical)) :=
      .multiPoint hkind (by rwa [List.length_map])
        (by rw [List.map_map]; exact isMembers_points hlevels hz)
    rw [List.length_map, hl.order, ← count_eq hlt] at hbody
    exact hbody
  | .multiLineString paths, _, hlists, hz, levels, h, hlevels, hl, hkind => by
    have hlt : paths.length < 2 ^ 32 := hlists _ List.mem_cons_self
    have hbody : IsBody false levels h _ (.multiLineString (paths.map Path.canonical)) :=
      .multiLineString hkind (by rwa [List.length_map])
        (by rw [List.map_map]; exact isMembers_paths hlevels hlists hz)
    rw [List.length_map, hl.order, ← count_eq hlt] at hbody
    exact hbody
  | .multiPolygon polygons, hrings, hlists, hz, levels, h, hlevels, hl, hkind => by
    rw [IsCountable, lengths, List.forall_mem_cons] at hlists
    have hbody : IsBody false levels h _ (.multiPolygon (polygons.map Polygon.canonical)) :=
      .multiPolygon hkind (by rw [List.length_map]; exact hlists.1)
        (by rw [List.map_map]; exact isMembers_polygons hlevels hrings hlists.2 hz)
    rw [List.length_map, hl.order, ← count_eq hlists.1] at hbody
    exact hbody
  | .collection members, hrings, hlists, hz, levels, h, hlevels, hl, hkind => by
    rw [IsCountable, lengths, List.forall_mem_cons] at hlists
    have hmembers := isMembers_collected members hrings hlists.2 hz hlevels
    have hbody := IsBody.collection (h := h) hkind
      (by rw [length_membersCanonical]; exact hlists.1) hmembers
    rw [length_membersCanonical, hl.order, ← count_eq hlists.1] at hbody
    exact hbody

theorem isMembers_collected : (gs : List Geometry) → (∀ ring ∈ memberRings gs, ring.isRing = true) →
    (∀ n ∈ memberLengths gs, n < 2 ^ 32) → (∀ c ∈ memberCoordinates gs, l.Holds c) →
    ∀ {levels : Nat}, memberNesting gs ≤ levels →
    IsMembers false levels (l.collected gs) (membersCanonical gs)
  | [], _, _, _, _, _ => .nil
  | g :: rest, hrings, hlists, hz, levels, hlevels => by
    rw [memberRings, List.forall_mem_append] at hrings
    rw [memberLengths, List.forall_mem_append] at hlists
    rw [memberCoordinates, List.forall_mem_append] at hz
    rw [memberNesting] at hlevels
    obtain ⟨hg, hrest⟩ := Nat.max_le.1 hlevels
    cases levels with
    | zero => cases hg
    | succ levels =>
      have hfirst := isGeometry_of_isBody g.kind_ne_generic none fun h hl hkind =>
        isBody_body g hrings.1 hlists.1 hz.1 (Nat.le_of_succ_le_succ hg) hl hkind
      have hothers := isMembers_collected rest hrings.2 hlists.2 hz.2 hrest
      exact .cons hfirst hothers

end

theorem holds_of_mem {g : Geometry} {c : Coordinate} (hc : c ∈ g.coordinates)
    (order : ByteOrder) : Holds ⟨order, g.hasZ⟩ c :=
  fun hz => List.any_eq_true.2 ⟨c, hc, hz⟩

end Layout

theorem isGeometry_encode {g : Geometry} (hrings : g.HasRings) (hlists : g.IsCountable)
    (order : ByteOrder) (srid : Option Int32) {levels : Nat} (hlevels : g.nesting ≤ levels) :
    IsGeometry false (levels + 1) (encode order g srid) g.canonical srid :=
  Layout.isGeometry_of_isBody g.kind_ne_generic srid fun _ hl hkind =>
    Layout.isBody_body g hrings hlists (fun _ hc => Layout.holds_of_mem hc order) hlevels hl hkind

end SpatialSql.Wkb
