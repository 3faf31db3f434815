import SpatialSql.Proofs.Binary64.Order
import SpatialSql.Proofs.Tree.Geometry
import SpatialSql.Proofs.Wkt.Exchange
/-!
# Where geometries come from

The ways to a geometry, and what its rings are worth.  Every reader and every form that is built
from coordinates checks them; a rectangle is a ring unless one of its sides has no number at all,
and a document is believed.
-/

namespace SpatialSql

/-! ## Rings on the wire -/

namespace Wkb

theorem Each.forall_mem {item : Spelling α} {p : α → Prop}
    (himp : ∀ used a, item used a → p a) {used : List UInt8} {as : List α}
    (h : Each item used as) : ∀ a ∈ as, p a := by
  induction h with
  | nil => nofun
  | cons hfirst _ ih => exact List.forall_mem_cons.2 ⟨himp _ _ hfirst, ih⟩

theorem isRing_of_isPolygon {h : Header} {used : List UInt8} {rings : Polygon}
    (hrings : IsPolygon h used rings) : ∀ ring ∈ rings, ring.isRing = true := by
  obtain ⟨-, heach⟩ := hrings
  exact heach.forall_mem fun _ _ hring => Path.isRing_iff.2 hring.2

theorem IsGeometry.hasRings {lenient : Bool} {levels : Nat} {used : List UInt8} {g : Geometry}
    {srid : Option Int32} (hg : IsGeometry lenient levels used g srid) : g.HasRings := by
  induction levels generalizing used g srid with
  | zero => cases hg
  | succ levels ih =>
    have hmembers {used : List UInt8} {gs : List Geometry}
        (h : IsMembers lenient levels used gs) : ∀ g ∈ gs, g.HasRings :=
      (isMembers_iff_each.1 h).forall_mem fun used g hg => ih hg.choose_spec
    obtain ⟨heading, -, hbody⟩ := hg
    cases hbody with
    | point _ _ | lineString _ _ | multiPoint _ _ _ | multiLineString _ _ _ => nofun
    | polygon _ hrings => exact isRing_of_isPolygon hrings
    | multiPolygon _ _ h =>
      intro ring hring
      obtain ⟨rings, hrings, hring⟩ := List.mem_flatten.1 hring
      exact hmembers h (.polygon rings) (List.mem_map_of_mem hrings) ring hring
    | collection _ _ h => exact Wkt.isRing_of_memberRings (hmembers h)

theorem hasRings_of_decode {bytes : List UInt8} {g : Geometry} {srid : Option Int32}
    (hdecode : decode bytes = .ok (g, srid)) : g.HasRings :=
  (decode_eq_ok_iff_isGeometry.1 hdecode).hasRings

end Wkb

namespace Geometry

/-! ## Rings of other forms -/

theorem hasRings_linearRing_iff {path : Path} :
    (linearRing path).HasRings ↔ path.isRing = true := List.forall_mem_singleton

mutual

/-- The form without linear rings keeps the rings of polygons. -/
theorem rings_withoutRings_subset : (g : Geometry) → g.withoutRings.rings ⊆ g.rings
  | .collection members => memberRings_withoutRings_subset members
  | .linearRing _ => List.nil_subset _
  | .point _ | .lineString _ | .polygon _ | .multiPoint _ | .multiLineString _
  | .multiPolygon _ => List.Subset.refl _

theorem memberRings_withoutRings_subset :
    (gs : List Geometry) → memberRings (membersWithoutRings gs) ⊆ memberRings gs
  | [] => List.Subset.refl _
  | g :: rest => List.append_subset.2
    ⟨List.subset_append_of_subset_left _ (rings_withoutRings_subset g),
      List.subset_append_of_subset_right _ (memberRings_withoutRings_subset rest)⟩

end

theorem HasRings.withoutRings {g : Geometry} (h : g.HasRings) : g.withoutRings.HasRings :=
  fun ring hring => h ring (rings_withoutRings_subset g hring)

theorem HasRings.normalized {g : Geometry} (h : g.HasRings) :
    g.normalized.geometry.HasRings := by
  rw [geometry_normalized]
  exact h.withoutRings

theorem HasRings.member {g : Geometry} {members : List Geometry}
    (h : (collection members).HasRings) (hg : g ∈ members) : g.HasRings := by
  show ∀ ring ∈ g.rings, ring.isRing = true
  have hrings : ∀ ring ∈ memberRings members, ring.isRing = true := h
  clear h
  induction members with
  | nil => cases hg
  | cons first rest ih =>
    rw [memberRings, List.forall_mem_append] at hrings
    obtain rfl | hrest := List.mem_cons.1 hg
    · exact hrings.1
    · exact ih hrest hrings.2

theorem hasRings_of_ofShell {shell : Path} {g : Geometry} (hshell : ofShell shell = .ok g) :
    g.HasRings := by
  obtain ⟨ring, hring, hvalue⟩ := bind_eq_ok.1 hshell
  obtain ⟨hisRing, rfl⟩ := Path.ring_eq_ok_iff.1 hring
  cases hvalue
  exact List.forall_mem_singleton.2 hisRing

theorem hasRings_rectangle_iff (x₀ y₀ x₁ y₁ : Binary64) :
    (rectangle x₀ y₀ x₁ y₁).HasRings ↔
      (x₀.isNaN && x₁.isNaN) = false ∧ (y₀.isNaN && y₁.isNaN) = false := by
  let corner : Coordinate := .planar (x₀.min x₁) (y₀.min y₁)
  have hclosed : (rectangle x₀ y₀ x₁ y₁).HasRings ↔ corner.numEq2d corner = true := by
    show (∀ ring ∈ [_], Path.isRing ring = true) ↔ _
    rw [List.forall_mem_singleton, Path.isRing_iff]
    exact ⟨fun h => (h.resolve_left nofun).2, fun h => .inr ⟨Nat.le_succ 4, h⟩⟩
  rw [hclosed, Coordinate.numEq2d, Binary64.numEq_self, Binary64.numEq_self, Bool.and_eq_true,
    Bool.not_eq_true', Bool.not_eq_true']
  show (x₀.min x₁).isNaN = false ∧ (y₀.min y₁).isNaN = false ↔ _
  rw [Binary64.isNaN_min, Binary64.isNaN_min]

/-! ## Building -/

/-- The geometries that can be had.  A lenient list also has the two ways on which nothing is
checked: a rectangle whose corners both lack a number for one side, and a document. -/
inductive Built (lenient : Bool) : Geometry → Prop
  | point (p : Point) : Built lenient (.point p)
  | lineString (path : Path) : Built lenient (.lineString path)
  | linearRing {path ring : Path} : path.ring = .ok ring → Built lenient (.linearRing ring)
  | polygon {rings : Polygon} :
    (∀ ring ∈ rings, Built lenient (.linearRing ring)) → Built lenient (.polygon rings)
  | multiPoint (points : List Point) : Built lenient (.multiPoint points)
  | multiLineString (paths : List Path) : Built lenient (.multiLineString paths)
  | multiPolygon {polygons : List Polygon} :
    (∀ rings ∈ polygons, Built lenient (.polygon rings)) → Built lenient (.multiPolygon polygons)
  | collection {members : List Geometry} :
    (∀ g ∈ members, Built lenient g) → Built lenient (.collection members)
  | shell {shell : Path} {g : Geometry} : ofShell shell = .ok g → Built lenient g
  | rectangle {x₀ y₀ x₁ y₁ : Binary64} :
    (lenient = false → (x₀.isNaN && x₁.isNaN) = false ∧ (y₀.isNaN && y₁.isNaN) = false) →
      Built lenient (rectangle x₀ y₀ x₁ y₁)
  | text {text : String} {g : Geometry} : Wkt.read text = .ok g → Built lenient g
  | bytes {bytes : List UInt8} {g : Geometry} {srid : Option Int32} :
    Wkb.decode bytes = .ok (g, srid) → Built lenient g
  | normalized {g : Geometry} : Built lenient g → Built lenient g.normalized.geometry
  | member {g : Geometry} {members : List Geometry} :
    Built lenient (.collection members) → g ∈ members → Built lenient g
  | ring {g : Geometry} {ring : Path} :
    Built lenient g → ring ∈ g.rings → Built lenient (.linearRing ring)
  | document {t : Tree} {g : Geometry} : lenient = true → ofTree? t = some g → Built lenient g
  | ringDocument {t : Tree} {ring : Path} :
    lenient = true → Path.ofTree? t = some ring → Built lenient (.linearRing ring)
  | polygonDocument {t : Tree} {rings : Polygon} :
    lenient = true → Polygon.ofTree? t = some rings → Built lenient (.polygon rings)

theorem Built.hasRings {g : Geometry} (h : Built false g) : g.HasRings := by
  induction h with
  | point _ | lineString _ | multiPoint _ | multiLineString _ => nofun
  | linearRing hring =>
    obtain ⟨hisRing, rfl⟩ := Path.ring_eq_ok_iff.1 hring
    exact hasRings_linearRing_iff.2 hisRing
  | polygon _ ih => exact fun ring hring => hasRings_linearRing_iff.1 (ih ring hring)
  | multiPolygon _ ih =>
    intro ring hring
    obtain ⟨rings, hrings, hring⟩ := List.mem_flatten.1 hring
    exact ih rings hrings ring hring
  | collection _ ih => exact Wkt.isRing_of_memberRings ih
  | shell hshell => exact hasRings_of_ofShell hshell
  | rectangle hnumbers => exact (hasRings_rectangle_iff _ _ _ _).2 (hnumbers rfl)
  | text hread => exact Wkt.hasRings_of_read hread
  | bytes hdecode => exact Wkb.hasRings_of_decode hdecode
  | normalized _ ih => exact ih.normalized
  | member _ hg ih => exact ih.member hg
  | ring _ hring ih => exact hasRings_linearRing_iff.2 (ih _ hring)
  | document hlenient _ | ringDocument hlenient _ | polygonDocument hlenient _ => cases hlenient

theorem hasRings_iff {g : Geometry} :
    g.HasRings ↔ ∀ ring ∈ g.rings, ring = [] ∨ 4 ≤ ring.length ∧ ring.isClosed = true :=
  forall₂_congr fun _ _ => Path.isRing_iff

/-- Whatever is had on a way on which rings are checked has rings that are empty, or closed with
at least four coordinates.  A rectangle has such a ring exactly if each of its sides has a number,
and from documents every geometry with finite ordinates can be had, whatever its rings. -/
theorem rings_closed_where_checked (g : Geometry) (x₀ y₀ x₁ y₁ : Binary64) :
    (Built false g → ∀ ring ∈ g.rings, ring = [] ∨ 4 ≤ ring.length ∧ ring.isClosed = true) ∧
      ((∀ ring ∈ (rectangle x₀ y₀ x₁ y₁).rings,
          ring = [] ∨ 4 ≤ ring.length ∧ ring.isClosed = true) ↔
        (x₀.isNaN && x₁.isNaN) = false ∧ (y₀.isNaN && y₁.isNaN) = false) ∧
      ((∀ c ∈ g.coordinates, c.IsFinite) → ofTree? g.toTree = some g) := by
  refine ⟨fun hbuilt => ?_, ?_, ofTree?_toTree g⟩
  · exact hasRings_iff.1 hbuilt.hasRings
  · rw [← hasRings_iff]
    exact hasRings_rectangle_iff x₀ y₀ x₁ y₁

def narrowRectangle : Geometry := rectangle .nan .zero ⟨0x3ff0000000000000⟩ .negInfinity

def checkedGeometry : Geometry :=
  .collection [narrowRectangle, .collection [narrowRectangle.normalized.geometry],
    .multiPolygon [[], narrowRectangle.rings ++ [[]]], .linearRing narrowRectangle.rings.flatten]

def openRing : Geometry := .linearRing [.planar .zero .zero, .planar .zero ⟨0x3ff0000000000000⟩]

theorem rings_closed_where_checked_varied :
    (Built false checkedGeometry ∧ ∀ ring ∈ checkedGeometry.rings,
      ring = [] ∨ 4 ≤ ring.length ∧ ring.isClosed = true) ∧
    (∀ c ∈ openRing.coordinates, c.IsFinite) ∧ ofTree? openRing.toTree = some openRing := by
  have hrectangle : Built false narrowRectangle := .rectangle fun _ => ⟨rfl, rfl⟩
  have hempty : Built false (.linearRing []) :=
    .linearRing (show Path.ring [] = .ok [] from rfl)
  have hbuilt : Built false checkedGeometry := by
    refine .collection (List.forall_mem_cons.2 ⟨hrectangle, List.forall_mem_cons.2 ⟨?_,
      List.forall_mem_cons.2 ⟨?_, List.forall_mem_singleton.2 ?_⟩⟩⟩)
    · exact .collection (List.forall_mem_singleton.2 hrectangle.normalized)
    · refine .multiPolygon (List.forall_mem_cons.2 ⟨.polygon nofun,
        List.forall_mem_singleton.2 (.polygon ?_)⟩)
      exact List.forall_mem_append.2
        ⟨fun ring hring => .ring hrectangle hring, List.forall_mem_singleton.2 hempty⟩
    · exact .ring hrectangle (List.mem_singleton_self _)
  have hfinite : ∀ c ∈ openRing.coordinates, c.IsFinite := by decide
  have hchecked := rings_closed_where_checked checkedGeometry .zero .zero .zero .zero
  have hopen := rings_closed_where_checked openRing .zero .zero .zero .zero
  exact ⟨⟨hbuilt, hchecked.1 hbuilt⟩, hfinite, hopen.2.2 hfinite⟩

/-- Not every geometry that can be had has rings: documents are believed, and a rectangle without a
number for one of its sides is built unseen. -/
theorem not_every_ring_is_closed :
    (Built true openRing ∧ ∃ ring ∈ openRing.rings,
      ¬ (ring = [] ∨ 4 ≤ ring.length ∧ ring.isClosed = true)) ∧
    (Built true (rectangle .nan .zero .nan .zero) ∧
      ∃ ring ∈ (rectangle .nan .zero .nan .zero).rings,
        ¬ (ring = [] ∨ 4 ≤ ring.length ∧ ring.isClosed = true)) := by
  refine ⟨⟨.document (t := openRing.toTree) rfl rfl, _, List.mem_singleton_self _, by decide⟩,
    .rectangle nofun, _, List.mem_singleton_self _, by decide⟩

end Geometry

end SpatialSql
