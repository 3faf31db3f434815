import Mathlib.Algebra.Group.Nat.Defs
import SpatialSql.Wkb.Reading
/-!
# The grammar of the binary format

Which bytes spell which geometry, said without a reader.  Every header chooses its byte order, its
dimensions and a reference system for itself; members differ from the outermost geometry in nothing
but the levels that are left to them.
-/

namespace SpatialSql.Wkb

/-- Which bytes spell which values. -/
abbrev Spelling (α : Type) := List UInt8 → α → Prop

inductive Each (item : Spelling α) : Spelling (List α)
  | nil : Each item [] []
  | cons {used others : List UInt8} {a : α} {as : List α} :
    item used a → Each item others as → Each item (used ++ others) (a :: as)

inductive Counted (order : ByteOrder) (item : Spelling α) : Spelling (List α)
  | intro {used : List UInt8} {as : List α} :
    as.length < 2 ^ 32 → Each item used as →
      Counted order item (order.encode as.length 4 ++ used) as

/-! ## Headers -/

def reservedFlag : Nat := 0x10000000

def sridBytes (order : ByteOrder) : Option Int32 → List UInt8
  | some srid => order.encode srid.toUInt32.toNat 4
  | none => []

/-- The choices in a header.  Dimensions are given by flags, in thousands, or both ways at once. -/
structure Heading where
  order : ByteOrder
  kind : Geometry.Kind
  thousands : Nat
  zFlagged : Bool
  mFlagged : Bool
  srid : Option Int32
  reserved : Bool
  concrete : kind ≠ .generic
  thousands_le : thousands ≤ 3

namespace Heading

def code (h : Heading) : Nat :=
  h.kind.code + 1000 * h.thousands + reservedFlag * h.reserved.toNat
    + sridFlag * h.srid.isSome.toNat + mFlag * h.mFlagged.toNat + zFlag * h.zFlagged.toNat

def bytes (h : Heading) : List UInt8 :=
  h.order.marker :: (h.order.encode h.code 4 ++ sridBytes h.order h.srid)

def toHeader (h : Heading) : Header where
  order := h.order
  kind := h.kind
  z := h.zFlagged || h.thousands == 1 || h.thousands == 3
  m := h.mFlagged || h.thousands == 2 || h.thousands == 3
  srid := h.srid

end Heading

/-! ## Coordinates -/

def IsOrdinate (h : Header) : Spelling Binary64 := fun used x =>
  used = h.order.encode x.bits.toNat 8

inductive IsOptional (h : Header) : (present : Bool) → Spelling (Option Binary64)
  | absent : IsOptional h false [] none
  | present {used : List UInt8} {x : Binary64} :
    IsOrdinate h used x → IsOptional h true used (some x)

/-- Two ordinates, a third that counts as absent when it is NaN, and a measure that is dropped. -/
inductive IsCoordinate (h : Header) : Spelling Coordinate
  | intro {ux uy uz um : List UInt8} {x y : Binary64} {z m : Option Binary64} :
    IsOrdinate h ux x → IsOrdinate h uy y → IsOptional h h.z uz z → IsOptional h h.m um m →
      IsCoordinate h (ux ++ (uy ++ (uz ++ um))) ⟨x, y, z.filter fun z => !z.isNaN⟩

/-- A coordinate whose first two ordinates are NaN is the empty point. -/
inductive IsPoint (h : Header) : Spelling Point
  | empty {used : List UInt8} {c : Coordinate} :
    IsCoordinate h used c → (c.x.isNaN && c.y.isNaN) = true → IsPoint h used none
  | coordinate {used : List UInt8} {c : Coordinate} :
    IsCoordinate h used c → (c.x.isNaN && c.y.isNaN) = false → IsPoint h used (some c)

def IsPath (h : Header) : Spelling Path := Counted h.order (IsCoordinate h)

def IsRing (h : Header) : Spelling Path := fun used path =>
  IsPath h used path ∧ (path = [] ∨ 4 ≤ path.length ∧ path.isClosed = true)

def IsPolygon (h : Header) : Spelling Polygon := Counted h.order (IsRing h)

/-! ## Geometries

A lenient grammar also derives headers with the bit that has no meaning. -/

mutual

/-- A geometry of at most `levels` levels, itself included, and the reference system in its
header. -/
inductive IsGeometry (lenient : Bool) :
    (levels : Nat) → List UInt8 → Geometry → Option Int32 → Prop
  | intro {levels : Nat} {used : List UInt8} {g : Geometry} (h : Heading) :
    (h.reserved = true → lenient = true) → IsBody lenient levels h.toHeader used g →
      IsGeometry lenient (levels + 1) (h.bytes ++ used) g h.srid

/-- What is behind a header; members have at most `levels` levels. -/
inductive IsBody (lenient : Bool) : (levels : Nat) → Header → Spelling Geometry
  | point {levels : Nat} {h : Header} {used : List UInt8} {p : Point} :
    h.kind = .point → IsPoint h used p → IsBody lenient levels h used (.point p)
  | lineString {levels : Nat} {h : Header} {used : List UInt8} {path : Path} :
    h.kind = .lineString → IsPath h used path → IsBody lenient levels h used (.lineString path)
  | polygon {levels : Nat} {h : Header} {used : List UInt8} {rings : Polygon} :
    h.kind = .polygon → IsPolygon h used rings → IsBody lenient levels h used (.polygon rings)
  | multiPoint {levels : Nat} {h : Header} {used : List UInt8} {points : List Point} :
    h.kind = .multiPoint → points.length < 2 ^ 32 →
      IsMembers lenient levels used (points.map .point) →
      IsBody lenient levels h (h.order.encode points.length 4 ++ used) (.multiPoint points)
  | multiLineString {levels : Nat} {h : Header} {used : List UInt8} {paths : List Path} :
    h.kind = .multiLineString → paths.length < 2 ^ 32 →
      IsMembers lenient levels used (paths.map .lineString) →
      IsBody lenient levels h (h.order.encode paths.length 4 ++ used) (.multiLineString paths)
  | multiPolygon {levels : Nat} {h : Header} {used : List UInt8} {polygons : List Polygon} :
    h.kind = .multiPolygon → polygons.length < 2 ^ 32 →
      IsMembers lenient levels used (polygons.map .polygon) →
      IsBody lenient levels h (h.order.encode polygons.length 4 ++ used) (.multiPolygon polygons)
  | collection {levels : Nat} {h : Header} {used : List UInt8} {members : List Geometry} :
    h.kind = .collection → members.length < 2 ^ 32 → IsMembers lenient levels used members →
      IsBody lenient levels h (h.order.encode members.length 4 ++ used) (.collection members)

/-- Geometries one behind the other; their reference systems are not reported. -/
inductive IsMembers (lenient : Bool) : (levels : Nat) → Spelling (List Geometry)
  | nil {levels : Nat} : IsMembers lenient levels [] []
  | cons {levels : Nat} {used others : List UInt8} {g : Geometry} {srid : Option Int32}
      {gs : List Geometry} :
    IsGeometry lenient levels used g srid → IsMembers lenient levels others gs →
      IsMembers lenient levels (used ++ others) (g :: gs)

end

def IsMember (lenient : Bool) (levels : Nat) : Spelling Geometry := fun used g =>
  ∃ srid, IsGeometry lenient levels used g srid

/-! ## Items -/

theorem each_map {item : Spelling β} {f : α → β} {used : List UInt8} {as : List α} :
    Each item used (as.map f) ↔ Each (fun used a => item used (f a)) used as := by
  constructor
  · intro h
    induction as generalizing used with
    | nil => cases h; exact .nil
    | cons a as ih =>
      cases h with
      | cons hfirst hothers => exact .cons hfirst (ih hothers)
  · intro h
    induction h with
    | nil => exact .nil
    | cons hfirst _ ih => exact .cons hfirst ih

theorem Each.mono {item other : Spelling α} (himp : ∀ used a, item used a → other used a)
    {used : List UInt8} {as : List α} (h : Each item used as) : Each other used as := by
  induction h with
  | nil => exact .nil
  | cons hfirst _ ih => exact .cons (himp _ _ hfirst) ih

theorem Each.length_le {item : Spelling α} {size : Nat}
    (hsize : ∀ used a, item used a → size ≤ used.length) {used : List UInt8} {as : List α}
    (h : Each item used as) : as.length * size ≤ used.length := by
  induction h with
  | nil => simp
  | cons hfirst _ ih =>
    have hle := hsize _ _ hfirst
    rw [List.length_cons, List.length_append, Nat.add_mul, Nat.one_mul]
    omega

theorem isMembers_iff_each {lenient : Bool} {levels : Nat} {used : List UInt8}
    {gs : List Geometry} :
    IsMembers lenient levels used gs ↔ Each (IsMember lenient levels) used gs := by
  constructor
  · intro h
    induction gs generalizing used with
    | nil => cases h; exact .nil
    | cons g gs ih =>
      cases h with
      | cons hfirst hothers => exact .cons ⟨_, hfirst⟩ (ih hothers)
  · intro h
    induction h with
    | nil => exact .nil
    | cons hfirst _ ih =>
      obtain ⟨srid, hfirst⟩ := hfirst
      exact .cons hfirst ih

theorem IsGeometry.mono {lenient lenient' : Bool} (himp : lenient = true → lenient' = true)
    {levels : Nat} {used : List UInt8} {g : Geometry} {srid : Option Int32}
    (hg : IsGeometry lenient levels used g srid) : IsGeometry lenient' levels used g srid := by
  induction levels generalizing used g srid with
  | zero => cases hg
  | succ levels ih =>
    have hmembers {used : List UInt8} {gs : List Geometry}
        (h : IsMembers lenient levels used gs) : IsMembers lenient' levels used gs := by
      rw [isMembers_iff_each] at h ⊢
      exact h.mono fun used g hg => ⟨hg.choose, ih hg.choose_spec⟩
    obtain ⟨heading, hreserved, hbody⟩ := hg
    refine .intro heading (fun h => himp (hreserved h)) ?_
    cases hbody with
    | point hkind hp => exact .point hkind hp
    | lineString hkind hpath => exact .lineString hkind hpath
    | polygon hkind hrings => exact .polygon hkind hrings
    | multiPoint hkind hlt h => exact .multiPoint hkind hlt (hmembers h)
    | multiLineString hkind hlt h => exact .multiLineString hkind hlt (hmembers h)
    | multiPolygon hkind hlt h => exact .multiPolygon hkind hlt (hmembers h)
    | collection hkind hlt h => exact .collection hkind hlt (hmembers h)

end SpatialSql.Wkb
