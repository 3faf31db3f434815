import Mathlib.Control.Monad.Basic
import SpatialSql.Proofs.Geometry.Building
import SpatialSql.Wkb.Codec
/-!
# Encoding what was decoded

A decoded geometry is in its canonical form, can be counted, and is nested no deeper than its bytes
were.  It comes back from its own encoding as it is, whatever its bytes looked like.
-/

namespace SpatialSql

namespace Geometry

section Members

variable {gs : List Geometry}

theorem membersCanonical_eq_self (h : ∀ g ∈ gs, g.canonical = g) : membersCanonical gs = gs := by
  induction gs with
  | nil => rfl
  | cons g rest ih =>
    rw [List.forall_mem_cons] at h
    rw [membersCanonical, h.1, ih h.2]

theorem forall_memberLengths {P : Nat → Prop} (h : ∀ g ∈ gs, ∀ n ∈ g.lengths, P n) :
    ∀ n ∈ memberLengths gs, P n := by
  induction gs with
  | nil => nofun
  | cons g rest ih =>
    rw [List.forall_mem_cons] at h
    exact List.forall_mem_append.2 ⟨h.1, ih h.2⟩

theorem memberNesting_le {levels : Nat} (h : ∀ g ∈ gs, g.nesting < levels) :
    memberNesting gs ≤ levels := by
  induction gs with
  | nil => exact Nat.zero_le levels
  | cons g rest ih =>
    rw [List.forall_mem_cons] at h
    exact Nat.max_le.2 ⟨h.1, ih h.2⟩

end Members

end Geometry

namespace Wkb

/-! ## What the grammar derives -/

section

variable {h : Header} {used : List UInt8}

theorem IsCoordinate.canonical_eq {c : Coordinate} (hc : IsCoordinate h used c) :
    c.canonical = c := by
  obtain ⟨-, -, -, -⟩ := hc
  simp [Coordinate.canonical, Option.filter_filter]

theorem IsPoint.canonical_eq {p : Point} (hp : IsPoint h used p) : p.canonical = p := by
  cases hp with
  | empty _ _ => rfl
  | coordinate hc hnumber =>
    rw [Point.canonical, Coordinate.isBlank, hnumber, hc.canonical_eq]
    rfl

theorem Counted.length_lt {order : ByteOrder} {item : Spelling α} {as : List α}
    (has : Counted order item used as) : as.length < 2 ^ 32 := by
  obtain ⟨hlt, -⟩ := has
  exact hlt

theorem Counted.forall_mem {order : ByteOrder} {item : Spelling α} {P : α → Prop}
    (himp : ∀ used a, item used a → P a) {as : List α} (has : Counted order item used as) :
    ∀ a ∈ as, P a := by
  obtain ⟨-, heach⟩ := has
  exact heach.forall_mem himp

theorem IsPath.canonical_eq {path : Path} (hpath : IsPath h used path) : path.canonical = path :=
  map_eq_self (Counted.forall_mem (fun _ _ hc => hc.canonical_eq) hpath)

theorem IsPolygon.canonical_eq {rings : Polygon} (hrings : IsPolygon h used rings) :
    rings.canonical = rings :=
  map_eq_self (Counted.forall_mem (fun _ _ hring => hring.1.canonical_eq) hrings)

theorem IsPolygon.lengths_lt {rings : Polygon} (hrings : IsPolygon h used rings) :
    ∀ n ∈ Geometry.pathLengths rings, n < 2 ^ 32 := by
  refine List.forall_mem_cons.2 ⟨Counted.length_lt hrings, List.forall_mem_map.2 ?_⟩
  exact Counted.forall_mem (fun _ _ hring => Counted.length_lt hring.1) hrings

end

/-- A geometry that can be written as it is and read again with `levels` levels. -/
structure Fits (levels : Nat) (g : Geometry) : Prop where
  canonical : g.canonical = g
  countable : g.IsCountable
  nesting_lt : g.nesting < levels

theorem ite_isEmpty_lt {levels : Nat} {items : List α} (h : ∀ a ∈ items, 0 < levels) :
    (if items.isEmpty then 0 else 1) < levels + 1 := by
  cases items with
  | nil => exact Nat.succ_pos levels
  | cons a rest => exact Nat.succ_lt_succ (h a List.mem_cons_self)

theorem IsGeometry.fits {lenient : Bool} {levels : Nat} {used : List UInt8} {g : Geometry}
    {srid : Option Int32} (hg : IsGeometry lenient levels used g srid) : Fits levels g := by
  induction levels generalizing used g srid with
  | zero => cases hg
  | succ levels ih =>
    have hmembers {used : List UInt8} {gs : List Geometry}
        (h : IsMembers lenient levels used gs) : ∀ g ∈ gs, Fits levels g :=
      (isMembers_iff_each.1 h).forall_mem fun used g hg => ih hg.choose_spec
    have hparts {β : Type} {f : β → Geometry} {used : List UInt8} {items : List β}
        (h : IsMembers lenient levels used (items.map f)) : ∀ a ∈ items, Fits levels (f a) :=
      List.forall_mem_map.1 (hmembers h)
    obtain ⟨heading, -, hbody⟩ := hg
    cases hbody with
    | point _ hp =>
      exact ⟨congrArg Geometry.point hp.canonical_eq, nofun, Nat.succ_pos levels⟩
    | lineString _ hpath =>
      exact ⟨congrArg Geometry.lineString hpath.canonical_eq,
        List.forall_mem_singleton.2 (Counted.length_lt hpath), Nat.succ_pos levels⟩
    | polygon _ hrings =>
      exact ⟨congrArg Geometry.polygon hrings.canonical_eq, hrings.lengths_lt,
        Nat.succ_pos levels⟩
    | multiPoint _ hlt h =>
      have hpoints := hparts h
      refine ⟨congrArg Geometry.multiPoint (map_eq_self fun p hp => ?_),
        List.forall_mem_singleton.2 hlt, ite_isEmpty_lt fun p hp => (hpoints p hp).nesting_lt⟩
      exact Geometry.point.inj (hpoints p hp).canonical
    | multiLineString _ hlt h =>
      have hpaths := hparts h
      refine ⟨congrArg Geometry.multiLineString (map_eq_self fun path hpath => ?_),
        List.forall_mem_cons.2 ⟨hlt, List.forall_mem_map.2 fun path hpath => ?_⟩,
        ite_isEmpty_lt fun path hpath => (hpaths path hpath).nesting_lt⟩
      · exact Geometry.lineString.inj (hpaths path hpath).canonical
      · exact (hpaths path hpath).countable _ List.mem_cons_self
    | multiPolygon _ hlt h =>
      have hpolygons := hparts h
      refine ⟨congrArg Geometry.multiPolygon (map_eq_self fun rings hrings => ?_),
        List.forall_mem_cons.2 ⟨hlt, fun n hn => ?_⟩,
        ite_isEmpty_lt fun rings hrings => (hpolygons rings hrings).nesting_lt⟩
      · exact Geometry.polygon.inj (hpolygons rings hrings).canonical
      · obtain ⟨rings, hrings, hn⟩ := List.mem_flatMap.1 hn
        exact (hpolygons rings hrings).countable n hn
    | collection _ hlt h =>
      have hgs := hmembers h
      exact ⟨congrArg Geometry.collection
          (Geometry.membersCanonical_eq_self fun g hg => (hgs g hg).canonical),
        List.forall_mem_cons.2
          ⟨hlt, Geometry.forall_memberLengths fun g hg => (hgs g hg).countable⟩,
        Nat.lt_succ_of_le (Geometry.memberNesting_le fun g hg => (hgs g hg).nesting_lt)⟩

/-- What was decoded comes back from its encoding, with the reference system it is given then. -/
theorem decode_encode_decoded {bytes : List UInt8} {g : Geometry} {srid : Option Int32}
    (hdecode : decode bytes = .ok (g, srid)) (codec : Codec) (given : Option Int32) :
    decode (codec.encode g given).buffer = .ok (g, given) := by
  have hfits : Fits (maxDepth + 1) g := (decode_eq_ok_iff_isGeometry.1 hdecode).fits
  have hnesting : g.nesting ≤ maxDepth := Nat.le_of_lt_succ hfits.nesting_lt
  have hagain := decode_encode_of_le (hasRings_of_decode hdecode) hfits.countable codec.order given
    hnesting
  rw [hfits.canonical] at hagain
  exact hagain

/-- A big-endian collection with a reference system.  In it are a little-endian point in the
thousands of a measure, whose first ordinate is a NaN with a payload; a path with flags for all and
a reference system, in which one third ordinate and two others are NaN; and a point without
ordinates. -/
def wildBytes : List UInt8 :=
  [0, 0x20, 0, 0, 7, 0xff, 0xff, 0xff, 0xfe, 0, 0, 0, 3]
    ++ [1, 0xd1, 7, 0, 0, 1, 0, 0, 0, 0, 0, 0xf8, 0x7f, 0, 0, 0, 0, 0, 0, 0, 0x80,
      1, 2, 3, 4, 5, 6, 7, 8]
    ++ [0, 0xe0, 0, 0, 2, 0, 0, 0x10, 0xe6, 0, 0, 0, 2,
      0x3f, 0xf0, 0, 0, 0, 0, 0, 0, 0x3f, 0xf0, 0, 0, 0, 0, 0, 0,
      0x7f, 0xf8, 0, 0, 0, 0, 0, 0, 8, 7, 6, 5, 4, 3, 2, 1,
      0x7f, 0xf8, 0, 0, 0, 0, 0, 0, 0x7f, 0xf8, 0, 0, 0, 0, 0, 0,
      0x40, 8, 0, 0, 0, 0, 0, 0, 8, 7, 6, 5, 4, 3, 2, 1]
    ++ [1, 4, 0, 0, 0, 1, 0, 0, 0,
      0, 0, 0, 3, 0xe9, 0x7f, 0xf8, 0, 0, 0, 0, 0, 0, 0x7f, 0xf8, 0, 0, 0, 0, 0, 0,
      0x40, 8, 0, 0, 0, 0, 0, 0]

def wildGeometry : Geometry :=
  .collection [.point (some ⟨⟨0x7ff8000000000001⟩, ⟨0x8000000000000000⟩, none⟩),
    .lineString [⟨⟨0x3ff0000000000000⟩, ⟨0x3ff0000000000000⟩, none⟩,
      ⟨.nan, .nan, some ⟨0x4008000000000000⟩⟩],
    .multiPoint [none]]

theorem decode_encode_decoded_wild :
    decode wildBytes = .ok (wildGeometry, some (-2)) ∧
      decode ((Codec.ofOrder .littleEndian).encode wildGeometry none).buffer =
        .ok (wildGeometry, none) ∧
      decode ((Codec.ofOrder .bigEndian).encode wildGeometry (some (-1))).buffer =
        .ok (wildGeometry, some (-1)) := by
  have hdecode : decode wildBytes = .ok (wildGeometry, some (-2)) := by decide +kernel
  exact ⟨hdecode, decode_encode_decoded hdecode _ none,
    decode_encode_decoded hdecode _ (some (-1))⟩

end Wkb

end SpatialSql
