import Mathlib.Algebra.BigOperators.Group.List.Basic
import Mathlib.Algebra.Ring.Nat
import Mathlib.Data.Nat.Cast.Basic
import Mathlib.Tactic.ByContra
import SpatialSql.Proofs.Wkb.Decoding
/-!
# Type codes that are not known

Every geometry on the wire has a type code of its own.  A code that is not put together from a
concrete kind, thousands and flags ends the reading wherever it is met, with a fault that names it.
One bit has no meaning and decides nothing: a code says the same with it and without it.
-/

namespace SpatialSql.Geometry

mutual

/-- The headers that a geometry takes on the wire: its own, and those of its members. -/
def headers : Geometry → Nat
  | .point _ | .lineString _ | .linearRing _ | .polygon _ => 1
  | .multiPoint points => points.length + 1
  | .multiLineString paths => paths.length + 1
  | .multiPolygon polygons => polygons.length + 1
  | .collection members => memberHeaders members + 1
termination_by structural g => g

def memberHeaders : List Geometry → Nat
  | [] => 0
  | g :: rest => g.headers + memberHeaders rest
termination_by structural gs => gs

end

end SpatialSql.Geometry

namespace SpatialSql.Wkb

/-- A code that is put together from a concrete kind, thousands and flags; the bit that has no
meaning may be set. -/
def IsTypeCode (code : Nat) : Prop := ∃ heading : Heading, heading.code = code

theorem isTypeCode_iff {code : Nat} (hlt : code < 256 ^ 4) :
    IsTypeCode code ↔ (TypeCode.ofNat? code).isSome = true := by
  constructor
  · rintro ⟨heading, rfl⟩
    rw [heading.ofNat?_code]
    rfl
  · intro h
    obtain ⟨type, htype⟩ := Option.isSome_iff_exists.1 h
    have hsrid : (if type.hasSrid then some (0 : Int32) else none).isSome = type.hasSrid := by
      cases type.hasSrid <;> rfl
    obtain ⟨heading, hcode, -⟩ := Heading.exists_of_ofNat? .littleEndian hlt htype hsrid
    exact ⟨heading, hcode⟩

theorem ofNat?_code_reserved (heading : Heading) (reserved : Bool) :
    TypeCode.ofNat? { heading with reserved }.code = TypeCode.ofNat? heading.code := by
  rw [Heading.ofNat?_code, Heading.ofNat?_code]
  rfl

/-! ## Where a reading ends

A fault that a code brings about in a member is that of all readers around it. -/

section Ends

variable {code : Nat} {fault : Fault} {codes : List UInt8 → List Nat}

theorem repeated_eq_error {item : Reader α}
    (hitem : ∀ bytes, code ∈ codes bytes → item bytes = .error fault) {number : Nat}
    {bytes : List UInt8} (hmet : code ∈ repeatedCodes codes item number bytes) (index : Nat) :
    repeated (fun _ => item) index number bytes = .error fault := by
  induction number generalizing bytes index with
  | zero => cases hmet
  | succ number ih =>
    rw [repeatedCodes, List.mem_append] at hmet
    rw [repeated]
    rcases hmet with hfirst | hothers
    · rw [hitem bytes hfirst, error_bind]
    · cases hread : item bytes with
      | error other =>
        rw [hread] at hothers
        cases hothers
      | ok x =>
        rw [hread] at hothers
        simp only [ok_bind, ih hothers (index + 1), error_bind]

variable {h : Header} {member : Reader Geometry}
  (hmember : ∀ bytes, code ∈ codes bytes → member bytes = .error fault)

include hmember

theorem members_eq_error_of_mem {accept : Geometry → Option α} {bytes : List UInt8}
    (hmet : code ∈ memberCodes h codes (accepted h member accept) bytes) :
    members h member accept bytes = .error fault := by
  have hitem (bytes : List UInt8) (hcode : code ∈ codes bytes) :
      accepted h member accept bytes = .error fault := by
    rw [accepted, hmember bytes hcode, error_bind]
  rw [memberCodes] at hmet
  rw [members]
  cases hcount : count h.order leastMemberSize .member bytes with
  | error other =>
    rw [hcount] at hmet
    cases hmet
  | ok x =>
    rw [hcount] at hmet
    exact repeated_eq_error hitem hmet 0

theorem body_eq_error {bytes : List UInt8} (hmet : code ∈ bodyCodes h codes member bytes) :
    body h member bytes = .error fault := by
  unfold bodyCodes at hmet
  unfold body
  cases hkind : h.kind with
  | point | lineString | polygon | generic =>
    rw [hkind] at hmet
    cases hmet
  | multiPoint | multiLineString | multiPolygon | collection =>
    rw [hkind] at hmet
    simp only [build, members_eq_error_of_mem hmember hmet, error_bind]

end Ends

theorem geometry_eq_error {code : Nat} (hunknown : ¬ IsTypeCode code) {levels : Nat}
    {bytes : List UInt8} (hmet : code ∈ headerCodes levels bytes) :
    geometry levels bytes = .error (.unknownTypeCode code) := by
  induction levels generalizing bytes with
  | zero => cases hmet
  | succ levels ih =>
    have hmember (bytes : List UInt8) (hcode : code ∈ headerCodes levels bytes) :
        withoutSrid (geometry levels) bytes = .error (.unknownTypeCode code) := by
      rw [withoutSrid, ih hcode, error_bind]
    rw [headerCodes] at hmet
    split at hmet
    · cases hmet
    · rename_i order rest horder
      split at hmet
      · cases hmet
      · rename_i own rest' hword
        rw [geometry]
        rcases List.mem_cons.1 hmet with rfl | hmet
        · -- its own code is the unknown one
          obtain ⟨_, ⟨hlt, -⟩, -⟩ := (accepts_word order 4 .typeCode).sound hword
          have htype : TypeCode.ofNat? code = none := by
            rwa [isTypeCode_iff hlt, Option.not_isSome_iff_eq_none] at hunknown
          have hheader : header bytes = .error (.unknownTypeCode code) := by
            simp only [header, horder, hword, ok_bind, htype]
            rfl
          rw [hheader, error_bind]
        · cases hheader : header bytes with
          | error other =>
            rw [hheader] at hmet
            cases hmet
          | ok x =>
            rw [hheader] at hmet
            simp only [ok_bind, body_eq_error hmember hmet, error_bind]

/-! ## The codes of what is accepted -/

open SpatialSql.Geometry (memberHeaders)

theorem memberHeaders_eq_sum (gs : List Geometry) :
    memberHeaders gs = (gs.map Geometry.headers).sum := by
  induction gs with
  | nil => rfl
  | cons g rest ih => rw [memberHeaders, ih, List.map_cons, List.sum_cons]

theorem Each.length_repeatedCodes {codes : List UInt8 → List Nat} {item : Reader α}
    {spelling : Spelling α} (hitem : Accepts item spelling) {size : α → Nat}
    (hsize : ∀ used a rest, spelling used a → (codes (used ++ rest)).length = size a)
    {used : List UInt8} {as : List α} (heach : Each spelling used as) (rest : List UInt8) :
    (repeatedCodes codes item as.length (used ++ rest)).length = (as.map size).sum := by
  induction heach with
  | nil => rfl
  | @cons first others a as hfirst _ ih =>
    rw [List.append_assoc, List.length_cons, repeatedCodes, hitem.complete _ hfirst,
      List.length_append, hsize first a (others ++ rest) hfirst, List.map_cons, List.sum_cons]
    exact congrArg (size a + ·) ih

theorem IsMembers.length_memberCodes {levels : Nat} {h : Header} {accept : Geometry → Option α}
    {f : α → Geometry} (haccept : ∀ g a, accept g = some a ↔ g = f a)
    (ih : ∀ used g rest, IsMember true levels used g →
      (headerCodes levels (used ++ rest)).length = g.headers)
    {used : List UInt8} {as : List α} (hlt : as.length < 2 ^ 32)
    (hmembers : IsMembers true levels used (as.map f)) (rest : List UInt8) :
    (memberCodes h (headerCodes levels) (accepted h (withoutSrid (geometry levels)) accept)
      (h.order.encode as.length 4 ++ (used ++ rest))).length =
        memberHeaders (as.map f) := by
  have heach := each_map.1 (isMembers_iff_each.1 hmembers)
  have hroom : as.length * leastMemberSize ≤ (used ++ rest).length := by
    have hle := hmembers.room
    rw [List.length_map] at hle
    rw [List.length_append]
    omega
  have hitem := accepts_accepted (h := h) (accepts_withoutSrid (accepts_geometry levels)) haccept
  simp only [memberCodes, count_eq_ok h.order .member hlt hroom]
  rw [heach.length_repeatedCodes hitem (fun used a rest => ih used (f a) rest) rest,
    memberHeaders_eq_sum, List.map_map]
  rfl

theorem IsGeometry.length_headerCodes {levels : Nat} {used : List UInt8} {g : Geometry}
    {srid : Option Int32} (hg : IsGeometry true levels used g srid) (rest : List UInt8) :
    (headerCodes levels (used ++ rest)).length = g.headers := by
  induction levels generalizing used g srid rest with
  | zero => cases hg
  | succ levels ih =>
    have hmember (used : List UInt8) (g : Geometry) (rest : List UInt8)
        (hg : IsMember true levels used g) :
        (headerCodes levels (used ++ rest)).length = g.headers :=
      ih hg.choose_spec rest
    obtain @⟨_, used, _, heading, _, hbody⟩ := hg
    rw [List.append_assoc, headerCodes_heading, List.length_cons]
    cases hbody with
    | point hkind _ | lineString hkind _ | polygon hkind _ =>
      simp only [bodyCodes, hkind]
      rfl
    | multiPoint hkind hlt hpoints =>
      simp only [bodyCodes, hkind, List.append_assoc]
      rw [hpoints.length_memberCodes point?_eq_some_iff hmember hlt, memberHeaders_eq_sum]
      simp [Geometry.headers, Function.comp_def]
    | multiLineString hkind hlt hpaths =>
      simp only [bodyCodes, hkind, List.append_assoc]
      rw [hpaths.length_memberCodes path?_eq_some_iff hmember hlt, memberHeaders_eq_sum]
      simp [Geometry.headers, Function.comp_def]
    | multiPolygon hkind hlt hpolygons =>
      simp only [bodyCodes, hkind, List.append_assoc]
      rw [hpolygons.length_memberCodes polygon?_eq_some_iff hmember hlt, memberHeaders_eq_sum]
      simp [Geometry.headers, Function.comp_def]
    | @collection _ _ _ gs hkind hlt hgs =>
      simp only [bodyCodes, hkind, List.append_assoc]
      have hsome (g g' : Geometry) : some g = some g' ↔ g = id g' := by simp
      rw [← List.map_id gs] at hgs
      rw [hgs.length_memberCodes hsome hmember hlt, List.map_id]
      rfl

/-- Every geometry in what is accepted has a known type code, and whatever has another one is
refused for it; the bit that has no meaning is no reason to refuse. -/
theorem decode_refuses_unknown_codes (bytes : List UInt8) :
    (∀ g srid, decode bytes = .ok (g, srid) →
      (decodedCodes bytes).length = g.headers ∧ ∀ code ∈ decodedCodes bytes, IsTypeCode code) ∧
    (∀ code ∈ decodedCodes bytes, ¬ IsTypeCode code →
      decode bytes = .error (.unknownTypeCode code) ∧
        Fault.toFailure bytes.length (.unknownTypeCode code) = .malformedWireFormat
          ("unknown geometry type code 0x" ++ String.ofList (Nat.toDigits 16 code))) ∧
    ∀ (heading : Heading) (reserved : Bool),
      TypeCode.ofNat? { heading with reserved }.code = TypeCode.ofNat? heading.code := by
  have hrefused (code : Nat) (hmet : code ∈ decodedCodes bytes) (hunknown : ¬ IsTypeCode code) :
      decode bytes = .error (.unknownTypeCode code) := by
    rw [decode, geometry_eq_error hunknown hmet, error_bind]
  refine ⟨fun g srid hdecode => ⟨?_, ?_⟩, fun code hmet hunknown => ⟨?_, rfl⟩, ?_⟩
  · have hlength := (decode_eq_ok_iff_isGeometry.1 hdecode).length_headerCodes []
    rwa [List.append_nil] at hlength
  · intro code hmet
    by_contra hunknown
    rw [hrefused code hmet hunknown] at hdecode
    cases hdecode
  · exact hrefused code hmet hunknown
  · exact ofNat?_code_reserved

/-- A collection with a reference system around a big-endian point with a measure, which is both
flagged and in the thousands.  Both headers have the bit that has no meaning. -/
def reservedBytes : List UInt8 :=
  [1, 7, 0, 0, 0x30, 0xfe, 0xff, 0xff, 0xff, 1, 0, 0, 0,
    0, 0x50, 0, 7, 0xd1, 0x3f, 0xf0, 0, 0, 0, 0, 0, 0, 0x80, 0, 0, 0, 0, 0, 0, 0,
    1, 2, 3, 4, 5, 6, 7, 8]

def reservedGeometry : Geometry :=
  .collection [.point (some ⟨⟨0x3ff0000000000000⟩, ⟨0x8000000000000000⟩, none⟩)]

def strangeBytes : List UInt8 :=
  [1, 7, 0, 0, 0, 1, 0, 0, 0,
    0, 0, 0, 0, 7, 0, 0, 0, 2,
    1, 2, 0, 0, 0, 0, 0, 0, 0,
    1, 0xa8, 0x0f, 0, 0xe0, 0, 0, 0, 0]

theorem decode_refuses_unknown_codes_nested :
    (decode reservedBytes = .ok (reservedGeometry, some (-2)) ∧
      decodedCodes reservedBytes = [0x30000007, 0x500007d1] ∧
      ∀ code ∈ decodedCodes reservedBytes, IsTypeCode code) ∧
    (0xe0000fa8 ∈ decodedCodes strangeBytes ∧ ¬ IsTypeCode 0xe0000fa8 ∧
      decode strangeBytes = .error (.unknownTypeCode 0xe0000fa8)) := by
  have hdecode : decode reservedBytes = .ok (reservedGeometry, some (-2)) := rfl
  have hmet : 0xe0000fa8 ∈ decodedCodes strangeBytes := by decide +kernel
  have hunknown : ¬ IsTypeCode 0xe0000fa8 := by
    rw [isTypeCode_iff (by decide)]
    decide
  refine ⟨⟨hdecode, by decide +kernel, ?_⟩, hmet, hunknown, ?_⟩
  · exact ((decode_refuses_unknown_codes reservedBytes).1 _ _ hdecode).2
  · exact ((decode_refuses_unknown_codes strangeBytes).2.1 _ hmet hunknown).1

def reservedPoint : List UInt8 := [1, 1, 0, 0, 0x10] ++ List.replicate 16 0

/-- A code with that bit is none of a kind, thousands and the three flags, and is accepted. -/
theorem not_every_unknown_code_is_refused :
    ¬ ∀ bytes g srid, decode bytes = .ok (g, srid) → ∀ code ∈ decodedCodes bytes,
      ∃ heading : Heading, heading.reserved = false ∧ heading.code = code := by
  intro h
  have hdecode : decode reservedPoint = .ok (.point (some ⟨.zero, .zero, none⟩), none) := rfl
  obtain ⟨heading, hreserved, hcode⟩ := h _ _ _ hdecode 0x10000001 (by decide +kernel)
  have hbit := heading.reserved_eq
  rw [hreserved, hcode] at hbit
  exact absurd hbit (by decide)

end SpatialSql.Wkb
