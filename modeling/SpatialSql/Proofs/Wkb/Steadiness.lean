import SpatialSql.Proofs.Wkb.Counters
/-!
# Steady readers

A reader sees nothing of the bytes behind what it takes.  More of them change neither what it reads
nor that it refuses, unless what it lacked was bytes.  Which faults are for a lack is left open: it
depends on the counter, and with the check of counts a count may be one.
-/

namespace SpatialSql.Wkb

/-- A reader that keeps to what it says when bytes are put behind; only a refusal for what is
lacking may be taken back. -/
structure Steady (lack : Fault → Prop) (reader : Reader α) : Prop where
  ok : ∀ {bytes rest : List UInt8} {a : α} (more : List UInt8), reader bytes = .ok (a, rest) →
    reader (bytes ++ more) = .ok (a, rest ++ more)
  error : ∀ {bytes : List UInt8} {fault : Fault} (more : List UInt8),
    reader bytes = .error fault → ¬ lack fault →
      ∃ fault', reader (bytes ++ more) = .error fault'

section Steady

variable {lack : Fault → Prop}

theorem steady_ok (a : α) : Steady lack fun bytes => .ok (a, bytes) where
  ok := by
    intro bytes rest a more hread
    cases hread
    rfl
  error := nofun

theorem steady_error (fault : Fault) : Steady lack fun _ => (.error fault : Except Fault (α × _))
    where
  ok := nofun
  error := fun _ _ _ => ⟨fault, rfl⟩

theorem Steady.andThen {reader : Reader α} {k : α → Reader β} (h : Steady lack reader)
    (hk : ∀ a, Steady lack (k a)) :
    Steady lack fun bytes => reader bytes >>= fun x => k x.1 x.2 where
  ok := by
    intro bytes rest b more hread
    obtain ⟨⟨a, rest'⟩, ha, hb⟩ := bind_eq_ok.1 hread
    rw [h.ok more ha, ok_bind]
    exact (hk a).ok more hb
  error := by
    intro bytes fault more hread hlack
    cases hfirst : reader bytes with
    | ok x =>
      rw [hfirst] at hread
      rw [h.ok more hfirst, ok_bind]
      exact (hk x.1).error more hread hlack
    | error first =>
      rw [hfirst] at hread
      cases hread
      obtain ⟨fault', hmore⟩ := h.error more hfirst hlack
      exact ⟨fault', by rw [hmore, error_bind]⟩

theorem Steady.repeated {item : Nat → Reader α} (hitem : ∀ index, Steady lack (item index))
    (index number : Nat) : Steady lack (repeated item index number) := by
  induction number generalizing index with
  | zero => exact steady_ok []
  | succ number ih =>
    exact (hitem index).andThen fun first => (ih (index + 1)).andThen fun others =>
      steady_ok (first :: others)

theorem Steady.build {reader : Reader α} (h : Steady lack reader) (f : α → Geometry) :
    Steady lack (build f reader) :=
  h.andThen fun a => steady_ok (f a)

theorem Steady.withoutSrid {reader : Reader (Geometry × Option Int32)} (h : Steady lack reader) :
    Steady lack (withoutSrid reader) :=
  h.andThen fun x => steady_ok x.1

theorem Steady.accepted {member : Reader Geometry} (hmember : Steady lack member) (h : Header)
    (accept : Geometry → Option α) : Steady lack (accepted h member accept) := by
  refine hmember.andThen (k := asMember h accept) fun g => ?_
  unfold asMember
  cases accept g with
  | some a => exact steady_ok a
  | none => exact steady_error _

/-! Words are where bytes may be lacking. -/

variable (hend : ∀ item, lack (.endOfInput item))

include hend

theorem steady_word (order : ByteOrder) (width : Nat) (item : Item) :
    Steady lack (word order width item) where
  ok := by
    intro bytes rest value more hread
    unfold word at hread ⊢
    by_cases hshort : (bytes.take width).length < width
    · rw [if_pos hshort] at hread
      cases hread
    · rw [if_neg hshort] at hread
      cases hread
      have hwidth : width ≤ bytes.length := by
        rw [List.length_take] at hshort
        omega
      rw [List.take_append_of_le_length hwidth, if_neg hshort,
        List.drop_append_of_le_length hwidth]
  error := by
    intro bytes fault more hread hlack
    unfold word at hread
    by_cases hshort : (bytes.take width).length < width
    · rw [if_pos hshort] at hread
      cases hread
      exact absurd (hend item) hlack
    · rw [if_neg hshort] at hread
      cases hread

theorem steady_byteOrder : Steady lack byteOrder where
  ok := by
    intro bytes rest order more hread
    cases bytes with
    | nil => cases hread
    | cons marker bytes =>
      rw [byteOrder] at hread
      rw [List.cons_append, byteOrder]
      cases horder : ByteOrder.ofMarker? marker with
      | none =>
        rw [horder] at hread
        cases hread
      | some order =>
        rw [horder] at hread
        cases hread
        rfl
  error := by
    intro bytes fault more hread hlack
    cases bytes with
    | nil =>
      cases hread
      exact absurd (hend .byteOrder) hlack
    | cons marker bytes =>
      rw [byteOrder] at hread
      rw [List.cons_append, byteOrder]
      cases horder : ByteOrder.ofMarker? marker with
      | none => exact ⟨_, rfl⟩
      | some order =>
        rw [horder] at hread
        cases hread

theorem steady_srid (order : ByteOrder) (hasSrid : Bool) : Steady lack (srid order hasSrid) := by
  cases hasSrid with
  | false => exact steady_ok none
  | true =>
    exact (steady_word hend order 4 .srid).andThen fun value =>
      steady_ok (some (UInt32.ofNat value).toInt32)

theorem steady_header : Steady lack header := by
  refine (steady_byteOrder hend).andThen fun order =>
    (steady_word hend order 4 .typeCode).andThen (k := ofTypeCode order) fun code => ?_
  unfold ofTypeCode
  cases TypeCode.ofNat? code with
  | none => exact steady_error _
  | some type =>
    exact (steady_srid hend order type.hasSrid).andThen fun srid =>
      steady_ok (⟨order, type.kind, type.z, type.m, srid⟩ : Header)

theorem steady_ordinate (h : Header) : Steady lack (ordinate h) :=
  (steady_word hend h.order 8 .ordinate).andThen fun bits =>
    steady_ok (⟨UInt64.ofNat bits⟩ : Binary64)

theorem steady_optionalOrdinate (h : Header) (present : Bool) :
    Steady lack (optionalOrdinate h present) := by
  cases present with
  | false => exact steady_ok none
  | true => exact (steady_ordinate hend h).andThen fun x => steady_ok (some x)

theorem steady_coordinate (h : Header) : Steady lack (coordinate h) :=
  (steady_ordinate hend h).andThen fun x => (steady_ordinate hend h).andThen fun y =>
    (steady_optionalOrdinate hend h h.z).andThen fun z =>
      (steady_optionalOrdinate hend h h.m).andThen fun _ =>
        steady_ok (⟨x, y, z.filter fun z => !z.isNaN⟩ : Coordinate)

theorem steady_point (h : Header) : Steady lack (point h) :=
  (steady_coordinate hend h).andThen fun c =>
    steady_ok (if c.x.isNaN && c.y.isNaN then none else some c)

end Steady

/-! A reader of counted items is as steady as its counter. -/

section Counted

variable {lack : Fault → Prop} {counter : Counter}
  (hcounter : ∀ order size what, Steady lack (counter order size what))

include hcounter

theorem steady_countedBy (order : ByteOrder) (size : Nat) (what : Item) {item : Nat → Reader α}
    (hitem : ∀ index, Steady lack (item index)) :
    Steady lack (countedBy counter order size what item) :=
  (hcounter order size what).andThen fun number => Steady.repeated hitem 0 number

theorem steady_membersBy (h : Header) {member : Reader Geometry} (hmember : Steady lack member)
    (accept : Geometry → Option α) : Steady lack (membersBy counter h member accept) :=
  steady_countedBy hcounter h.order leastMemberSize .member fun _ => hmember.accepted h accept

variable (hend : ∀ item, lack (.endOfInput item))

include hend

theorem steady_pathBy (h : Header) : Steady lack (pathBy counter h) :=
  steady_countedBy hcounter h.order (coordinateSize h) .coordinate fun _ =>
    steady_coordinate hend h

theorem steady_ringBy (h : Header) (index : Nat) : Steady lack (ringBy counter h index) := by
  refine (steady_pathBy hcounter hend h).andThen (k := asRing index) fun path => ?_
  unfold asRing
  cases path.ring with
  | ok ring => exact steady_ok ring
  | error fault => exact steady_error _

theorem steady_polygonBy (h : Header) : Steady lack (polygonBy counter h) :=
  steady_countedBy hcounter h.order 4 .ring (steady_ringBy hcounter hend h)

theorem steady_bodyBy (h : Header) {member : Reader Geometry} (hmember : Steady lack member) :
    Steady lack (bodyBy counter h member) := by
  unfold bodyBy
  cases h.kind with
  | point => exact (steady_point hend h).build .point
  | lineString => exact (steady_pathBy hcounter hend h).build .lineString
  | polygon => exact (steady_polygonBy hcounter hend h).build .polygon
  | multiPoint => exact (steady_membersBy hcounter h hmember point?).build .multiPoint
  | multiLineString => exact (steady_membersBy hcounter h hmember path?).build .multiLineString
  | multiPolygon => exact (steady_membersBy hcounter h hmember polygon?).build .multiPolygon
  | collection => exact (steady_membersBy hcounter h hmember some).build .collection
  | generic => exact steady_error _

theorem steady_geometryBy (levels : Nat) : Steady lack (geometryBy counter levels) := by
  induction levels with
  | zero => exact steady_error .tooDeep
  | succ levels ih =>
    exact (steady_header hend).andThen fun h =>
      (steady_bodyBy hcounter hend h ih.withoutSrid).andThen fun g => steady_ok (g, h.srid)

end Counted

end SpatialSql.Wkb
