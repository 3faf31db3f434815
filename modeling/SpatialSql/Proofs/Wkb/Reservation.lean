import SpatialSql.Proofs.Wkb.Bodies
import SpatialSql.Proofs.Wkb.Counters
/-!
# Space that is reserved

Space is reserved for a count before the items behind it are seen.  The counts that are taken while
an input is read, up to where it ends or is refused, are never more than the bytes that are left
could hold.
-/

namespace SpatialSql.Wkb

/-- A count that is taken: so many items, the least size of one, and the bytes that are left. -/
structure Reservation where
  number : Nat
  size : Nat
  left : Nat
  deriving DecidableEq

/-- The bytes that are left, some of `total`, suffice for the items. -/
def Reservation.IsCovered (total : Nat) (r : Reservation) : Prop :=
  r.number * r.size ≤ r.left ∧ r.left ≤ total

/-- What is reserved while as many items are read, up to the first that is refused. -/
def repeatedReservations (behind : List UInt8 → List Reservation) (item : Nat → Reader α) :
    (index number : Nat) → List UInt8 → List Reservation
  | _, 0, _ => []
  | index, number + 1, bytes =>
    behind bytes ++
      match item index bytes with
      | .ok (_, rest) => repeatedReservations behind item (index + 1) number rest
      | .error _ => []

/-- What is reserved for a count and, as `behind` tells, in each of its items. -/
def countedReservations (order : ByteOrder) (size : Nat) (what : Item)
    (behind : List UInt8 → List Reservation) (item : Nat → Reader α) (bytes : List UInt8) :
    List Reservation :=
  match count order size what bytes with
  | .ok (number, rest) =>
    ⟨number, size, rest.length⟩ :: repeatedReservations behind item 0 number rest
  | .error _ => []

def pathReservations (h : Header) : List UInt8 → List Reservation :=
  countedReservations h.order (coordinateSize h) .coordinate (fun _ => []) fun _ => coordinate h

def polygonReservations (h : Header) : List UInt8 → List Reservation :=
  countedReservations h.order 4 .ring (pathReservations h) (ring h)

def memberReservations (h : Header) (behind : List UInt8 → List Reservation)
    (member : Reader Geometry) (accept : Geometry → Option α) : List UInt8 → List Reservation :=
  countedReservations h.order leastMemberSize .member behind fun _ => accepted h member accept

def bodyReservations (h : Header) (behind : List UInt8 → List Reservation)
    (member : Reader Geometry) : List UInt8 → List Reservation :=
  match h.kind with
  | .lineString => pathReservations h
  | .polygon => polygonReservations h
  | .multiPoint => memberReservations h behind member point?
  | .multiLineString => memberReservations h behind member path?
  | .multiPolygon => memberReservations h behind member polygon?
  | .collection => memberReservations h behind member some
  | .point | .generic => fun _ => []

/-- What is reserved in reading a geometry of at most `levels` levels, in the order of reading,
whether it is accepted in the end or not. -/
def reservations : (levels : Nat) → List UInt8 → List Reservation
  | 0, _ => []
  | levels + 1, bytes =>
    match header bytes with
    | .ok (h, rest) =>
      bodyReservations h (reservations levels) (withoutSrid (geometry levels)) rest
    | .error _ => []

def IsCovered (behind : List UInt8 → List Reservation) : Prop :=
  ∀ bytes, ∀ r ∈ behind bytes, r.IsCovered bytes.length

theorem isCovered_nil : IsCovered fun _ => [] :=
  fun _ _ hr => nomatch hr

theorem IsCovered.of_le {behind : List UInt8 → List Reservation} (h : IsCovered behind)
    {bytes rest : List UInt8} (hle : rest.length ≤ bytes.length) :
    ∀ r ∈ behind rest, r.IsCovered bytes.length :=
  fun r hr => ⟨(h rest r hr).1, Nat.le_trans (h rest r hr).2 hle⟩

theorem Accepts.size_le {reader : Reader α} {spelling : Spelling α}
    (haccepts : Accepts reader spelling) {size : Nat}
    (hsize : ∀ used a, spelling used a → size ≤ used.length) {bytes rest : List UInt8} {a : α}
    (hread : reader bytes = .ok (a, rest)) : size + rest.length ≤ bytes.length := by
  obtain ⟨used, hused, rfl⟩ := haccepts.sound hread
  have hle := hsize used a hused
  rw [List.length_append]
  omega

theorem Accepts.length_le {reader : Reader α} {spelling : Spelling α}
    (haccepts : Accepts reader spelling) {bytes rest : List UInt8} {a : α}
    (hread : reader bytes = .ok (a, rest)) : rest.length ≤ bytes.length := by
  have hle := haccepts.size_le (fun _ _ _ => Nat.zero_le _) hread
  omega

section Covered

variable {behind : List UInt8 → List Reservation} (hbehind : IsCovered behind)

include hbehind

section Items

variable {item : Nat → Reader α} {spelling : Spelling α}
  (haccepts : ∀ index, Accepts (item index) spelling)

include haccepts

theorem isCovered_repeated (index number : Nat) :
    IsCovered (repeatedReservations behind item index number) := by
  induction number generalizing index with
  | zero => nofun
  | succ number ih =>
    intro bytes
    rw [repeatedReservations]
    refine List.forall_mem_append.2 ⟨hbehind bytes, ?_⟩
    cases hread : item index bytes with
    | error fault => nofun
    | ok x => exact (ih (index + 1)).of_le ((haccepts index).length_le hread)

theorem isCovered_counted (order : ByteOrder) (size : Nat) (what : Item) :
    IsCovered (countedReservations order size what behind item) := by
  intro bytes
  rw [countedReservations]
  cases hcount : count order size what bytes with
  | error fault => nofun
  | ok x =>
    obtain ⟨hword, hroom⟩ := count_eq_ok_iff.1 hcount
    have hle : x.2.length ≤ bytes.length := (accepts_word order 4 what).length_le hword
    exact List.forall_mem_cons.2
      ⟨⟨hroom, hle⟩, (isCovered_repeated hbehind haccepts 0 x.1).of_le hle⟩

end Items

theorem isCovered_members (h : Header) {member : Reader Geometry} {spelling : Spelling Geometry}
    (hmember : Accepts member spelling) {accept : Geometry → Option α} {f : α → Geometry}
    (haccept : ∀ g a, accept g = some a ↔ g = f a) :
    IsCovered (memberReservations h behind member accept) :=
  isCovered_counted hbehind (fun _ => accepts_accepted hmember haccept) h.order leastMemberSize
    .member

end Covered

theorem isCovered_path (h : Header) : IsCovered (pathReservations h) :=
  isCovered_counted isCovered_nil (fun _ => accepts_coordinate h) h.order (coordinateSize h)
    .coordinate

theorem isCovered_polygon (h : Header) : IsCovered (polygonReservations h) :=
  isCovered_counted (isCovered_path h) (accepts_ring h) h.order 4 .ring

theorem isCovered_body (h : Header) {behind : List UInt8 → List Reservation}
    (hbehind : IsCovered behind) {member : Reader Geometry} {spelling : Spelling Geometry}
    (hmember : Accepts member spelling) : IsCovered (bodyReservations h behind member) := by
  unfold bodyReservations
  cases h.kind with
  | point | generic => exact isCovered_nil
  | lineString => exact isCovered_path h
  | polygon => exact isCovered_polygon h
  | multiPoint => exact isCovered_members hbehind h hmember point?_eq_some_iff
  | multiLineString => exact isCovered_members hbehind h hmember path?_eq_some_iff
  | multiPolygon => exact isCovered_members hbehind h hmember polygon?_eq_some_iff
  | collection =>
    have hsome (g g' : Geometry) : some g = some g' ↔ g = id g' := by simp
    exact isCovered_members hbehind h hmember hsome

theorem isCovered_reservations (levels : Nat) : IsCovered (reservations levels) := by
  induction levels with
  | zero => exact isCovered_nil
  | succ levels ih =>
    intro bytes
    rw [reservations]
    cases hheader : header bytes with
    | error fault => nofun
    | ok x =>
      have hbody := isCovered_body x.1 ih (accepts_withoutSrid (accepts_geometry levels))
      exact hbody.of_le (accepts_header.length_le hheader)

def decodedReservations (bytes : List UInt8) : List Reservation := reservations (maxDepth + 1) bytes

end SpatialSql.Wkb
