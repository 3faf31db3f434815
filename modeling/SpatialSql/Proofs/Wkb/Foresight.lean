import Mathlib.Tactic.ByContra
import SpatialSql.Proofs.Wkb.Bodies
import SpatialSql.Proofs.Wkb.Steadiness
/-!
# Reading without the check of counts

Holding a count against the bytes that are left refuses nothing that could be read: the items would
take more than there is.  Reader by reader, what is read without the check is what is read with it.
-/

namespace SpatialSql.Wkb

/-! ## Readers with the check and without it -/

def Fault.IsCount (fault : Fault) : Prop :=
  ∃ item number needed left, fault = .countTooLarge item number needed left ∧ left < needed

/-- A reader that reads what another one reads.  It refuses for the same reason, or for a count. -/
structure Foresees (reader free : Reader α) : Prop where
  ok_iff : ∀ {bytes rest : List UInt8} {a : α},
    reader bytes = .ok (a, rest) ↔ free bytes = .ok (a, rest)
  error : ∀ {bytes : List UInt8} {fault : Fault}, reader bytes = .error fault →
    free bytes = .error fault ∨ fault.IsCount

theorem Foresees.refl (reader : Reader α) : Foresees reader reader where
  ok_iff := Iff.rfl
  error := .inl

theorem Foresees.andThen {reader free : Reader α} {k k' : α → Reader β}
    (h : Foresees reader free) (hk : ∀ a, Foresees (k a) (k' a)) :
    Foresees (fun bytes => reader bytes >>= fun x => k x.1 x.2)
      fun bytes => free bytes >>= fun x => k' x.1 x.2 where
  ok_iff := by
    intro bytes rest b
    rw [bind_eq_ok, bind_eq_ok]
    constructor
    · rintro ⟨⟨a, left⟩, ha, hb⟩
      exact ⟨(a, left), h.ok_iff.1 ha, (hk a).ok_iff.1 hb⟩
    · rintro ⟨⟨a, left⟩, ha, hb⟩
      exact ⟨(a, left), h.ok_iff.2 ha, (hk a).ok_iff.2 hb⟩
  error := by
    intro bytes fault hread
    cases hfirst : reader bytes with
    | ok x =>
      rw [hfirst, ok_bind] at hread
      rw [h.ok_iff.1 hfirst, ok_bind]
      exact (hk x.1).error hread
    | error first =>
      rw [hfirst, error_bind] at hread
      cases hread
      obtain hfree | hcount := h.error hfirst
      · exact .inl (by rw [hfree, error_bind])
      · exact .inr hcount

theorem Foresees.build {reader free : Reader α} (h : Foresees reader free) (f : α → Geometry) :
    Foresees (build f reader) (build f free) :=
  h.andThen fun a => .refl fun rest => .ok (f a, rest)

theorem Foresees.withoutSrid {reader free : Reader (Geometry × Option Int32)}
    (h : Foresees reader free) : Foresees (withoutSrid reader) (withoutSrid free) :=
  h.andThen fun x => .refl fun rest => .ok (x.1, rest)

theorem Foresees.accepted {member free : Reader Geometry} (hmember : Foresees member free)
    (h : Header) (accept : Geometry → Option α) :
    Foresees (accepted h member accept) (accepted h free accept) :=
  hmember.andThen fun g => .refl (asMember h accept g)

section Counted

variable {item free : Nat → Reader α} (hitem : ∀ index, Foresees (item index) (free index))

include hitem

theorem Foresees.repeated (index number : Nat) :
    Foresees (repeated item index number) (repeated free index number) := by
  induction number generalizing index with
  | zero => exact .refl _
  | succ number ih =>
    exact (hitem index).andThen fun first => (ih (index + 1)).andThen fun others =>
      .refl fun rest => .ok (first :: others, rest)

/-- The check foresees that as many items of the least size could not be read. -/
theorem Foresees.countedBy (order : ByteOrder) {size : Nat} (what : Item) {spelling : Spelling α}
    (haccepts : ∀ index, Accepts (item index) spelling)
    (hsize : ∀ used a, spelling used a → size ≤ used.length) :
    Foresees (countedBy count order size what item) (countedBy declared order size what free) where
  ok_iff := by
    intro bytes rest as
    rw [Wkb.countedBy, Wkb.countedBy, bind_eq_ok, bind_eq_ok]
    constructor
    · rintro ⟨⟨number, left⟩, hcount, has⟩
      exact ⟨_, (count_eq_ok_iff.1 hcount).1, (Foresees.repeated hitem 0 number).ok_iff.1 has⟩
    · rintro ⟨⟨number, left⟩, hword, has⟩
      have hread := (Foresees.repeated hitem 0 number).ok_iff.2 has
      obtain ⟨used, ⟨hnumber, heach⟩, hleft⟩ := (accepts_repeated haccepts 0 number).sound hread
      have hroom : number * size ≤ left.length := by
        have hle := heach.length_le hsize
        rw [hnumber] at hle
        rw [hleft, List.length_append]
        omega
      exact ⟨_, count_eq_ok_iff.2 ⟨hword, hroom⟩, hread⟩
  error := by
    intro bytes fault hread
    rw [Wkb.countedBy] at hread
    cases hcount : count order size what bytes with
    | error first =>
      rw [hcount, error_bind] at hread
      cases hread
      obtain hword | ⟨number, left, hroom, rfl⟩ := count_eq_error hcount
      · exact .inl (by rw [Wkb.countedBy, declared, hword, error_bind])
      · exact .inr ⟨_, _, _, _, rfl, hroom⟩
    | ok x =>
      rw [hcount, ok_bind] at hread
      rw [Wkb.countedBy, declared, (count_eq_ok_iff.1 hcount).1, ok_bind]
      exact (Foresees.repeated hitem 0 x.1).error hread

end Counted

theorem foresees_path (h : Header) : Foresees (path h) (pathBy declared h) :=
  Foresees.countedBy (fun _ => .refl (coordinate h)) h.order .coordinate
    (fun _ => accepts_coordinate h) fun _ _ hc => Nat.le_of_eq hc.length_eq.symm

theorem foresees_ring (h : Header) (index : Nat) :
    Foresees (ring h index) (ringBy declared h index) :=
  (foresees_path h).andThen fun path => .refl (asRing index path)

theorem foresees_polygon (h : Header) : Foresees (polygon h) (polygonBy declared h) :=
  Foresees.countedBy (foresees_ring h) h.order .ring (accepts_ring h)
    fun _ _ hring => hring.1.four_le

section Members

variable {levels : Nat} {member free : Reader Geometry} (hforesees : Foresees member free)
  (haccepts : Accepts member (IsMember true levels)) (h : Header)

include hforesees haccepts

theorem foresees_members {accept : Geometry → Option α} {f : α → Geometry}
    (haccept : ∀ g a, accept g = some a ↔ g = f a) :
    Foresees (members h member accept) (membersBy declared h free accept) :=
  Foresees.countedBy (fun _ => hforesees.accepted h accept) h.order .member
    (fun _ => accepts_accepted haccepts haccept)
    fun _ _ hg => hg.choose_spec.leastMemberSize_le

theorem foresees_body : Foresees (body h member) (bodyBy declared h free) := by
  unfold body bodyBy
  cases h.kind with
  | point => exact .refl _
  | lineString => exact (foresees_path h).build .lineString
  | polygon => exact (foresees_polygon h).build .polygon
  | multiPoint =>
    exact (foresees_members hforesees haccepts h point?_eq_some_iff).build .multiPoint
  | multiLineString =>
    exact (foresees_members hforesees haccepts h path?_eq_some_iff).build .multiLineString
  | multiPolygon =>
    exact (foresees_members hforesees haccepts h polygon?_eq_some_iff).build .multiPolygon
  | collection =>
    have hsome (g g' : Geometry) : some g = some g' ↔ g = id g' := by simp
    exact (foresees_members hforesees haccepts h hsome).build .collection
  | generic => exact .refl _

end Members

theorem foresees_geometry (levels : Nat) :
    Foresees (geometry levels) (geometryBy declared levels) := by
  induction levels with
  | zero => exact .refl _
  | succ levels ih =>
    exact (Foresees.refl header).andThen fun h =>
      (foresees_body ih.withoutSrid (accepts_withoutSrid (accepts_geometry levels)) h).andThen
        fun g => .refl fun rest => .ok ((g, h.srid), rest)

/-! ## Decoding without the check -/

def decodeUnchecked : List UInt8 → Except Fault (Geometry × Option Int32) := decodeBy declared

theorem steady_declared (order : ByteOrder) (size : Nat) (what : Item) :
    Steady (fun fault => ∃ item, fault = .endOfInput item) (declared order size what) :=
  steady_word (fun item => ⟨item, rfl⟩) order 4 what

theorem decodeBy_eq_error {counter : Counter} {bytes : List UInt8} {fault : Fault}
    (hread : geometryBy counter (maxDepth + 1) bytes = .error fault) :
    decodeBy counter bytes = .error fault := by
  rw [decodeBy, hread, error_bind]

theorem decodeBy_congr {counter counter' : Counter} {bytes : List UInt8}
    {x : (Geometry × Option Int32) × List UInt8}
    (hread : geometryBy counter (maxDepth + 1) bytes = .ok x)
    (hread' : geometryBy counter' (maxDepth + 1) bytes = .ok x) :
    decodeBy counter bytes = decodeBy counter' bytes := by
  rw [decodeBy, decodeBy, hread, hread']

/-- The two ways of decoding agree, but for refusals by the check.  What it refuses is refused
without it as well: bytes run out, or there is another fault which no more bytes can mend.  And
whatever geometry begins with these bytes, it takes more of them. -/
theorem decodeUnchecked_cases (bytes : List UInt8) :
    decodeUnchecked bytes = decode bytes ∨
      ∃ fault, decode bytes = .error fault ∧ fault.IsCount ∧
        ((∃ item, decodeUnchecked bytes = .error (.endOfInput item)) ∨
          ∀ more, ∃ fault', decodeUnchecked (bytes ++ more) = .error fault') ∧
        ∀ more x rest, geometryBy declared (maxDepth + 1) (bytes ++ more) = .ok (x, rest) →
          rest.length < more.length := by
  have hforesees := foresees_geometry (maxDepth + 1)
  rw [← geometryBy_count] at hforesees
  rw [← decodeBy_count]
  cases hread : geometryBy count (maxDepth + 1) bytes with
  | ok x => exact .inl (decodeBy_congr (hforesees.ok_iff.1 hread) hread)
  | error fault =>
    obtain hfree | hcount := hforesees.error hread
    · left
      rw [decodeUnchecked, decodeBy_eq_error hfree, decodeBy_eq_error hread]
    · refine .inr ⟨fault, decodeBy_eq_error hread, hcount, ?_, ?_⟩
      · cases hfree : geometryBy declared (maxDepth + 1) bytes with
        | ok x =>
          rw [hforesees.ok_iff.2 hfree] at hread
          cases hread
        | error other =>
          by_cases hend : ∃ item, other = .endOfInput item
          · obtain ⟨item, rfl⟩ := hend
            exact .inl ⟨item, decodeBy_eq_error hfree⟩
          · right
            intro more
            obtain ⟨fault', hmore⟩ :=
              (steady_geometryBy steady_declared (fun item => ⟨item, rfl⟩) (maxDepth + 1)).error
                more hfree hend
            exact ⟨fault', decodeBy_eq_error hmore⟩
      · intro more x rest hmore
        by_contra hle
        rw [← hforesees.ok_iff, geometryBy_count] at hmore
        obtain ⟨used, hused, hbytes⟩ := (accepts_geometry (maxDepth + 1)).sound hmore
        have hlength : used.length ≤ bytes.length := by
          have hsum := congrArg List.length hbytes
          rw [List.length_append, List.length_append] at hsum
          omega
        obtain ⟨left, rfl⟩ : used <+: bytes :=
          List.prefix_of_prefix_length_le ⟨rest, hbytes.symm⟩ (List.prefix_append bytes more)
            hlength
        rw [geometryBy_count, (accepts_geometry (maxDepth + 1)).complete left hused] at hread
        cases hread

end SpatialSql.Wkb
