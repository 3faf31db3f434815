import SpatialSql.Proofs.Geometry.Ring
import SpatialSql.Proofs.Wkb.Acceptance
/-!
# What the readers of bodies accept

The readers behind a header, up to a whole geometry.  The depth of a geometry is the recursion of
its reader, so acceptance is an induction on the levels that are left.
-/

namespace SpatialSql.Wkb

/-! ## Counted items -/

theorem accepts_repeated {item : Nat → Reader α} {spelling : Spelling α}
    (hitem : ∀ index, Accepts (item index) spelling) (index count : Nat) :
    Accepts (repeated item index count) fun used as =>
      as.length = count ∧ Each spelling used as where
  sound := by
    intro bytes rest as hread
    induction count generalizing index bytes as with
    | zero =>
      cases hread
      exact ⟨[], ⟨rfl, .nil⟩, rfl⟩
    | succ count ih =>
      simp only [repeated, bind_eq_ok] at hread
      obtain ⟨⟨first, rest₁⟩, hfirst, ⟨others, rest₂⟩, hothers, hread⟩ := hread
      cases hread
      obtain ⟨used₁, hused₁, rfl⟩ := (hitem index).sound hfirst
      obtain ⟨used₂, ⟨rfl, hused₂⟩, rfl⟩ := ih (index + 1) hothers
      exact ⟨used₁ ++ used₂, ⟨rfl, .cons hused₁ hused₂⟩, (List.append_assoc ..).symm⟩
  complete := by
    rintro used as rest ⟨rfl, heach⟩
    induction heach generalizing index with
    | nil => rfl
    | cons hfirst _ ih =>
      rw [List.append_assoc, List.length_cons, repeated, (hitem index).complete _ hfirst]
      simp only [ok_bind, ih]
      rfl

theorem count_eq_ok (order : ByteOrder) {number size : Nat} (what : Item) {rest : List UInt8}
    (hlt : number < 2 ^ 32) (hroom : number * size ≤ rest.length) :
    count order size what (order.encode number 4 ++ rest) = .ok (number, rest) :=
  count_eq_ok_iff.2 ⟨(accepts_word order 4 what).complete rest ⟨hlt, rfl⟩, hroom⟩

/-- A count and as many items.  Items that take at least `size` bytes each are never refused for
their number. -/
theorem accepts_counted (order : ByteOrder) {size : Nat} (what : Item) {item : Nat → Reader α}
    {spelling : Spelling α} (hitem : ∀ index, Accepts (item index) spelling)
    (hsize : ∀ used a, spelling used a → size ≤ used.length) :
    Accepts (fun bytes => count order size what bytes >>= fun x => repeated item 0 x.1 x.2)
      (Counted order spelling) where
  sound := by
    intro bytes rest as hread
    obtain ⟨⟨number, rest₁⟩, hcount, hitems⟩ := bind_eq_ok.1 hread
    obtain ⟨_, ⟨hlt, rfl⟩, rfl⟩ := (accepts_word order 4 what).sound (count_eq_ok_iff.1 hcount).1
    obtain ⟨used, ⟨rfl, heach⟩, rfl⟩ := (accepts_repeated hitem 0 _).sound hitems
    exact ⟨_, .intro hlt heach, (List.append_assoc ..).symm⟩
  complete := by
    rintro _ as rest (@⟨used, _, hlt, heach⟩)
    have hroom : as.length * size ≤ (used ++ rest).length := by
      have hle := heach.length_le hsize
      rw [List.length_append]
      omega
    rw [List.append_assoc, count_eq_ok order what hlt hroom]
    exact (accepts_repeated hitem 0 as.length).complete rest ⟨rfl, heach⟩

/-! ## Coordinates -/

theorem accepts_ordinate (h : Header) : Accepts (ordinate h) (IsOrdinate h) where
  sound := by
    intro bytes rest x hread
    simp only [ordinate, bind_eq_ok] at hread
    obtain ⟨⟨bits, rest⟩, hword, hread⟩ := hread
    cases hread
    obtain ⟨used, ⟨hlt, rfl⟩, rfl⟩ := (accepts_word h.order 8 .ordinate).sound hword
    have hbits : (UInt64.ofNat bits).toNat = bits := by
      rw [UInt64.toNat_ofNat']
      exact Nat.mod_eq_of_lt hlt
    exact ⟨_, by rw [IsOrdinate, hbits], rfl⟩
  complete := by
    rintro _ x rest rfl
    have hlt : x.bits.toNat < 256 ^ 8 := x.bits.toNat_lt
    have hword := (accepts_word h.order 8 .ordinate).complete rest ⟨hlt, rfl⟩
    simp only [ordinate, hword, ok_bind, UInt64.ofNat_toNat]
    rfl

theorem accepts_optionalOrdinate (h : Header) (present : Bool) :
    Accepts (optionalOrdinate h present) (IsOptional h present) where
  sound := by
    intro bytes rest x hread
    cases present with
    | false =>
      cases hread
      exact ⟨[], .absent, rfl⟩
    | true =>
      simp only [optionalOrdinate, if_true, bind_eq_ok] at hread
      obtain ⟨⟨x, rest⟩, hx, hread⟩ := hread
      cases hread
      obtain ⟨used, hused, rfl⟩ := (accepts_ordinate h).sound hx
      exact ⟨used, .present hused, rfl⟩
  complete := by
    intro used x rest hused
    cases hused with
    | absent => rfl
    | present hused =>
      simp only [optionalOrdinate, if_true, (accepts_ordinate h).complete rest hused, ok_bind]
      rfl

theorem accepts_coordinate (h : Header) : Accepts (coordinate h) (IsCoordinate h) where
  sound := by
    intro bytes rest c hread
    simp only [coordinate, bind_eq_ok] at hread
    obtain ⟨⟨x, rest₁⟩, hx, ⟨y, rest₂⟩, hy, ⟨z, rest₃⟩, hz, ⟨m, rest₄⟩, hm, hread⟩ := hread
    cases hread
    obtain ⟨ux, hux, rfl⟩ := (accepts_ordinate h).sound hx
    obtain ⟨uy, huy, rfl⟩ := (accepts_ordinate h).sound hy
    obtain ⟨uz, huz, rfl⟩ := (accepts_optionalOrdinate h h.z).sound hz
    obtain ⟨um, hum, rfl⟩ := (accepts_optionalOrdinate h h.m).sound hm
    exact ⟨_, .intro hux huy huz hum, by simp only [List.append_assoc]⟩
  complete := by
    rintro _ _ rest ⟨hux, huy, huz, hum⟩
    simp only [coordinate, List.append_assoc, (accepts_ordinate h).complete _ hux,
      (accepts_ordinate h).complete _ huy, (accepts_optionalOrdinate h h.z).complete _ huz,
      (accepts_optionalOrdinate h h.m).complete _ hum, ok_bind]
    rfl

theorem accepts_point (h : Header) : Accepts (point h) (IsPoint h) where
  sound := by
    intro bytes rest p hread
    simp only [point, bind_eq_ok] at hread
    obtain ⟨⟨c, rest⟩, hc, hread⟩ := hread
    cases hread
    obtain ⟨used, hused, rfl⟩ := (accepts_coordinate h).sound hc
    refine ⟨used, ?_, rfl⟩
    split
    · rename_i hempty
      exact .empty hused hempty
    · rename_i hempty
      exact .coordinate hused (Bool.eq_false_iff.2 hempty)
  complete := by
    intro used p rest hused
    cases hused with
    | empty hused hempty =>
      simp only [point, (accepts_coordinate h).complete rest hused, ok_bind, hempty, if_true]
      rfl
    | coordinate hused hempty =>
      simp only [point, (accepts_coordinate h).complete rest hused, ok_bind, hempty]
      rfl

/-! ## Paths and polygons -/

@[simp] theorem IsOrdinate.length_eq {h : Header} {used : List UInt8} {x : Binary64}
    (hx : IsOrdinate h used x) : used.length = 8 := by
  rw [hx, ByteOrder.length_encode]

theorem IsOptional.length_eq {h : Header} {present : Bool} {used : List UInt8}
    {x : Option Binary64} (hx : IsOptional h present used x) :
    used.length = 8 * present.toNat := by
  cases hx with
  | absent => rfl
  | present hx => rw [hx.length_eq]; rfl

theorem IsCoordinate.length_eq {h : Header} {used : List UInt8} {c : Coordinate}
    (hc : IsCoordinate h used c) : used.length = coordinateSize h := by
  obtain ⟨hux, huy, huz, hum⟩ := hc
  simp only [List.length_append, hux.length_eq, huy.length_eq, huz.length_eq, hum.length_eq]
  unfold coordinateSize
  omega

theorem accepts_path (h : Header) : Accepts (path h) (IsPath h) :=
  accepts_counted h.order .coordinate (fun _ => accepts_coordinate h)
    fun _ _ hc => Nat.le_of_eq hc.length_eq.symm

theorem accepts_ring (h : Header) (index : Nat) : Accepts (ring h index) (IsRing h) where
  sound := by
    intro bytes rest c hread
    simp only [ring, bind_eq_ok] at hread
    obtain ⟨⟨path, rest⟩, hpath, hread⟩ := hread
    split at hread
    · rename_i ring hring
      cases hread
      obtain ⟨hring, rfl⟩ := Path.ring_eq_ok_iff.1 hring
      obtain ⟨used, hused, rfl⟩ := (accepts_path h).sound hpath
      exact ⟨used, ⟨hused, Path.isRing_iff.1 hring⟩, rfl⟩
    · cases hread
  complete := by
    rintro used path rest ⟨hused, hring⟩
    have hring := Path.ring_eq_ok_iff.2 ⟨Path.isRing_iff.2 hring, rfl⟩
    simp only [ring, (accepts_path h).complete rest hused, ok_bind, hring]
    rfl

theorem Counted.four_le {order : ByteOrder} {item : Spelling α} {used : List UInt8}
    {as : List α} (h : Counted order item used as) : 4 ≤ used.length := by
  cases h
  rw [List.length_append, ByteOrder.length_encode]
  omega

theorem accepts_polygon (h : Header) : Accepts (polygon h) (IsPolygon h) :=
  accepts_counted h.order .ring (accepts_ring h) fun _ _ hring => hring.1.four_le

/-! ## Members -/

theorem accepts_accepted {h : Header} {member : Reader Geometry} {spelling : Spelling Geometry}
    (hmember : Accepts member spelling) {accept : Geometry → Option α} {f : α → Geometry}
    (haccept : ∀ g a, accept g = some a ↔ g = f a) :
    Accepts (accepted h member accept) fun used a => spelling used (f a) where
  sound := by
    intro bytes rest a hread
    simp only [accepted, bind_eq_ok] at hread
    obtain ⟨⟨g, rest⟩, hg, hread⟩ := hread
    split at hread
    · rename_i a' ha
      cases hread
      obtain ⟨used, hused, rfl⟩ := hmember.sound hg
      exact ⟨used, (haccept g a).1 ha ▸ hused, rfl⟩
    · cases hread
  complete := by
    intro used a rest hused
    simp only [accepted, hmember.complete rest hused, ok_bind, (haccept (f a) a).2 rfl]
    rfl

theorem accepts_members {h : Header} {member : Reader Geometry} {spelling : Spelling Geometry}
    (hmember : Accepts member spelling) {accept : Geometry → Option α} {f : α → Geometry}
    (haccept : ∀ g a, accept g = some a ↔ g = f a)
    (hsize : ∀ used g, spelling used g → leastMemberSize ≤ used.length) :
    Accepts (members h member accept) (Counted h.order fun used a => spelling used (f a)) :=
  accepts_counted h.order .member (fun _ => accepts_accepted hmember haccept)
    fun used a => hsize used (f a)

theorem point?_eq_some_iff (g : Geometry) (p : Point) : point? g = some p ↔ g = .point p := by
  cases g <;> simp [point?]

theorem path?_eq_some_iff (g : Geometry) (path : Path) :
    path? g = some path ↔ g = .lineString path := by
  cases g <;> simp [path?]

theorem polygon?_eq_some_iff (g : Geometry) (rings : Polygon) :
    polygon? g = some rings ↔ g = .polygon rings := by
  cases g <;> simp [polygon?]

theorem counted_members_iff {lenient : Bool} {levels : Nat} {order : ByteOrder}
    {f : α → Geometry} {used : List UInt8} {as : List α} :
    Counted order (fun used a => IsMember lenient levels used (f a)) used as ↔
      ∃ tail, used = order.encode as.length 4 ++ tail ∧ as.length < 2 ^ 32 ∧
        IsMembers lenient levels tail (as.map f) := by
  constructor
  · rintro ⟨hlt, heach⟩
    exact ⟨_, rfl, hlt, isMembers_iff_each.2 (each_map.2 heach)⟩
  · rintro ⟨tail, rfl, hlt, hmembers⟩
    exact .intro hlt (each_map.1 (isMembers_iff_each.1 hmembers))

/-! ## Geometries -/

theorem IsPoint.sixteen_le {h : Header} {used : List UInt8} {p : Point} (hp : IsPoint h used p) :
    16 ≤ used.length := by
  have hc : ∃ c, IsCoordinate h used c := by
    cases hp with
    | empty hc _ => exact ⟨_, hc⟩
    | coordinate hc _ => exact ⟨_, hc⟩
  obtain ⟨c, hc⟩ := hc
  rw [hc.length_eq, coordinateSize]
  omega

theorem IsBody.four_le {lenient : Bool} {levels : Nat} {h : Header} {used : List UInt8}
    {g : Geometry} (hbody : IsBody lenient levels h used g) : 4 ≤ used.length := by
  cases hbody with
  | point _ hp => exact Nat.le_trans (by decide) hp.sixteen_le
  | lineString _ hpath => exact hpath.four_le
  | polygon _ hrings => exact hrings.four_le
  | multiPoint | multiLineString | multiPolygon | collection =>
    rw [List.length_append, ByteOrder.length_encode]
    omega

theorem IsGeometry.leastMemberSize_le {lenient : Bool} {levels : Nat} {used : List UInt8}
    {g : Geometry} {srid : Option Int32} (hg : IsGeometry lenient levels used g srid) :
    leastMemberSize ≤ used.length := by
  obtain ⟨heading, _, hbody⟩ := hg
  have hfour := hbody.four_le
  rw [Heading.bytes, List.length_append, List.length_cons, List.length_append,
    ByteOrder.length_encode, leastMemberSize]
  omega

theorem IsMembers.room {lenient : Bool} {levels : Nat} {used : List UInt8} {gs : List Geometry}
    (hmembers : IsMembers lenient levels used gs) : gs.length * leastMemberSize ≤ used.length :=
  (isMembers_iff_each.1 hmembers).length_le fun _ _ hg => hg.choose_spec.leastMemberSize_le

theorem accepts_body (h : Header) {levels : Nat} {member : Reader Geometry}
    (hmember : Accepts member (IsMember true levels)) :
    Accepts (body h member) (IsBody true levels h) := by
  have hsize (used : List UInt8) (g : Geometry) (hg : IsMember true levels used g) :
      leastMemberSize ≤ used.length := hg.choose_spec.leastMemberSize_le
  unfold body
  cases hkind : h.kind with
  | point =>
    refine (accepts_build (accepts_point h) .point).congr fun used g => ⟨?_, ?_⟩
    · rintro ⟨p, hp, rfl⟩
      exact .point hkind hp
    · intro hbody
      cases hbody <;> simp_all
  | lineString =>
    refine (accepts_build (accepts_path h) .lineString).congr fun used g => ⟨?_, ?_⟩
    · rintro ⟨path, hpath, rfl⟩
      exact .lineString hkind hpath
    · intro hbody
      cases hbody <;> simp_all
  | polygon =>
    refine (accepts_build (accepts_polygon h) .polygon).congr fun used g => ⟨?_, ?_⟩
    · rintro ⟨rings, hrings, rfl⟩
      exact .polygon hkind hrings
    · intro hbody
      cases hbody <;> simp_all
  | multiPoint =>
    have hmembers := accepts_members (h := h) hmember point?_eq_some_iff hsize
    refine (accepts_build hmembers .multiPoint).congr fun used g => ⟨?_, ?_⟩
    · rintro ⟨points, hpoints, rfl⟩
      obtain ⟨tail, rfl, hlt, hpoints⟩ := counted_members_iff.1 hpoints
      exact .multiPoint hkind hlt hpoints
    · intro hbody
      cases hbody <;> simp_all [counted_members_iff]
  | multiLineString =>
    have hmembers := accepts_members (h := h) hmember path?_eq_some_iff hsize
    refine (accepts_build hmembers .multiLineString).congr fun used g => ⟨?_, ?_⟩
    · rintro ⟨paths, hpaths, rfl⟩
      obtain ⟨tail, rfl, hlt, hpaths⟩ := counted_members_iff.1 hpaths
      exact .multiLineString hkind hlt hpaths
    · intro hbody
      cases hbody <;> simp_all [counted_members_iff]
  | multiPolygon =>
    have hmembers := accepts_members (h := h) hmember polygon?_eq_some_iff hsize
    refine (accepts_build hmembers .multiPolygon).congr fun used g => ⟨?_, ?_⟩
    · rintro ⟨polygons, hpolygons, rfl⟩
      obtain ⟨tail, rfl, hlt, hpolygons⟩ := counted_members_iff.1 hpolygons
      exact .multiPolygon hkind hlt hpolygons
    · intro hbody
      cases hbody <;> simp_all [counted_members_iff]
  | collection =>
    have hsome (g g' : Geometry) : some g = some g' ↔ g = id g' := by simp
    have hmembers := accepts_members (h := h) hmember hsome hsize
    refine (accepts_build hmembers .collection).congr fun used g => ⟨?_, ?_⟩
    · rintro ⟨gs, hgs, rfl⟩
      obtain ⟨tail, rfl, hlt, hgs⟩ := counted_members_iff.1 hgs
      rw [List.map_id] at hgs
      exact .collection hkind hlt hgs
    · intro hbody
      cases hbody with
      | collection _ hlt hgs =>
        exact ⟨_, counted_members_iff.2 ⟨_, rfl, hlt, by rwa [List.map_id]⟩, rfl⟩
      | _ => simp_all
  | generic =>
    constructor
    · intro bytes rest g hread
      cases hread
    · intro used g rest hbody
      cases hbody <;> simp_all

theorem accepts_withoutSrid {lenient : Bool} {levels : Nat}
    {reader : Reader (Geometry × Option Int32)}
    (hreader : Accepts reader fun used x => IsGeometry lenient levels used x.1 x.2) :
    Accepts (withoutSrid reader) (IsMember lenient levels) where
  sound := by
    intro bytes rest g hread
    simp only [withoutSrid, bind_eq_ok] at hread
    obtain ⟨⟨⟨g, srid⟩, rest⟩, hg, hread⟩ := hread
    cases hread
    obtain ⟨used, hused, rfl⟩ := hreader.sound hg
    exact ⟨used, ⟨srid, hused⟩, rfl⟩
  complete := by
    rintro used g rest ⟨srid, hused⟩
    simp only [withoutSrid, hreader.complete rest (a := (g, srid)) hused, ok_bind]
    rfl

theorem accepts_geometry (levels : Nat) :
    Accepts (geometry levels) fun used x => IsGeometry true levels used x.1 x.2 := by
  induction levels with
  | zero =>
    constructor
    · intro bytes rest x hread
      cases hread
    · intro used x rest hg
      cases hg
  | succ levels ih =>
    have hbody (h : Header) := accepts_body h (accepts_withoutSrid ih)
    constructor
    · intro bytes rest x hread
      simp only [geometry, bind_eq_ok] at hread
      obtain ⟨⟨h, rest₁⟩, hheader, ⟨g, rest₂⟩, hg, hread⟩ := hread
      cases hread
      obtain ⟨_, ⟨heading, rfl, rfl⟩, rfl⟩ := accepts_header.sound hheader
      obtain ⟨used, hused, rfl⟩ := (hbody heading.toHeader).sound hg
      exact ⟨_, .intro heading (fun _ => rfl) hused, (List.append_assoc ..).symm⟩
    · rintro _ ⟨g, srid⟩ rest hg
      obtain @⟨_, used, _, heading, _, hused⟩ := hg
      have hheader := accepts_header.complete (used ++ rest) ⟨heading, rfl, rfl⟩
      rw [List.append_assoc, geometry, hheader]
      simp only [ok_bind, (hbody heading.toHeader).complete rest hused]
      rfl

end SpatialSql.Wkb
