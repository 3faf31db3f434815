import SpatialSql.Proofs.Wkb.Bodies
/-!
# The headers that are read

The type codes that a reader meets, up to where it ends or refuses.  A geometry that was read
without meeting the bit that has no meaning is one of the strict grammar.
-/

namespace SpatialSql.Wkb

/-- The codes met while as many items are read, up to the first that is refused. -/
def repeatedCodes (codes : List UInt8 → List Nat) (item : Reader α) :
    (count : Nat) → List UInt8 → List Nat
  | 0, _ => []
  | count + 1, bytes =>
    codes bytes ++
      match item bytes with
      | .ok (_, rest) => repeatedCodes codes item count rest
      | .error _ => []

def memberCodes (h : Header) (codes : List UInt8 → List Nat) (item : Reader α)
    (bytes : List UInt8) : List Nat :=
  match count h.order leastMemberSize .member bytes with
  | .ok (number, rest) => repeatedCodes codes item number rest
  | .error _ => []

/-- The codes met behind a header; `codes` gives those met in reading one member. -/
def bodyCodes (h : Header) (codes : List UInt8 → List Nat) (member : Reader Geometry) :
    List UInt8 → List Nat :=
  match h.kind with
  | .multiPoint => memberCodes h codes (accepted h member point?)
  | .multiLineString => memberCodes h codes (accepted h member path?)
  | .multiPolygon => memberCodes h codes (accepted h member polygon?)
  | .collection => memberCodes h codes (accepted h member some)
  | .point | .lineString | .polygon | .generic => fun _ => []

/-- The codes met in reading a geometry of at most `levels` levels, in the order of reading. -/
def headerCodes : (levels : Nat) → List UInt8 → List Nat
  | 0, _ => []
  | levels + 1, bytes =>
    match byteOrder bytes with
    | .error _ => []
    | .ok (order, rest) =>
      match word order 4 .typeCode rest with
      | .error _ => []
      | .ok (code, _) =>
        code ::
          match header bytes with
          | .error _ => []
          | .ok (h, rest) =>
            bodyCodes h (headerCodes levels) (withoutSrid (geometry levels)) rest

def decodedCodes (bytes : List UInt8) : List Nat := headerCodes (maxDepth + 1) bytes

/-- Whether a code has the bit that has no meaning. -/
def isReserved (code : Nat) : Bool := code / reservedFlag % 2 == 1

theorem Heading.isReserved_code (h : Heading) : isReserved h.code = h.reserved :=
  h.reserved_eq.symm

/-! ## Codes of what is accepted -/

theorem headerCodes_heading (levels : Nat) (heading : Heading) (rest : List UInt8) :
    headerCodes (levels + 1) (heading.bytes ++ rest) =
      heading.code :: bodyCodes heading.toHeader (headerCodes levels)
        (withoutSrid (geometry levels)) rest := by
  have hheader := accepts_header.complete rest ⟨heading, rfl, rfl⟩
  have horder : byteOrder (heading.bytes ++ rest) = .ok (heading.order,
      heading.order.encode heading.code 4 ++ (sridBytes heading.order heading.srid ++ rest)) := by
    have h := accepts_byteOrder.complete (a := heading.order)
      (heading.order.encode heading.code 4 ++ (sridBytes heading.order heading.srid ++ rest)) rfl
    simpa [Heading.bytes] using h
  have hcode := (accepts_word heading.order 4 .typeCode).complete
    (sridBytes heading.order heading.srid ++ rest) ⟨heading.code_lt, rfl⟩
  simp only [headerCodes, horder, hcode, hheader]

theorem Each.of_repeatedCodes {codes : List UInt8 → List Nat} {item : Reader α}
    {spelling other : Spelling α} (hitem : Accepts item spelling) {P : Nat → Prop}
    (himp : ∀ used a rest, spelling used a → (∀ code ∈ codes (used ++ rest), P code) →
      other used a)
    {used rest : List UInt8} {as : List α} (heach : Each spelling used as)
    (hcodes : ∀ code ∈ repeatedCodes codes item as.length (used ++ rest), P code) :
    Each other used as := by
  induction heach with
  | nil => exact .nil
  | @cons first others a as hfirst _ ih =>
    rw [List.append_assoc, List.length_cons, repeatedCodes, hitem.complete _ hfirst] at hcodes
    simp only [List.mem_append] at hcodes
    refine .cons (himp first a (others ++ rest) hfirst fun code hcode => ?_)
      (ih fun code hcode => ?_)
    · exact hcodes code (.inl hcode)
    · exact hcodes code (.inr hcode)

theorem IsMembers.strict {levels : Nat} {h : Header} {accept : Geometry → Option α}
    {f : α → Geometry} (haccept : ∀ g a, accept g = some a ↔ g = f a)
    (ih : ∀ used g rest, IsMember true levels used g →
      (∀ code ∈ headerCodes levels (used ++ rest), isReserved code = false) →
      IsMember false levels used g)
    {used rest : List UInt8} {as : List α} (hlt : as.length < 2 ^ 32)
    (hmembers : IsMembers true levels used (as.map f))
    (hcodes : ∀ code ∈ memberCodes h (headerCodes levels)
      (accepted h (withoutSrid (geometry levels)) accept)
      (h.order.encode as.length 4 ++ (used ++ rest)), isReserved code = false) :
    IsMembers false levels used (as.map f) := by
  have heach := each_map.1 (isMembers_iff_each.1 hmembers)
  have hroom : as.length * leastMemberSize ≤ (used ++ rest).length := by
    have hle := hmembers.room
    rw [List.length_map] at hle
    rw [List.length_append]
    omega
  have hitem := accepts_accepted (h := h) (accepts_withoutSrid (accepts_geometry levels)) haccept
  simp only [memberCodes, count_eq_ok h.order .member hlt hroom] at hcodes
  exact isMembers_iff_each.2 (each_map.2
    (heach.of_repeatedCodes hitem (fun used a rest => ih used (f a) rest) hcodes))

theorem IsGeometry.strict {levels : Nat} {used : List UInt8} {g : Geometry} {srid : Option Int32}
    (hg : IsGeometry true levels used g srid) (rest : List UInt8)
    (hcodes : ∀ code ∈ headerCodes levels (used ++ rest), isReserved code = false) :
    IsGeometry false levels used g srid := by
  induction levels generalizing used g srid rest with
  | zero => cases hg
  | succ levels ih =>
    obtain @⟨_, used, _, heading, _, hbody⟩ := hg
    rw [List.append_assoc, headerCodes_heading] at hcodes
    have hreserved := hcodes heading.code List.mem_cons_self
    rw [heading.isReserved_code] at hreserved
    have hrest (code : Nat) (hcode : code ∈ bodyCodes heading.toHeader (headerCodes levels)
        (withoutSrid (geometry levels)) (used ++ rest)) : isReserved code = false :=
      hcodes code (List.mem_cons_of_mem _ hcode)
    have hmember (used : List UInt8) (g : Geometry) (rest : List UInt8)
        (hg : IsMember true levels used g)
        (hcodes : ∀ code ∈ headerCodes levels (used ++ rest), isReserved code = false) :
        IsMember false levels used g :=
      ⟨hg.choose, ih hg.choose_spec rest hcodes⟩
    refine .intro heading (fun h => ?_) ?_
    · rw [hreserved] at h
      cases h
    · cases hbody with
      | point hkind hp => exact .point hkind hp
      | lineString hkind hpath => exact .lineString hkind hpath
      | polygon hkind hrings => exact .polygon hkind hrings
      | multiPoint hkind hlt hpoints =>
        simp only [bodyCodes, hkind, List.append_assoc] at hrest
        exact .multiPoint hkind hlt (hpoints.strict point?_eq_some_iff hmember hlt hrest)
      | multiLineString hkind hlt hpaths =>
        simp only [bodyCodes, hkind, List.append_assoc] at hrest
        exact .multiLineString hkind hlt (hpaths.strict path?_eq_some_iff hmember hlt hrest)
      | multiPolygon hkind hlt hpolygons =>
        simp only [bodyCodes, hkind, List.append_assoc] at hrest
        exact .multiPolygon hkind hlt (hpolygons.strict polygon?_eq_some_iff hmember hlt hrest)
      | @collection _ _ _ gs hkind hlt hgs =>
        simp only [bodyCodes, hkind, List.append_assoc] at hrest
        have hsome (g g' : Geometry) : some g = some g' ↔ g = id g' := by simp
        rw [← List.map_id gs] at hgs
        have hstrict := hgs.strict hsome hmember hlt hrest
        rw [List.map_id] at hstrict
        exact .collection hkind hlt hstrict

end SpatialSql.Wkb
