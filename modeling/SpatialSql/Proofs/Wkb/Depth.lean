import SpatialSql.Proofs.Wkb.Bodies
import SpatialSql.Proofs.Wkb.Encoding
/-!
# Parts that are nested too deep

A reader with fewer levels than an encoded geometry takes ends at the first part that is nested too
deep, having read everything before it, and so with the fault that names the depth.
-/

namespace SpatialSql.Wkb

open SpatialSql.Geometry (IsCountable lengths pathLengths memberRings memberLengths
  memberCoordinates memberNesting membersCanonical length_membersCanonical)

theorem members_eq_error {h : Header} {member : Reader Geometry} {accept : Geometry → Option α}
    {number : Nat} {tail : List UInt8} {fault : Fault} (hlt : number < 2 ^ 32)
    (hroom : number * leastMemberSize ≤ tail.length)
    (hitems : repeated (fun _ => accepted h member accept) 0 number tail = .error fault) :
    members h member accept (h.order.encode number 4 ++ tail) = .error fault := by
  rw [members, count_eq_ok h.order .member hlt hroom]
  exact hitems

theorem repeated_zero_levels {h : Header} {accept : Geometry → Option α} {items : List β}
    (hitems : 0 < if items.isEmpty then 0 else 1) (bytes : List UInt8) :
    repeated (fun _ => accepted h (withoutSrid (geometry 0)) accept) 0 items.length bytes =
      .error .tooDeep := by
  cases items with
  | nil => simp at hitems
  | cons a items => rfl

variable {l : Layout}

theorem members_eq_tooDeep {h : Header} {kind : Geometry.Kind} {accept : Geometry → Option α}
    (hl : l.Describes h) {items : List β} {write : β → List UInt8} {f : β → Geometry}
    (hlt : items.length < 2 ^ 32) {levels : Nat}
    (hlevels : levels < if items.isEmpty then 0 else 1)
    (hmembers : IsMembers false 1
      (items.flatMap fun item => l.header kind none ++ write item) (items.map f))
    (rest : List UInt8) :
    members h (withoutSrid (geometry levels)) accept (l.members kind write items ++ rest) =
      .error .tooDeep := by
  have hzero : levels = 0 := by
    split at hlevels <;> omega
  subst hzero
  have hroom := hmembers.room
  rw [List.length_map] at hroom
  rw [Layout.members, Layout.count_eq hlt, ← hl.order, List.append_assoc]
  apply members_eq_error hlt
  · rw [List.length_append]
    omega
  · exact repeated_zero_levels hlevels _

theorem geometry_eq_tooDeep {g : Geometry} {levels : Nat} {rest : List UInt8}
    (srid : Option Int32) (hlevels : levels ≤ g.nesting)
    (hbody : ∀ {levels : Nat} {h : Header}, levels < g.nesting → l.Describes h → h.kind = g.kind →
      body h (withoutSrid (geometry levels)) (l.body g ++ rest) = .error .tooDeep) :
    geometry levels (l.header g.kind srid ++ (l.body g ++ rest)) = .error .tooDeep := by
  cases levels with
  | zero => rfl
  | succ levels =>
    have hfault := hbody hlevels (l.describes_heading g.kind_ne_generic srid) rfl
    rw [l.header_eq_bytes g.kind_ne_generic srid, geometry,
      accepts_header.complete _ ⟨l.heading g.kind g.kind_ne_generic srid, rfl, rfl⟩]
    simp only [ok_bind, hfault, error_bind]

theorem ite_le_one (p : Prop) [Decidable p] : (if p then 0 else 1) ≤ 1 := by
  split <;> omega

theorem build_eq_error {f : α → Geometry} {reader : Reader α} {bytes : List UInt8} {fault : Fault}
    (h : reader bytes = .error fault) : build f reader bytes = .error fault := by
  rw [build, h]
  rfl

mutual

theorem body_eq_tooDeep : (g : Geometry) → g.HasRings → g.IsCountable →
    (∀ c ∈ g.coordinates, l.Holds c) → ∀ {levels : Nat} {h : Header}, levels < g.nesting →
    l.Describes h → h.kind = g.kind → (rest : List UInt8) →
    body h (withoutSrid (geometry levels)) (l.body g ++ rest) = .error .tooDeep
  | .point _, _, _, _, _, _, hlevels, _, _, _ => absurd hlevels (Nat.not_lt_zero _)
  | .lineString _, _, _, _, _, _, hlevels, _, _, _ => absurd hlevels (Nat.not_lt_zero _)
  | .linearRing _, _, _, _, _, _, hlevels, _, _, _ => absurd hlevels (Nat.not_lt_zero _)
  | .polygon _, _, _, _, _, _, hlevels, _, _, _ => absurd hlevels (Nat.not_lt_zero _)
  | .multiPoint points, _, hlists, hz, levels, h, hlevels, hl, hkind, rest => by
    simp only [body, hkind, Geometry.kind]
    exact build_eq_error (members_eq_tooDeep hl (hlists _ List.mem_cons_self) hlevels
      (Layout.isMembers_points (ite_le_one _) hz) rest)
  | .multiLineString paths, _, hlists, hz, levels, h, hlevels, hl, hkind, rest => by
    simp only [body, hkind, Geometry.kind]
    exact build_eq_error (members_eq_tooDeep hl (hlists _ List.mem_cons_self) hlevels
      (Layout.isMembers_paths (ite_le_one _) hlists hz) rest)
  | .multiPolygon polygons, hrings, hlists, hz, levels, h, hlevels, hl, hkind, rest => by
    rw [IsCountable, lengths, List.forall_mem_cons] at hlists
    simp only [body, hkind, Geometry.kind]
    exact build_eq_error (members_eq_tooDeep hl hlists.1 hlevels
      (Layout.isMembers_polygons (ite_le_one _) hrings hlists.2 hz) rest)
  | .collection gs, hrings, hlists, hz, levels, h, hlevels, hl, hkind, rest => by
    rw [IsCountable, lengths, List.forall_mem_cons] at hlists
    have hroom := (Layout.isMembers_collected gs hrings hlists.2 hz (Nat.le_refl _)).room
    rw [length_membersCanonical] at hroom
    simp only [body, hkind, Geometry.kind]
    apply build_eq_error
    rw [Layout.body, Layout.count_eq hlists.1, ← hl.order, List.append_assoc]
    apply members_eq_error hlists.1
    · rw [List.length_append]
      omega
    · exact repeated_eq_tooDeep gs hrings hlists.2 hz hlevels rest 0

theorem repeated_eq_tooDeep : (gs : List Geometry) →
    (∀ ring ∈ memberRings gs, ring.isRing = true) → (∀ n ∈ memberLengths gs, n < 2 ^ 32) →
    (∀ c ∈ memberCoordinates gs, l.Holds c) → ∀ {levels : Nat} {h : Header},
    levels < memberNesting gs → (rest : List UInt8) → (index : Nat) →
    repeated (fun _ => accepted h (withoutSrid (geometry levels)) some) index gs.length
      (l.collected gs ++ rest) = .error .tooDeep
  | [], _, _, _, _, _, hlevels, _, _ => absurd hlevels (Nat.not_lt_zero _)
  | g :: gs, hrings, hlists, hz, levels, h, hlevels, rest, index => by
    rw [memberRings, List.forall_mem_append] at hrings
    rw [memberLengths, List.forall_mem_append] at hlists
    rw [memberCoordinates, List.forall_mem_append] at hz
    rw [memberNesting] at hlevels
    rw [List.length_cons, repeated, Layout.collected, List.append_assoc]
    -- The first member fails or is read; in the second case the fault is in the others.
    by_cases hg : g.nesting < levels
    · have hothers : levels < memberNesting gs := by
        apply Nat.lt_of_not_le
        intro hle
        exact Nat.not_le.2 hlevels (Nat.max_le.2 ⟨hg, hle⟩)
      obtain ⟨levels, rfl⟩ : ∃ n, levels = n + 1 := ⟨levels - 1, by omega⟩
      have hgeometry := Layout.isGeometry_of_isBody g.kind_ne_generic none fun _ hl hkind =>
        Layout.isBody_body g hrings.1 hlists.1 hz.1 (Nat.le_of_lt_succ hg) hl hkind
      have hfirst : IsMember true (levels + 1) (l.header g.kind none ++ l.body g) g.canonical :=
        ⟨none, hgeometry.mono fun _ => rfl⟩
      have hsome (g g' : Geometry) : some g = some g' ↔ g = id g' := by simp
      have haccept := accepts_accepted (h := h)
        (accepts_withoutSrid (accepts_geometry (levels + 1))) hsome
      have hrest := repeated_eq_tooDeep gs hrings.2 hlists.2 hz.2 (h := h) hothers rest (index + 1)
      rw [haccept.complete (l.collected gs ++ rest) hfirst, ok_bind]
      simp only [hrest, error_bind]
    · have hread : geometry levels (l.header g.kind none ++ (l.body g ++ (l.collected gs ++ rest)))
          = .error .tooDeep := by
        apply geometry_eq_tooDeep none (Nat.le_of_not_lt hg)
        intro levels h hlevels hl hkind
        exact body_eq_tooDeep g hrings.1 hlists.1 hz.1 hlevels hl hkind (l.collected gs ++ rest)
      rw [List.append_assoc, accepted, withoutSrid, hread]
      rfl

end

end SpatialSql.Wkb
