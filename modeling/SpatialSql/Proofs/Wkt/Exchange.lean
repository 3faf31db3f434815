import SpatialSql.Proofs.Wkb.RoundTrip
import SpatialSql.Proofs.Wkt.RoundTrip
/-!
# From text to the wire

What is read from a text has rings where it must and is nested no deeper than texts may be.  The
binary format counts a level more, that of the members of a geometry of many parts, and so takes
everything but such members below all the collections that a text may nest.
-/

namespace SpatialSql.Wkt

open SpatialSql.Geometry (memberNesting memberRings membersDepth membersDepth_le)

/-! ## What derivations mean -/

variable {d : Dimensions}

theorem RingBody.isRing_path (ring : RingBody d) : ring.path.isRing = true := by
  rw [Path.isRing_iff, RingBody.path, pathOf, List.map_eq_nil_iff, List.length_map]
  exact ring.closed

theorem isRing_of_mem_map {rings : List (RingBody d)} {ring : Path}
    (h : ring ∈ rings.map RingBody.path) : ring.isRing = true := by
  obtain ⟨body, -, rfl⟩ := List.mem_map.1 h
  exact body.isRing_path

theorem isRing_of_memberRings {gs : List Geometry} (h : ∀ g ∈ gs, g.HasRings) :
    ∀ ring ∈ memberRings gs, ring.isRing = true := by
  induction gs with
  | nil => nofun
  | cons g rest ih =>
    rw [List.forall_mem_cons] at h
    exact List.forall_mem_append.2 ⟨h.1, ih h.2⟩

namespace Derivation

theorem hasRings_geometry {levels : Nat} (t : Derivation levels) : t.geometry.HasRings := by
  induction levels with
  | zero => exact Empty.elim t
  | succ levels ih =>
    obtain ⟨d, b⟩ := t
    cases b with
    | point _ | lineString _ | multiPoint _ | multiLineString _ => nofun
    | linearRing ring => exact List.forall_mem_singleton.2 ring.isRing_path
    | polygon rings => exact fun ring hring => isRing_of_mem_map hring
    | multiPolygon polygons =>
      intro ring hring
      obtain ⟨rings, hrings, hring⟩ := List.mem_flatten.1 hring
      obtain ⟨bodies, -, rfl⟩ := List.mem_map.1 hrings
      exact isRing_of_mem_map hring
    | collection members =>
      refine isRing_of_memberRings fun g hg => ?_
      obtain ⟨member, -, rfl⟩ := List.mem_map.1 hg
      exact ih member

theorem depth_geometry_lt {levels : Nat} (t : Derivation levels) : t.geometry.depth < levels := by
  induction levels with
  | zero => exact Empty.elim t
  | succ levels ih =>
    obtain ⟨d, b⟩ := t
    cases b with
    | collection members =>
      refine Nat.lt_succ_of_le (membersDepth_le fun g hg => ?_)
      obtain ⟨member, -, rfl⟩ := List.mem_map.1 hg
      exact ih member
    | _ => exact Nat.succ_pos levels

end Derivation

section Reading

variable {text : String} {g : Geometry} (hread : read text = .ok g)

include hread

theorem exists_derivation_of_read : ∃ t : Derivation (maxDepth + 1), t.geometry = g := by
  obtain ⟨found, -, htokens⟩ := bind_eq_ok.1 hread
  obtain ⟨t, -, hvalue⟩ := ofTokens_eq_ok_iff.1 htokens
  exact ⟨t, hvalue⟩

theorem hasRings_of_read : g.HasRings := by
  obtain ⟨t, rfl⟩ := exists_derivation_of_read hread
  exact t.hasRings_geometry

theorem depth_le_of_read : g.depth ≤ maxDepth := by
  obtain ⟨t, rfl⟩ := exists_derivation_of_read hread
  exact Nat.le_of_lt_succ t.depth_geometry_lt

end Reading

/-! ## Levels -/

mutual

/-- Only the members of a geometry of many parts take a level that is no collection's. -/
theorem nesting_le_depth : (g : Geometry) → g.nesting ≤ g.depth + 1
  | .collection members => memberNesting_le_membersDepth members
  | .point _ | .lineString _ | .linearRing _ | .polygon _ => Nat.zero_le _
  | .multiPoint _ | .multiLineString _ | .multiPolygon _ => by
    unfold Geometry.nesting
    split
    · exact Nat.zero_le _
    · exact Nat.le_add_left 1 _

theorem memberNesting_le_membersDepth :
    (gs : List Geometry) → memberNesting gs ≤ membersDepth gs + 1
  | [] => Nat.zero_le _
  | g :: rest => by
    have hg := nesting_le_depth g
    have hrest := memberNesting_le_membersDepth rest
    rw [memberNesting, membersDepth]
    exact Nat.max_le.2
      ⟨Nat.le_trans (Nat.succ_le_succ hg) (Nat.succ_le_succ (Nat.le_max_left _ _)),
        Nat.le_trans hrest (Nat.succ_le_succ (Nat.le_max_right _ _))⟩

end

/-! ## On the wire -/

def HasNumbers (g : Geometry) : Prop :=
  ∀ c ∈ g.coordinates, c.x.isNaN = false ∧ c.y.isNaN = false ∧ ∀ z ∈ c.z, z.isNaN = false

instance (g : Geometry) : Decidable (HasNumbers g) :=
  inferInstanceAs (Decidable (∀ c ∈ g.coordinates, c.x.isNaN = false ∧ c.y.isNaN = false ∧
    ∀ z ∈ c.z, z.isNaN = false))

theorem canonical_eq_normalized {g : Geometry} (hnumbers : HasNumbers g) :
    g.canonical = g.normalized.geometry := by
  rw [g.geometry_normalized]
  apply g.canonical_eq_withoutRings
  intro c hc
  obtain ⟨hx, -, hz⟩ := hnumbers c hc
  exact ⟨by rw [Coordinate.isBlank, hx, Bool.false_and], hz⟩

/-- What is read from a text crosses the wire in its normal form, or is refused for its nesting; it
is refused only if the text nests collections as deep as a text may. -/
theorem decode_encode_read {text : String} {g : Geometry} (hread : read text = .ok g)
    (hnumbers : HasNumbers g) (hlists : g.IsCountable) (order : Wkb.ByteOrder) :
    (g.nesting ≤ Wkb.maxDepth →
        Wkb.decode (Wkb.encode order g none) = .ok (g.normalized.geometry, none)) ∧
      (Wkb.maxDepth < g.nesting →
        Wkb.decode (Wkb.encode order g none) = .error .tooDeep ∧ g.depth = maxDepth) := by
  have hrings := hasRings_of_read hread
  refine ⟨fun hnesting => ?_, fun hnesting => ⟨?_, ?_⟩⟩
  · rw [← canonical_eq_normalized hnumbers]
    exact Wkb.decode_encode_of_le hrings hlists order none hnesting
  · exact Wkb.decode_encode_of_lt hrings hlists order none hnesting
  · have hdepth := depth_le_of_read hread
    have hle := nesting_le_depth g
    have hlimits : Wkb.maxDepth = maxDepth := rfl
    omega

def crowdedGeometry : Geometry := Wkb.buried (.multiPoint [some ⟨.zero, .zero, none⟩]) maxDepth

theorem read_write_crowded : read (write crowdedGeometry) = .ok crowdedGeometry := by
  have hlegible : crowdedGeometry.legible = crowdedGeometry := by decide +kernel
  have hread := read_write_legible (g := crowdedGeometry) (by decide +kernel) (by decide +kernel)
    (by decide +kernel)
  rwa [hlegible] at hread

theorem decode_encode_read_varied :
    (read (write variedGeometry) = .ok variedGeometry.legible ∧ HasNumbers variedGeometry.legible ∧
      variedGeometry.legible.IsCountable ∧ variedGeometry.legible.nesting ≤ Wkb.maxDepth ∧
      Wkb.decode (Wkb.encode .bigEndian variedGeometry.legible none) =
        .ok (variedGeometry.legible.normalized.geometry, none)) ∧
    (read (write crowdedGeometry) = .ok crowdedGeometry ∧ HasNumbers crowdedGeometry ∧
      crowdedGeometry.IsCountable ∧ Wkb.maxDepth < crowdedGeometry.nesting ∧
      Wkb.decode (Wkb.encode .littleEndian crowdedGeometry none) = .error .tooDeep) := by
  have hread : read (write variedGeometry) = .ok variedGeometry.legible :=
    read_write_legible (by decide +kernel) (by decide +kernel) (by decide +kernel)
  have hvaried : HasNumbers variedGeometry.legible ∧ variedGeometry.legible.IsCountable ∧
      variedGeometry.legible.nesting ≤ Wkb.maxDepth := by decide +kernel
  have hcrowded : HasNumbers crowdedGeometry ∧ crowdedGeometry.IsCountable ∧
      Wkb.maxDepth < crowdedGeometry.nesting := by decide +kernel
  refine ⟨⟨hread, hvaried.1, hvaried.2.1, hvaried.2.2, ?_⟩,
    read_write_crowded, hcrowded.1, hcrowded.2.1, hcrowded.2.2, ?_⟩
  · exact (decode_encode_read hread hvaried.1 hvaried.2.1 .bigEndian).1 hvaried.2.2
  · exact ((decode_encode_read read_write_crowded hcrowded.1 hcrowded.2.1 .littleEndian).2
      hcrowded.2.2).1

/-- A geometry can be read from a text and not from the bytes that it is written as. -/
theorem not_every_text_crosses :
    read (write crowdedGeometry) = .ok crowdedGeometry ∧ HasNumbers crowdedGeometry ∧
      ∀ h, Wkb.decode (Wkb.encode .littleEndian crowdedGeometry none) ≠ .ok h := by
  have hdeep : Wkb.decode (Wkb.encode .littleEndian crowdedGeometry none) = .error .tooDeep :=
    Wkb.decode_encode_of_lt (by decide +kernel) (by decide +kernel) .littleEndian none
      (by decide +kernel)
  refine ⟨read_write_crowded, by decide +kernel, fun h hdecode => ?_⟩
  rw [hdeep] at hdecode
  cases hdecode

end SpatialSql.Wkt
