import SpatialSql.Proofs.Envelope.Joining
import SpatialSql.Proofs.Geometry.Members
/-!
# Tight envelopes

The envelope of a geometry has for its bounds the least and the greatest ordinates of those
coordinates that have a place in the plane.  It follows that neither their order nor how often one
occurs makes a difference, and that the members of a collection can be taken one by one or all
together.
-/

namespace SpatialSql

/-- The coordinates that have a place in the plane. -/
def contributing (cs : List Coordinate) : List Coordinate := cs.filter Coordinate.contributes

def heights (cs : List Coordinate) : List Binary64 := cs.filterMap Coordinate.height?

theorem mem_contributing {c : Coordinate} {cs : List Coordinate} :
    c ∈ contributing cs ↔ c ∈ cs ∧ c.x.isNaN = false ∧ c.y.isNaN = false := by
  rw [contributing, List.mem_filter, Coordinate.contributes_iff]

theorem contributing_eq_nil_iff {cs : List Coordinate} :
    contributing cs = [] ↔ ∀ c ∈ cs, ¬ (c.x.isNaN = false ∧ c.y.isNaN = false) := by
  rw [List.eq_nil_iff_forall_not_mem]
  simp only [mem_contributing, not_and]

namespace Envelope

open Binary64 (IsLeastOf IsGreatestOf)

/-- One end of a range, which is absent where there are no numbers. -/
def IsEnd (IsExtreme : Binary64 → List Binary64 → Prop) : Option Binary64 → List Binary64 → Prop
  | none, xs => xs = []
  | some b, xs => IsExtreme b xs

/-- Every bound is an ordinate of one of the coordinates, and none of them is beyond it. -/
structure IsTight (e : Envelope) (cs : List Coordinate) : Prop where
  minX : IsLeastOf e.minX (cs.map Coordinate.x)
  minY : IsLeastOf e.minY (cs.map Coordinate.y)
  maxX : IsGreatestOf e.maxX (cs.map Coordinate.x)
  maxY : IsGreatestOf e.maxY (cs.map Coordinate.y)
  minZ : IsEnd IsLeastOf e.minZ (heights cs)
  maxZ : IsEnd IsGreatestOf e.maxZ (heights cs)

/-! ## Around more coordinates -/

section

variable {IsExtreme : Binary64 → List Binary64 → Prop} {m n : Option Binary64}
variable {xs ys : List Binary64} (h : IsEnd IsExtreme m xs) (h' : IsEnd IsExtreme n ys)

include h h'

theorem IsEnd.merge {f : Binary64 → Binary64 → Binary64}
    (happend : ∀ {b b'}, IsExtreme b xs → IsExtreme b' ys → IsExtreme (f b b') (xs ++ ys)) :
    IsEnd IsExtreme (m.merge f n) (xs ++ ys) := by
  cases m with
  | none =>
    have hnil : xs = [] := h
    rwa [Option.merge_none_left, hnil, List.nil_append]
  | some b =>
    cases n with
    | none =>
      have hnil : ys = [] := h'
      rwa [Option.merge_none_right, hnil, List.append_nil]
    | some b' => exact happend h h'

theorem IsEnd.boundEq (hmem : ∀ {b zs}, IsExtreme b zs → b ∈ zs) (hsame : ∀ x, x ∈ xs ↔ x ∈ ys)
    (hnumEq : ∀ {b b'}, IsExtreme b xs → IsExtreme b' ys → b.numEq b' = true) :
    boundEq m n = true := by
  cases m with
  | none =>
    cases n with
    | none => rfl
    | some b =>
      have hnil : xs = [] := h
      have hb : b ∈ xs := (hsame b).2 (hmem h')
      rw [hnil] at hb
      exact absurd hb List.not_mem_nil
  | some b =>
    cases n with
    | none =>
      have hnil : ys = [] := h'
      have hb : b ∈ ys := (hsame b).1 (hmem h)
      rw [hnil] at hb
      exact absurd hb List.not_mem_nil
    | some b' => exact hnumEq h h'

end

theorem IsTight.join {a b : Envelope} {cs ds : List Coordinate} (ha : a.IsTight cs)
    (hb : b.IsTight ds) : (a.join b).IsTight (cs ++ ds) where
  minX := by
    rw [List.map_append]
    exact ha.minX.append hb.minX
  minY := by
    rw [List.map_append]
    exact ha.minY.append hb.minY
  maxX := by
    rw [List.map_append]
    exact ha.maxX.append hb.maxX
  maxY := by
    rw [List.map_append]
    exact ha.maxY.append hb.maxY
  minZ := by
    rw [heights, List.filterMap_append]
    exact ha.minZ.merge hb.minZ IsLeastOf.append
  maxZ := by
    rw [heights, List.filterMap_append]
    exact ha.maxZ.merge hb.maxZ IsGreatestOf.append

theorem isTight_ofCoordinate {c : Coordinate} (hc : c.contributes = true) :
    (ofCoordinate c).IsTight [c] := by
  obtain ⟨hx, hy⟩ := Coordinate.contributes_iff.1 hc
  have hends : IsEnd IsLeastOf c.height? (heights [c]) ∧
      IsEnd IsGreatestOf c.height? (heights [c]) := by
    cases hz : c.height? with
    | none =>
      have hnil : heights [c] = [] := List.filterMap_cons_none hz
      rw [hnil]
      exact ⟨rfl, rfl⟩
    | some z =>
      have hnumber := Coordinate.isNaN_of_height? hz
      have hone : heights [c] = [z] := List.filterMap_cons_some hz
      rw [hone]
      exact ⟨Binary64.isLeastOf_singleton hnumber, Binary64.isGreatestOf_singleton hnumber⟩
  rw [ofCoordinate, if_pos hc]
  exact ⟨Binary64.isLeastOf_singleton hx, Binary64.isLeastOf_singleton hy,
    Binary64.isGreatestOf_singleton hx, Binary64.isGreatestOf_singleton hy, hends.1, hends.2⟩

/-! ## Around all of them -/

theorem ofCoordinates_singleton (c : Coordinate) : ofCoordinates [c] = ofCoordinate c :=
  calc ofCoordinates [c] = null.join (ofCoordinate c) := insert_eq_join hasNumbers_null c
    _ = ofCoordinate c := null_join (isSound_ofCoordinate c).hasNumbers

theorem ofCoordinates_tight (cs : List Coordinate) :
    (contributing cs = [] ∧ ofCoordinates cs = null) ∨
      (ofCoordinates cs).IsTight (contributing cs) := by
  induction cs with
  | nil => exact .inl ⟨rfl, rfl⟩
  | cons c rest ih =>
    rw [← List.singleton_append, ofCoordinates_append, ofCoordinates_singleton, contributing,
      List.filter_append, ← contributing, ← contributing]
    have hrest := (isSound_ofCoordinates rest).hasNumbers
    -- the null envelope gives way on either side, so only two tight ones are really joined
    cases hc : c.contributes with
    | false =>
      have hskip : contributing [c] = [] := List.filter_cons_of_neg (Bool.eq_false_iff.1 hc)
      rw [hskip, List.nil_append, ofCoordinate, hc, if_neg Bool.false_ne_true, null_join hrest]
      exact ih
    | true =>
      have hkeep : contributing [c] = [c] := List.filter_cons_of_pos hc
      have hfirst := isTight_ofCoordinate hc
      rw [hkeep]
      right
      obtain ⟨hnil, hnull⟩ | htight := ih
      · rwa [hnil, List.append_nil, hnull, join_null (isSound_ofCoordinate c).hasNumbers]
      · exact hfirst.join htight

theorem IsTight.ne_nil {e : Envelope} {cs : List Coordinate} (h : e.IsTight cs) : cs ≠ [] := by
  rintro rfl
  exact absurd h.minX.1 List.not_mem_nil

theorem IsTight.isNull_eq_false {e : Envelope} {cs : List Coordinate} (h : e.IsTight cs) :
    e.isNull = false :=
  isNull_eq_false_of_le (h.maxX.2 e.minX h.minX.1)

theorem isNull_ofCoordinates {cs : List Coordinate} :
    (ofCoordinates cs).isNull = true ↔ contributing cs = [] := by
  obtain ⟨hnil, hnull⟩ | htight := ofCoordinates_tight cs
  · rw [hnil, hnull]
    exact iff_of_true isNull_null rfl
  · rw [htight.isNull_eq_false]
    exact iff_of_false nofun htight.ne_nil

/-- Where the first two ordinates are numbers, only the envelope of no coordinates is null. -/
theorem isNull_ofCoordinates_iff {cs : List Coordinate}
    (hnumbers : ∀ c ∈ cs, c.x.isNaN = false ∧ c.y.isNaN = false) :
    (ofCoordinates cs).isNull = true ↔ cs = [] := by
  have hall : contributing cs = cs :=
    List.filter_eq_self.2 fun c hc => Coordinate.contributes_iff.2 (hnumbers c hc)
  rw [isNull_ofCoordinates, hall]

/-! ## Only the coordinates matter -/

section

variable {cs ds : List Coordinate} (hsame : ∀ c, c ∈ cs ↔ c ∈ ds)

include hsame

theorem IsTight.numEq {a b : Envelope} (ha : a.IsTight cs) (hb : b.IsTight ds) :
    a.numEq b = true := by
  have hordinates (f : Coordinate → Binary64) (x : Binary64) : x ∈ cs.map f ↔ x ∈ ds.map f := by
    simp only [List.mem_map, hsame]
  have hheights (z : Binary64) : z ∈ heights cs ↔ z ∈ heights ds := by
    simp only [heights, List.mem_filterMap, hsame]
  rw [Envelope.numEq, ha.minX.numEq (hordinates _) hb.minX, ha.minY.numEq (hordinates _) hb.minY,
    ha.maxX.numEq (hordinates _) hb.maxX, ha.maxY.numEq (hordinates _) hb.maxY,
    ha.minZ.boundEq hb.minZ And.left hheights (IsLeastOf.numEq hheights),
    ha.maxZ.boundEq hb.maxZ And.left hheights (IsGreatestOf.numEq hheights)]
  rfl

theorem ofCoordinates_numEq : (ofCoordinates cs).numEq (ofCoordinates ds) = true := by
  have hsame' (c : Coordinate) : c ∈ contributing cs ↔ c ∈ contributing ds := by
    rw [mem_contributing, mem_contributing, hsame]
  have hnil : contributing cs = [] ↔ contributing ds = [] := by
    simp only [List.eq_nil_iff_forall_not_mem, hsame']
  obtain ⟨hcs, hnull⟩ | htight := ofCoordinates_tight cs
  · obtain ⟨-, hnull'⟩ | htight' := ofCoordinates_tight ds
    · rw [hnull, hnull']
      decide
    · exact absurd (hnil.1 hcs) htight'.ne_nil
  · obtain ⟨hds, -⟩ | htight' := ofCoordinates_tight ds
    · exact absurd (hnil.2 hds) htight.ne_nil
    · exact htight.numEq hsame' htight'

end

end Envelope

/-! ## Geometries -/

namespace Geometry

theorem foldl_union_envelopes (gs : List Geometry) {e : Envelope} (h : e.IsSound) :
    (gs.map envelope).foldl Envelope.union e = (memberCoordinates gs).foldl Envelope.insert e := by
  induction gs generalizing e with
  | nil => rfl
  | cons g rest ih =>
    have hsound : g.envelope.IsSound := Envelope.isSound_ofCoordinates g.coordinates
    calc ((g :: rest).map envelope).foldl Envelope.union e
        = (rest.map envelope).foldl Envelope.union (e.union g.envelope) := rfl
      _ = (memberCoordinates rest).foldl Envelope.insert (e.union g.envelope) :=
        ih (h.union hsound)
      -- growing by an envelope or by its coordinates joins on the same envelope
      _ = (memberCoordinates rest).foldl Envelope.insert
          (g.coordinates.foldl Envelope.insert e) := by
        rw [Envelope.union_eq_join h hsound, Envelope.foldl_insert_eq_join h g.coordinates,
          envelope]
      _ = (memberCoordinates (g :: rest)).foldl Envelope.insert e := by
        rw [memberCoordinates, List.foldl_append]

/-- The envelope of a geometry is null if no coordinate has two numbers for its first ordinates, and
else is tight around those that have.  But for the signs of zeros, it is the same for geometries
with the same coordinates and for the members of a collection in any order; the envelope of a
collection is had by growing the null one by the envelopes of the members. -/
theorem envelope_is_tight (g : Geometry) (members : List Geometry) :
    (g.envelope.isNull = true ↔
      ∀ c ∈ g.coordinates, ¬ (c.x.isNaN = false ∧ c.y.isNaN = false)) ∧
    (g.envelope.isNull = true → g.envelope = .null) ∧
    (g.envelope.isNull = false → g.envelope.IsTight (contributing g.coordinates)) ∧
    (∀ g' : Geometry, (∀ c, c ∈ g.coordinates ↔ c ∈ g'.coordinates) →
      g.envelope.numEq g'.envelope = true) ∧
    (∀ members' : List Geometry, members.Perm members' →
      (collection members).envelope.numEq (collection members').envelope = true) ∧
    (collection members).envelope = (members.map envelope).foldl Envelope.union .null := by
  have hsound : g.envelope.IsSound := Envelope.isSound_ofCoordinates g.coordinates
  refine ⟨?_, hsound.isNull_iff.1, fun hnull => ?_, fun g' => Envelope.ofCoordinates_numEq,
    fun members' hperm => Envelope.ofCoordinates_numEq fun c => ?_, ?_⟩
  · rw [envelope, Envelope.isNull_ofCoordinates, contributing_eq_nil_iff]
  · obtain ⟨-, hnull'⟩ | htight := Envelope.ofCoordinates_tight g.coordinates
    · rw [envelope, hnull', Envelope.isNull_null] at hnull
      cases hnull
    · exact htight
  · rw [coordinates, coordinates, memberCoordinates_eq_flatMap, memberCoordinates_eq_flatMap]
    exact (hperm.flatMap_right coordinates).mem_iff
  · exact (foldl_union_envelopes members Envelope.isSound_null).symm

/-- Coordinates with an infinite ordinate, with negative zeros and with NaN in each place. -/
def roughPath : Path :=
  [⟨.zero, Binary64.infinity, some .nan⟩, ⟨⟨0x8000000000000000⟩, .zero, some ⟨0x4000000000000000⟩⟩,
    ⟨.nan, Binary64.negInfinity, some .zero⟩, .planar ⟨0x8000000000000000⟩ ⟨0x3ff0000000000000⟩]

def roughMembers : List Geometry :=
  [.point none, .multiPoint [some (.planar .nan .zero), none], .collection [.lineString roughPath]]

theorem envelope_is_tight_rough :
    ((collection roughMembers).envelope.isNull = false ∧
      (collection roughMembers).envelope.IsTight
        (contributing (collection roughMembers).coordinates)) ∧
    ((point none).envelope.isNull = true ∧ (point none).envelope = .null) ∧
    (collection roughMembers).envelope.numEq
      (collection roughMembers.reverse).envelope = true ∧
    (collection [.lineString roughPath]).envelope.numEq
      (multiPoint (roughPath.reverse.map some)).envelope = true ∧
    (collection roughMembers).envelope =
      (roughMembers.map envelope).foldl Envelope.union .null := by
  have hnull : (collection roughMembers).envelope.isNull = false ∧
      (point none).envelope.isNull = true := by decide
  have hreverse : (multiPoint (roughPath.reverse.map some)).coordinates =
      (collection [.lineString roughPath]).coordinates.reverse := rfl
  obtain ⟨-, -, htight, -, hmembers, hfold⟩ :=
    envelope_is_tight (collection roughMembers) roughMembers
  obtain ⟨-, -, -, hsame, -⟩ := envelope_is_tight (collection [.lineString roughPath]) []
  obtain ⟨-, hempty, -⟩ := envelope_is_tight (point none) []
  refine ⟨⟨hnull.1, htight hnull.1⟩, ⟨hnull.2, hempty hnull.2⟩,
    hmembers _ (List.reverse_perm _).symm, hsame _ fun c => ?_, hfold⟩
  rw [hreverse, List.mem_reverse]

end Geometry

end SpatialSql
