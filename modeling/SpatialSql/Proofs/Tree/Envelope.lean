import SpatialSql.Geometry.Equality
import SpatialSql.Proofs.Envelope.Algebra
import SpatialSql.Proofs.Geometry.Parts
import SpatialSql.Proofs.Tree.Geometry
/-!
# Envelopes from documents

A document has null for the null envelope and for no other.  A bound in the plane that is infinite
is not read back, so that nothing is; an infinite bound of the third ordinate is taken for one that
is absent, and the envelope comes back without it.
-/

namespace SpatialSql

theorem Tree.optional_map_ofNumber (z : Option Binary64) :
    optional number? (z.map ofNumber) = some (z.filter Binary64.isFinite) := by
  cases z with
  | none => rfl
  | some w => exact optional_ofNumber (some w)

namespace Envelope

/-- Whether a document has numbers for the bounds in the plane. -/
def isPlaced (e : Envelope) : Bool :=
  e.minX.isFinite && e.minY.isFinite && e.maxX.isFinite && e.maxY.isFinite

def stored (e : Envelope) : Envelope :=
  { e with minZ := e.minZ.filter Binary64.isFinite, maxZ := e.maxZ.filter Binary64.isFinite }

theorem stored_eq_self_iff {e : Envelope} :
    e.stored = e ↔ ∀ z, e.minZ = some z ∨ e.maxZ = some z → z.isFinite = true := by
  obtain ⟨minX, minY, maxX, maxY, minZ, maxZ⟩ := e
  simp only [stored, Envelope.mk.injEq, true_and, or_imp, forall_and]
  exact and_congr filter_eq_self_iff filter_eq_self_iff

theorem record?_toTree {e : Envelope} (h : e.isNull = false) :
    e.toTree.record? ["min_x", "min_y", "max_x", "max_y", "min_z", "max_z"] 4 =
      some [some (.ofNumber e.minX), some (.ofNumber e.minY), some (.ofNumber e.maxX),
        some (.ofNumber e.maxY), e.minZ.map .ofNumber, e.maxZ.map .ofNumber] := by
  unfold toTree
  rw [h]
  cases e.minZ <;> cases e.maxZ <;> rfl

theorem ofTree?_toTree {e : Envelope} (h : e.isNull = false) :
    ofTree? e.toTree = if e.isPlaced then some e.stored else none := by
  have hbounds : ofTree? e.toTree = ofBounds? e.toTree := by
    unfold toTree
    rw [h]
    rfl
  rw [hbounds, isPlaced, Tree.if_and, Tree.if_and, Tree.if_and]
  simp only [ofBounds?, record?_toTree h, Option.bind_eq_bind, Option.bind_some,
    Tree.required_ofNumber_bind, Tree.optional_map_ofNumber]
  rfl

theorem Reached.ofTree?_toTree {e : Envelope} (h : Reached e) :
    ofTree? e.toTree = if e.isNull || e.isPlaced then some e.stored else none := by
  cases hnull : e.isNull with
  | false => rw [Envelope.ofTree?_toTree hnull, Bool.false_or]
  | true =>
    -- the null envelope is the only one, so that null stands for no other
    rw [h.isSound.isNull_iff.1 hnull]
    rfl

/-- What is read back from the documents of the envelopes that can be reached and of geometries.
An infinite or undefined number in the plane, unless it is of the null envelope, is refused.
Otherwise the value is read back with its finite heights alone, which is the value itself exactly
if it has no others. -/
theorem documents_keep_finite_heights (e : Envelope) (he : Reached e) (g : Geometry) :
    (ofTree? e.toTree = if e.isNull || e.isPlaced then some e.stored else none) ∧
    (e.stored = e ↔ ∀ z, e.minZ = some z ∨ e.maxZ = some z → z.isFinite = true) ∧
    (Geometry.ofTree? g.toTree = if g.isPlaced then some g.stored else none) ∧
    (g.stored = g ↔ ∀ c ∈ g.coordinates, ∀ z ∈ c.z, z.isFinite = true) ∧
    ofTree? null.toTree = some null ∧
    (e.isPlaced = true → (∀ z, e.minZ = some z ∨ e.maxZ = some z → z.isFinite = true) →
      ofTree? e.toTree = some e) ∧
    ((∀ c ∈ g.coordinates, c.IsFinite) → Geometry.ofTree? g.toTree = some g) := by
  refine ⟨he.ofTree?_toTree, stored_eq_self_iff, g.ofTree?_toTree_eq, Geometry.stored_eq_self_iff,
    rfl, fun hplaced hheights => ?_, g.ofTree?_toTree⟩
  rw [he.ofTree?_toTree, hplaced, Bool.or_true, if_pos rfl, stored_eq_self_iff.2 hheights]

/-- A cube whose bottom is infinitely deep. -/
def bottomlessCube : Envelope :=
  ofCorners3d .zero .zero Binary64.negInfinity ⟨0x3ff0000000000000⟩ ⟨0x3ff0000000000000⟩
    ⟨0x4014000000000000⟩

def highPoint : Geometry := .point (some ⟨.zero, .zero, some Binary64.infinity⟩)

theorem reached_bottomlessCube : Reached bottomlessCube := .corners3d rfl rfl rfl rfl rfl rfl

theorem documents_keep_finite_heights_bottomless :
    Reached bottomlessCube ∧
      ofTree? bottomlessCube.toTree = some { bottomlessCube with minZ := none } ∧
      Geometry.ofTree? highPoint.toTree = some (.point (some (.planar .zero .zero))) ∧
      ofTree? grownCube.toTree = none := by
  obtain ⟨hcube, -, hpoint, -⟩ :=
    documents_keep_finite_heights bottomlessCube reached_bottomlessCube highPoint
  have hgrown := (documents_keep_finite_heights grownCube reached_grownCube highPoint).1
  refine ⟨reached_bottomlessCube, hcube.trans ?_, hpoint.trans ?_, hgrown.trans ?_⟩
  · decide
  · decide
  · decide

/-- A document loses an infinite height without a word, of an envelope as of a geometry. -/
theorem not_every_document_keeps_its_value :
    (¬ ∀ e e', Reached e → ofTree? e.toTree = some e' → e'.numEq e = true) ∧
    ¬ ∀ g g' : Geometry, g.HasRings →
      (∀ c ∈ g.coordinates, c.x.isNaN = false ∧ c.y.isNaN = false ∧ ∀ z ∈ c.z, z.isNaN = false) →
        Geometry.ofTree? g.toTree = some g' → g'.numEq g = true := by
  constructor
  · intro h
    have hequal := h bottomlessCube { bottomlessCube with minZ := none } reached_bottomlessCube
      (by decide)
    exact absurd hequal (by decide)
  · intro h
    have hequal := h highPoint (.point (some (.planar .zero .zero))) nofun (by decide) (by decide)
    exact absurd hequal (by decide)

end Envelope

end SpatialSql
