import SpatialSql.Proofs.Envelope.Algebra
import SpatialSql.Proofs.Envelope.Tightness
/-!
# The least envelope around several

Growing the null envelope by several others gives the least envelope around them.  Up to the signs
of zeros there is only one, whatever their order and however often one occurs.
-/

namespace SpatialSql.Envelope

open Binary64 (IsLeastOf IsGreatestOf)

/-! ## Containment as an order -/

theorem contains_trans {a b c : Envelope} (hab : a.contains b = true) (hbc : b.contains c = true) :
    a.contains c = true := by
  obtain ⟨⟨ha, -⟩, hx, hx', hy, hy'⟩ := contains_iff.1 hab
  obtain ⟨⟨-, hc⟩, hlowX, hhighX, hlowY, hhighY⟩ := contains_iff.1 hbc
  exact contains_iff.2 ⟨⟨ha, hc⟩, Binary64.le_trans hx hlowX, Binary64.le_trans hhighX hx',
    Binary64.le_trans hy hlowY, Binary64.le_trans hhighY hy'⟩

theorem numEq_of_contains {a b : Envelope} (hab : a.contains b = true) (hba : b.contains a = true)
    (hlow : boundEq a.minZ b.minZ = true) (hhigh : boundEq a.maxZ b.maxZ = true) :
    a.numEq b = true := by
  obtain ⟨-, hx, hx', hy, hy'⟩ := contains_iff.1 hab
  obtain ⟨-, hlowX, hhighX, hlowY, hhighY⟩ := contains_iff.1 hba
  simp only [numEq, Binary64.numEq_of_le hx hlowX, Binary64.numEq_of_le hhighX hx',
    Binary64.numEq_of_le hy hlowY, Binary64.numEq_of_le hhighY hy', hlow, hhigh, Bool.and_self]

/-! ## Least around a list -/

/-- It contains them, whatever contains them contains it, and its third ordinate goes from the least
to the greatest of theirs. -/
structure IsLeastAround (e : Envelope) (es : List Envelope) : Prop where
  contains : ∀ x ∈ es, e.contains x = true
  least : ∀ b : Envelope, (∀ x ∈ es, b.contains x = true) → b.contains e = true
  minZ : IsEnd IsLeastOf e.minZ (es.filterMap Envelope.minZ)
  maxZ : IsEnd IsGreatestOf e.maxZ (es.filterMap Envelope.maxZ)

theorem IsBox.isLeastAround {e : Envelope} (h : e.IsBox) : e.IsLeastAround [e] where
  contains := List.forall_mem_singleton.2 h.contains_self
  least _ hb := hb e (List.mem_singleton_self e)
  minZ := by
    obtain ⟨hlow, -⟩ | ⟨low, high, hlow, -, hle⟩ := h.z
    · rw [List.filterMap_cons_none hlow, hlow]
      rfl
    · rw [List.filterMap_cons_some hlow, hlow]
      exact Binary64.isLeastOf_singleton (Binary64.le_eq_true_iff.1 hle).1
  maxZ := by
    obtain ⟨-, hhigh⟩ | ⟨low, high, -, hhigh, hle⟩ := h.z
    · rw [List.filterMap_cons_none hhigh, hhigh]
      rfl
    · rw [List.filterMap_cons_some hhigh, hhigh]
      exact Binary64.isGreatestOf_singleton (Binary64.le_eq_true_iff.1 hle).2.1

theorem IsLeastAround.join {a b : Envelope} {es fs : List Envelope} (ha : a.IsLeastAround es)
    (hb : b.IsLeastAround fs) (habox : a.IsBox) (hbbox : b.IsBox) :
    (a.join b).IsLeastAround (es ++ fs) where
  contains := by
    have hjoin := habox.join_contains hbbox
    exact List.forall_mem_append.2 ⟨fun x hx => contains_trans hjoin.1 (ha.contains x hx),
      fun x hx => contains_trans hjoin.2 (hb.contains x hx)⟩
  least c hc := by
    rw [List.forall_mem_append] at hc
    exact habox.contains_join hbbox (ha.least c hc.1) (hb.least c hc.2)
  minZ := by
    rw [List.filterMap_append]
    exact ha.minZ.merge hb.minZ IsLeastOf.append
  maxZ := by
    rw [List.filterMap_append]
    exact ha.maxZ.merge hb.maxZ IsGreatestOf.append

theorem IsLeastAround.foldl {e : Envelope} {seen : List Envelope} (h : e.IsLeastAround seen)
    (hbox : e.IsBox) {es : List Envelope} (hes : ∀ x ∈ es, x.IsBox) :
    (es.foldl union e).IsBox ∧ (es.foldl union e).IsLeastAround (seen ++ es) := by
  induction es generalizing e seen with
  | nil => exact ⟨hbox, by rwa [List.append_nil]⟩
  | cons x rest ih =>
    rw [List.forall_mem_cons] at hes
    have hunion : e.union x = e.join x := union_eq_join (.inr hbox) (.inr hes.1)
    have hnext := h.join hes.1.isLeastAround hbox hes.1
    rw [List.foldl_cons, hunion, ← List.singleton_append, ← List.append_assoc]
    exact ih hnext (hbox.join hes.1) hes.2

theorem isLeastAround_foldl {es : List Envelope} (hes : ∀ x ∈ es, x.IsBox) (hne : es ≠ []) :
    (es.foldl union null).IsBox ∧ (es.foldl union null).IsLeastAround es := by
  cases es with
  | nil => exact absurd rfl hne
  | cons x rest =>
    rw [List.forall_mem_cons] at hes
    have hfirst : null.union x = x := by
      rw [union_eq_join isSound_null (.inr hes.1), null_join hes.1.hasNumbers]
    rw [List.foldl_cons, hfirst]
    exact hes.1.isLeastAround.foldl hes.1 hes.2

theorem IsLeastAround.numEq {a b : Envelope} {es fs : List Envelope} (ha : a.IsLeastAround es)
    (hb : b.IsLeastAround fs) (hsame : ∀ e, e ∈ es ↔ e ∈ fs) : a.numEq b = true := by
  have hbounds (bound : Envelope → Option Binary64) (z : Binary64) :
      z ∈ es.filterMap bound ↔ z ∈ fs.filterMap bound := by
    simp only [List.mem_filterMap, hsame]
  apply numEq_of_contains
  · exact hb.least a fun x hx => ha.contains x ((hsame x).2 hx)
  · exact ha.least b fun x hx => hb.contains x ((hsame x).1 hx)
  · exact ha.minZ.boundEq hb.minZ And.left (hbounds _) (IsLeastOf.numEq (hbounds _))
  · exact ha.maxZ.boundEq hb.maxZ And.left (hbounds _) (IsGreatestOf.numEq (hbounds _))

end SpatialSql.Envelope
