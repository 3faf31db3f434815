import SpatialSql.Proofs.Envelope.Joining
/-!
# The algebra of envelopes

Envelopes stand for the points in them.  Between boxes, containment and intersection are those of
their points, and growing one by another gives the least box around both.  The null envelope is the
identity of growing; it contains nothing and, though it has no points, is contained in nothing.
-/

namespace SpatialSql.Envelope

open Binary64 (le_trans min_le_max)

/-- The envelopes that are had from the null one and from corners without NaN by growing. -/
inductive Reached : Envelope → Prop
  | null : Reached null
  | corners {x₀ y₀ x₁ y₁ : Binary64} :
    x₀.isNaN = false → y₀.isNaN = false → x₁.isNaN = false → y₁.isNaN = false →
      Reached (ofCorners x₀ y₀ x₁ y₁)
  | corners3d {x₀ y₀ z₀ x₁ y₁ z₁ : Binary64} :
    x₀.isNaN = false → y₀.isNaN = false → z₀.isNaN = false →
      x₁.isNaN = false → y₁.isNaN = false → z₁.isNaN = false →
        Reached (ofCorners3d x₀ y₀ z₀ x₁ y₁ z₁)
  | insert {e : Envelope} : Reached e → (c : Coordinate) → Reached (e.insert c)
  | union {a b : Envelope} : Reached a → Reached b → Reached (a.union b)

theorem Reached.isSound {e : Envelope} (h : Reached e) : e.IsSound := by
  induction h with
  | null => exact isSound_null
  | corners hx₀ hy₀ hx₁ hy₁ =>
    exact .inr ⟨min_le_max hx₀ hx₁, min_le_max hy₀ hy₁, .inl ⟨rfl, rfl⟩⟩
  | corners3d hx₀ hy₀ hz₀ hx₁ hy₁ hz₁ =>
    exact .inr ⟨min_le_max hx₀ hx₁, min_le_max hy₀ hy₁,
      .inr ⟨_, _, rfl, rfl, min_le_max hz₀ hz₁⟩⟩
  | insert _ c ih => exact ih.insert c
  | union _ _ iha ihb => exact iha.union ihb

/-! ## Containment and intersection -/

theorem IsBox.containsPoint_iff {e : Envelope} (h : e.IsBox) {x y : Binary64} :
    e.containsPoint x y = true ↔
      e.minX.le x = true ∧ x.le e.maxX = true ∧ e.minY.le y = true ∧ y.le e.maxY = true := by
  simp [containsPoint, h.isNull_eq_false, and_assoc]

theorem contains_iff {a b : Envelope} :
    a.contains b = true ↔ (a.isNull = false ∧ b.isNull = false) ∧
      a.minX.le b.minX = true ∧ b.maxX.le a.maxX = true ∧
      a.minY.le b.minY = true ∧ b.maxY.le a.maxY = true := by
  simp [contains, and_assoc]

theorem intersects_iff {a b : Envelope} :
    a.intersects b = true ↔ (a.isNull = false ∧ b.isNull = false) ∧
      a.minX.le b.maxX = true ∧ b.minX.le a.maxX = true ∧
      a.minY.le b.maxY = true ∧ b.minY.le a.maxY = true := by
  simp [intersects, and_assoc]

section

variable {a b : Envelope} (ha : a.IsBox) (hb : b.IsBox)

include ha hb

theorem IsBox.contains_iff_points :
    a.contains b = true ↔ ∀ x y, b.containsPoint x y = true → a.containsPoint x y = true := by
  rw [contains_iff]
  constructor
  · rintro ⟨-, hlowX, hhighX, hlowY, hhighY⟩ x y hpoint
    rw [hb.containsPoint_iff] at hpoint
    rw [ha.containsPoint_iff]
    obtain ⟨hx, hx', hy, hy'⟩ := hpoint
    exact ⟨le_trans hlowX hx, le_trans hx' hhighX, le_trans hlowY hy, le_trans hy' hhighY⟩
  · intro hpoints
    have hb' := hb.hasNumbers
    -- two opposite corners are enough
    have hlow := hpoints b.minX b.minY (hb.containsPoint_iff.2
      ⟨Binary64.le_refl hb'.minX, hb.x, Binary64.le_refl hb'.minY, hb.y⟩)
    have hhigh := hpoints b.maxX b.maxY (hb.containsPoint_iff.2
      ⟨hb.x, Binary64.le_refl hb'.maxX, hb.y, Binary64.le_refl hb'.maxY⟩)
    rw [ha.containsPoint_iff] at hlow hhigh
    exact ⟨⟨ha.isNull_eq_false, hb.isNull_eq_false⟩, hlow.1, hhigh.2.1, hlow.2.2.1,
      hhigh.2.2.2⟩

theorem IsBox.intersects_iff_point :
    a.intersects b = true ↔ ∃ x y, a.containsPoint x y = true ∧ b.containsPoint x y = true := by
  rw [intersects_iff]
  constructor
  · rintro ⟨-, hx, hx', hy, hy'⟩
    have ha' := ha.hasNumbers
    have hb' := hb.hasNumbers
    refine ⟨a.minX.max b.minX, a.minY.max b.minY, ?_, ?_⟩
    · rw [ha.containsPoint_iff]
      exact ⟨Binary64.le_max_left ha'.minX hb'.minX, Binary64.max_le ha.x hx',
        Binary64.le_max_left ha'.minY hb'.minY, Binary64.max_le ha.y hy'⟩
    · rw [hb.containsPoint_iff]
      exact ⟨Binary64.le_max_right ha'.minX hb'.minX, Binary64.max_le hx hb.x,
        Binary64.le_max_right ha'.minY hb'.minY, Binary64.max_le hy hb.y⟩
  · rintro ⟨x, y, hpoint, hpoint'⟩
    rw [ha.containsPoint_iff] at hpoint
    rw [hb.containsPoint_iff] at hpoint'
    obtain ⟨hax, hax', hay, hay'⟩ := hpoint
    obtain ⟨hbx, hbx', hby, hby'⟩ := hpoint'
    exact ⟨⟨ha.isNull_eq_false, hb.isNull_eq_false⟩, le_trans hax hbx', le_trans hbx hax',
      le_trans hay hby', le_trans hby hay'⟩

/-! ## The least box around two -/

theorem IsBox.join_contains : (a.join b).contains a = true ∧ (a.join b).contains b = true := by
  have ha' := ha.hasNumbers
  have hb' := hb.hasNumbers
  have hjoin := (ha.join hb).isNull_eq_false
  constructor
  · exact contains_iff.2 ⟨⟨hjoin, ha.isNull_eq_false⟩, Binary64.min_le_left ha'.minX hb'.minX,
      Binary64.le_max_left ha'.maxX hb'.maxX, Binary64.min_le_left ha'.minY hb'.minY,
      Binary64.le_max_left ha'.maxY hb'.maxY⟩
  · exact contains_iff.2 ⟨⟨hjoin, hb.isNull_eq_false⟩, Binary64.min_le_right ha'.minX hb'.minX,
      Binary64.le_max_right ha'.maxX hb'.maxX, Binary64.min_le_right ha'.minY hb'.minY,
      Binary64.le_max_right ha'.maxY hb'.maxY⟩

theorem IsBox.contains_join {e : Envelope} (hea : e.contains a = true)
    (heb : e.contains b = true) : e.contains (a.join b) = true := by
  obtain ⟨⟨henull, -⟩, hax, hax', hay, hay'⟩ := contains_iff.1 hea
  obtain ⟨-, hbx, hbx', hby, hby'⟩ := contains_iff.1 heb
  exact contains_iff.2 ⟨⟨henull, (ha.join hb).isNull_eq_false⟩, Binary64.le_min hax hbx,
    Binary64.max_le hax' hbx', Binary64.le_min hay hby, Binary64.max_le hay' hby'⟩

end

theorem IsBox.contains_self {e : Envelope} (h : e.IsBox) : e.contains e = true := by
  have hcontains := (h.join_contains h).1
  rwa [join_self] at hcontains

section

variable {a b : Envelope} (ha : a.IsSound) (hb : b.IsSound)

include ha hb

theorem IsSound.union_contains :
    (a.isNull = false → (a.union b).contains a = true) ∧
      (b.isNull = false → (a.union b).contains b = true) := by
  rw [union_eq_join ha hb]
  obtain rfl | hbox := ha
  · rw [null_join hb.hasNumbers, isNull_null]
    exact ⟨nofun, fun hnull => (hb.isBox hnull).contains_self⟩
  · obtain rfl | hbox' := hb
    · rw [join_null hbox.hasNumbers, isNull_null]
      exact ⟨fun _ => hbox.contains_self, nofun⟩
    · exact ⟨fun _ => (hbox.join_contains hbox').1, fun _ => (hbox.join_contains hbox').2⟩

theorem IsSound.contains_union {e : Envelope} (hnull : (a.isNull && b.isNull) = false)
    (hea : a.isNull = false → e.contains a = true) (heb : b.isNull = false → e.contains b = true) :
    e.contains (a.union b) = true := by
  rw [union_eq_join ha hb]
  obtain rfl | hbox := ha
  · rw [null_join hb.hasNumbers]
    rw [isNull_null, Bool.true_and] at hnull
    exact heb hnull
  · obtain rfl | hbox' := hb
    · rw [join_null hbox.hasNumbers]
      exact hea hbox.isNull_eq_false
    · exact hbox.contains_join hbox' (hea hbox.isNull_eq_false) (heb hbox'.isNull_eq_false)

end

/-! ## The order of the two -/

theorem IsSound.isNaN_heights {e : Envelope} (h : e.IsSound) :
    (∀ z, e.minZ = some z → z.isNaN = false) ∧ ∀ z, e.maxZ = some z → z.isNaN = false := by
  obtain rfl | hbox := h
  · exact ⟨nofun, nofun⟩
  · obtain ⟨hlow, hhigh⟩ | ⟨low, high, hlow, hhigh, hle⟩ := hbox.z
    · rw [hlow, hhigh]
      exact ⟨nofun, nofun⟩
    · rw [hlow, hhigh]
      obtain ⟨hlow, hhigh, -⟩ := Binary64.le_eq_true_iff.1 hle
      exact ⟨fun z hz => Option.some.inj hz ▸ hlow, fun z hz => Option.some.inj hz ▸ hhigh⟩

theorem boundEq_merge_comm {f : Binary64 → Binary64 → Binary64}
    (hf : ∀ {x y}, x.isNaN = false → y.isNaN = false → (f x y).numEq (f y x) = true)
    {m n : Option Binary64} (hm : ∀ z, m = some z → z.isNaN = false)
    (hn : ∀ z, n = some z → z.isNaN = false) : boundEq (m.merge f n) (n.merge f m) = true := by
  cases m with
  | none =>
    cases n with
    | none => rfl
    | some y =>
      rw [Option.merge_none_left, Option.merge_none_right, boundEq, Binary64.numEq_self, hn y rfl]
      rfl
  | some x =>
    cases n with
    | none =>
      rw [Option.merge_none_left, Option.merge_none_right, boundEq, Binary64.numEq_self, hm x rfl]
      rfl
    | some y => exact hf (hm x rfl) (hn y rfl)

theorem IsSound.union_comm {a b : Envelope} (ha : a.IsSound) (hb : b.IsSound) :
    (a.union b).numEq (b.union a) = true := by
  have ha' := ha.hasNumbers
  have hb' := hb.hasNumbers
  have hlow := boundEq_merge_comm Binary64.min_comm ha.isNaN_heights.1 hb.isNaN_heights.1
  have hhigh := boundEq_merge_comm Binary64.max_comm ha.isNaN_heights.2 hb.isNaN_heights.2
  rw [union_eq_join ha hb, union_eq_join hb ha]
  simp only [numEq, Envelope.join, Binary64.min_comm ha'.minX hb'.minX,
    Binary64.min_comm ha'.minY hb'.minY, Binary64.max_comm ha'.maxX hb'.maxX,
    Binary64.max_comm ha'.maxY hb'.maxY, hlow, hhigh, Bool.and_self]

/-- The algebra of the envelopes that can be reached.  Only one of them is null, and the others have
ordered bounds.  Containment and intersection of two that are not null are those of their points.
Growing one by another gives the least envelope that contains whichever of the two is not null; it
is commutative but for the signs of zeros, associative and idempotent, and the null envelope is its
identity, the third ordinate included. -/
theorem envelope_algebra (a b c : Envelope) (ha : Reached a) (hb : Reached b) (hc : Reached c) :
    ((a.isNull = true ↔ a = null) ∧
      (a.isNull = false → a.minX.le a.maxX = true ∧ a.minY.le a.maxY = true ∧
        ∀ low high, a.minZ = some low → a.maxZ = some high → low.le high = true) ∧
      (a.minZ.isSome = true ↔ a.maxZ.isSome = true)) ∧
    (a.isNull = false → b.isNull = false →
      (a.contains b = true ↔
        ∀ x y, b.containsPoint x y = true → a.containsPoint x y = true) ∧
      (a.intersects b = true ↔
        ∃ x y, a.containsPoint x y = true ∧ b.containsPoint x y = true)) ∧
    ((a.isNull = false → (a.union b).contains a = true) ∧
      (b.isNull = false → (a.union b).contains b = true) ∧
      ∀ e : Envelope, (a.isNull && b.isNull) = false →
        (a.isNull = false → e.contains a = true) → (b.isNull = false → e.contains b = true) →
          e.contains (a.union b) = true) ∧
    (a.union b).numEq (b.union a) = true ∧
    (a.union b).union c = a.union (b.union c) ∧
    a.union a = a ∧ null.union a = a ∧ a.union null = a := by
  have hsa := ha.isSound
  have hsb := hb.isSound
  have hsc := hc.isSound
  refine ⟨⟨hsa.isNull_iff, fun hnull => ?_, ?_⟩, fun hnull hnull' => ⟨?_, ?_⟩,
    ⟨(hsa.union_contains hsb).1, (hsa.union_contains hsb).2, fun e => ?_⟩, hsa.union_comm hsb,
    ?_, ?_, ?_, ?_⟩
  · have hbox := hsa.isBox hnull
    refine ⟨hbox.x, hbox.y, fun low high hlow hhigh => ?_⟩
    obtain ⟨hnone, -⟩ | ⟨low', high', hlow', hhigh', hle⟩ := hbox.z
    · rw [hnone] at hlow
      cases hlow
    · rw [hlow', Option.some.injEq] at hlow
      rw [hhigh', Option.some.injEq] at hhigh
      rwa [hlow, hhigh] at hle
  · obtain rfl | hbox := hsa
    · exact Iff.rfl
    · obtain ⟨hlow, hhigh⟩ | ⟨low, high, hlow, hhigh, -⟩ := hbox.z
      · rw [hlow, hhigh]
      · rw [hlow, hhigh]
        exact iff_of_true rfl rfl
  · exact (hsa.isBox hnull).contains_iff_points (hsb.isBox hnull')
  · exact (hsa.isBox hnull).intersects_iff_point (hsb.isBox hnull')
  · exact hsa.contains_union hsb
  · rw [union_eq_join hsa hsb, union_eq_join hsb hsc, union_eq_join (hsa.join hsb) hsc,
      union_eq_join hsa (hsb.join hsc), join_assoc]
  · rw [union_eq_join hsa hsa, join_self]
  · rw [union_eq_join isSound_null hsa, null_join hsa.hasNumbers]
  · rw [union_eq_join hsa isSound_null, join_null hsa.hasNumbers]

def grownCube : Envelope :=
  (ofCorners3d .zero .zero .zero ⟨0x3ff0000000000000⟩ ⟨0x3ff0000000000000⟩
    ⟨0x3ff0000000000000⟩).insert ⟨Binary64.infinity, ⟨0x8000000000000000⟩, some .nan⟩

def flatSquare : Envelope :=
  (ofCorners ⟨0x3ff0000000000000⟩ .zero ⟨0xbff0000000000000⟩ ⟨0x3ff0000000000000⟩).union null

theorem reached_grownCube : Reached grownCube :=
  .insert (.corners3d rfl rfl rfl rfl rfl rfl) _

theorem reached_flatSquare : Reached flatSquare := .union (.corners rfl rfl rfl rfl) .null

theorem envelope_algebra_grown :
    (Reached grownCube ∧ Reached flatSquare ∧ Reached null) ∧
      (grownCube.isNull = false ∧ flatSquare.isNull = false) ∧
      (grownCube.union flatSquare).contains grownCube = true ∧
      (∃ x y, grownCube.containsPoint x y = true ∧ flatSquare.containsPoint x y = true) ∧
      (grownCube.union flatSquare).numEq (flatSquare.union grownCube) = true := by
  have hnull : grownCube.isNull = false ∧ flatSquare.isNull = false := by decide
  have halgebra := envelope_algebra grownCube flatSquare null reached_grownCube reached_flatSquare
    .null
  obtain ⟨-, hpoints, ⟨hcontains, -⟩, hcomm, -⟩ := halgebra
  refine ⟨⟨reached_grownCube, reached_flatSquare, .null⟩, hnull, hcontains hnull.1, ?_, hcomm⟩
  exact (hpoints hnull.1 hnull.2).2.1 (by decide)

/-- A null envelope is not contained in what it has been joined to. -/
theorem not_every_union_contains_both :
    ¬ ∀ a b, Reached a → Reached b →
      (a.union b).contains a = true ∧ (a.union b).contains b = true := by
  intro h
  have hcontains := (h null flatSquare .null reached_flatSquare).1
  exact absurd hcontains (by decide)

end SpatialSql.Envelope
