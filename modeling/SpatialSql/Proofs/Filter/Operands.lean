import SpatialSql.Proofs.Filter.Compilation
/-!
# The order of operands

A condition that was written with the geometry first compiles as another one does that was written
with the column first: a relation as its converse, a bound on a distance as the opposite bound.
Nothing around the condition can tell the two apart, since what a filter compiles to depends on a
condition in it only through what that compiles to.
-/

namespace SpatialSql.Filter

def DistanceBound.opposite : DistanceBound → DistanceBound
  | .within => .beyond
  | .beyond => .within

/-! ## Positions in a filter -/

/-- A filter in which one condition, a part of it, is left open. -/
inductive Frame where
  | all (before behind : List Predicate)
  | any (before behind : List Predicate)
  | not

def Frame.fill (p : Predicate) : Frame → Predicate
  | .all before behind => .all (before ++ p :: behind)
  | .any before behind => .any (before ++ p :: behind)
  | .not => .not p

/-- A position at any depth: the frames around it, the outermost first. -/
abbrev Position := List Frame

def Position.fill (frames : Position) (p : Predicate) : Predicate :=
  frames.foldr (fun frame inner => frame.fill inner) p

namespace Compiler

variable (c : Compiler)

/-- The results of compiling a list of conditions, given that of one of them. -/
def compileAround (before behind : List Predicate) (result : Except Unsupported String) :
    Except Unsupported (List String) := do
  let front ← c.compileAll before
  let condition ← result
  let back ← c.compileAll behind
  return front ++ condition :: back

/-- The result of compiling a frame, given that of the condition in it. -/
def compileFrame (result : Except Unsupported String) : Frame → Except Unsupported String
  | .all before behind => (c.compileAround before behind result).map (joined " AND ")
  | .any before behind => (c.compileAround before behind result).map (joined " OR ")
  | .not => result.map fun sql => "NOT (" ++ sql ++ ")"

theorem compileAll_around (before behind : List Predicate) (p : Predicate) :
    c.compileAll (before ++ p :: behind) = c.compileAround before behind (c.compile p) := by
  induction before with
  | nil => rfl
  | cons first before ih =>
    rw [List.cons_append, compileAll, ih, compileAround, compileAround, compileAll]
    cases c.compile first with
    | error fault => rfl
    | ok sql =>
      cases c.compileAll before with
      | error fault => rfl
      | ok front =>
        cases c.compile p with
        | error fault => rfl
        | ok condition => cases c.compileAll behind <;> rfl

theorem compile_fill_frame (frame : Frame) (p : Predicate) :
    c.compile (frame.fill p) = c.compileFrame (c.compile p) frame := by
  have hall {ps : List Predicate} (hne : ps ≠ []) :
      c.compile (.all ps) = (c.compileAll ps).map (joined " AND ") ∧
        c.compile (.any ps) = (c.compileAll ps).map (joined " OR ") := by
    obtain ⟨first, rest, rfl⟩ := List.exists_cons_of_ne_nil hne
    exact ⟨rfl, rfl⟩
  have hne (before behind : List Predicate) : before ++ p :: behind ≠ [] := by simp
  cases frame with
  | all before behind =>
    rw [Frame.fill, (hall (hne before behind)).1, compileAll_around, compileFrame]
  | any before behind =>
    rw [Frame.fill, (hall (hne before behind)).2, compileAll_around, compileFrame]
  | not => rfl

theorem compile_fill (frames : Position) (p : Predicate) :
    c.compile (frames.fill p) = frames.foldr (fun frame result => c.compileFrame result frame)
      (c.compile p) := by
  induction frames with
  | nil => rfl
  | cons frame frames ih =>
    rw [Position.fill, List.foldr_cons, ← Position.fill, compile_fill_frame, ih, List.foldr_cons]

end Compiler

/-! ## Results that differ in a name -/

/-- Results that are the same, or the refusals of one limit that is not finite, where one names a
bound and the other names the opposite bound. -/
inductive SameButForName (bound : DistanceBound) (limit : Binary64) :
    (x y : Except Unsupported α) → Prop
  | same (x : Except Unsupported α) : SameButForName bound limit x x
  | renamed : limit.isFinite = false →
    SameButForName bound limit (.error (.distance bound limit))
      (.error (.distance bound.opposite limit))

namespace SameButForName

variable {bound : DistanceBound} {limit : Binary64} {x y : Except Unsupported α}

theorem bind (h : SameButForName bound limit x y) (f : α → Except Unsupported β) :
    SameButForName bound limit (x >>= f) (y >>= f) := by
  cases h with
  | same x => exact .same _
  | renamed hlimit => exact .renamed hlimit

theorem behind (z : Except Unsupported β) {f g : β → Except Unsupported α}
    (h : ∀ b, SameButForName bound limit (f b) (g b)) :
    SameButForName bound limit (z >>= f) (z >>= g) := by
  cases z with
  | error fault => exact .same _
  | ok b => exact h b

theorem map (h : SameButForName bound limit x y) (f : α → β) :
    SameButForName bound limit (x.map f) (y.map f) := by
  cases h with
  | same x => exact .same _
  | renamed hlimit => exact .renamed hlimit

theorem eq_of_isFinite (h : SameButForName bound limit x y) (hlimit : limit.isFinite = true) :
    x = y := by
  cases h with
  | same x => rfl
  | renamed hinfinite =>
    rw [hlimit] at hinfinite
    cases hinfinite

end SameButForName

namespace Compiler

variable (c : Compiler) {bound : DistanceBound} {limit : Binary64}

theorem sameButForName_frame {x y : Except Unsupported String}
    (h : SameButForName bound limit x y) (frame : Frame) :
    SameButForName bound limit (c.compileFrame x frame) (c.compileFrame y frame) := by
  have haround (before behind : List Predicate) :
      SameButForName bound limit (c.compileAround before behind x)
        (c.compileAround before behind y) :=
    .behind _ fun front => h.bind _
  cases frame with
  | all before behind => exact (haround before behind).map _
  | any before behind => exact (haround before behind).map _
  | not => exact h.map _

theorem sameButForName_fill {p q : Predicate}
    (h : SameButForName bound limit (c.compile p) (c.compile q)) (frames : Position) :
    SameButForName bound limit (c.compile (frames.fill p)) (c.compile (frames.fill q)) := by
  rw [compile_fill, compile_fill]
  induction frames with
  | nil => exact h
  | cons frame frames ih => exact c.sameButForName_frame ih frame

/-! ## Operands that change places -/

theorem relation_swapped (op : Relation) (name : String) (g : Geometry) :
    c.relation op name g true = c.relation op.converse name g false := by
  have hdisjoint : op.converse = .disjoint ↔ op = .disjoint := by cases op <;> decide
  have hbox : op.converse = .boundingBox ↔ op = .boundingBox := by cases op <;> decide
  simp only [relation, hdisjoint, hbox, if_true, Bool.false_eq_true, if_false]

theorem distance_swapped (bound : DistanceBound) (name : String) (g : Geometry)
    (limit : Binary64) : SameButForName bound limit (distance bound name g limit true)
      (distance bound.opposite name g limit false) := by
  have hwithin : ((bound == .within) != true) = ((bound.opposite == .within) != false) := by
    cases bound <;> rfl
  cases hlimit : limit.isFinite with
  | false =>
    simp only [distance, hlimit]
    exact .renamed hlimit
  | true =>
    simp only [distance, hlimit, hwithin]
    exact .same _

/-- A relation between a geometry and a column, in that order, compiles as the converse relation
between the column and the geometry, at whatever position of a filter.  A bound on a distance
compiles as the opposite bound, and where the limit is refused the names of the two bounds make the
only difference. -/
theorem compile_swapped_operands (c : Compiler) (frames : Position) (op : Relation)
    (bound : DistanceBound) (name : String) (g : Geometry) (limit : Binary64) :
    (op.converse = if op = .within then .contains else if op = .contains then .within else op) ∧
    c.compile (frames.fill (.ofRelation op (.geometry g) (.property name))) =
      c.compile (frames.fill (.ofRelation op.converse (.property name) (.geometry g))) ∧
    ∃ p q, Predicate.ofDistance bound (.geometry g) (.property name) limit = .ok p ∧
      Predicate.ofDistance bound.opposite (.property name) (.geometry g) limit = .ok q ∧
      SameButForName bound limit (c.compile (frames.fill p)) (c.compile (frames.fill q)) ∧
      (limit.isFinite = true → c.compile (frames.fill p) = c.compile (frames.fill q)) := by
  have hrelation : c.compile (frames.fill (.relation op name g true)) =
      c.compile (frames.fill (.relation op.converse name g false)) := by
    rw [compile_fill, compile_fill]
    exact congrArg (List.foldr _ · frames) (c.relation_swapped op name g)
  have hcondition : SameButForName bound limit (c.compile (.distance bound name g limit true))
      (c.compile (.distance bound.opposite name g limit false)) :=
    distance_swapped bound name g limit
  have hdistance := c.sameButForName_fill hcondition frames
  exact ⟨by cases op <;> rfl, hrelation, _, _, rfl, rfl, hdistance, hdistance.eq_of_isFinite⟩

end Compiler

end SpatialSql.Filter
