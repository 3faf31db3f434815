import SpatialSql.Proofs.Filter.Buffer
import SpatialSql.Proofs.Outcome
/-!
# What is supported is what compiles

Whether a filter can be compiled is decided without compiling it, from the tables of what can be
translated.  Compiling refuses a filter for the first of its conditions that the tables leave out,
however deep that is, and then hands out nothing.
-/

namespace SpatialSql.Filter

mutual

/-- The conditions that the tables leave out, in the order in which they are written. -/
def unsupported : Predicate → List Unsupported
  | .everything | .nothing | .isNull _ | .compare _ _ _ => []
  | .all children | .any children => unsupportedAmong children
  | .not child => unsupported child
  | .relation op _ _ _ | .related op _ _ =>
    if supportedRelations.contains op then [] else [.relation op]
  | .distance op _ _ limit _ =>
    if supportedBounds.contains op && limit.isFinite then [] else [.distance op limit]
termination_by structural p => p

def unsupportedAmong : List Predicate → List Unsupported
  | [] => []
  | p :: rest => unsupported p ++ unsupportedAmong rest
termination_by structural ps => ps

end

private theorem isEmpty_ite (b : Bool) (fault : Unsupported) :
    (if b then [] else [fault]).isEmpty = b := by
  cases b <;> rfl

mutual

theorem supports_eq_isEmpty : (p : Predicate) → supports p = (unsupported p).isEmpty
  | .everything | .nothing | .isNull _ => rfl
  | .all children | .any children => supportsAll_eq_isEmpty children
  | .not child => supports_eq_isEmpty child
  | .compare op _ _ => by cases op <;> rfl
  | .relation _ _ _ _ | .related _ _ _ => (isEmpty_ite ..).symm
  | .distance _ _ _ _ _ => (isEmpty_ite ..).symm

theorem supportsAll_eq_isEmpty :
    (ps : List Predicate) → supportsAll ps = (unsupportedAmong ps).isEmpty
  | [] => rfl
  | p :: rest => by
    rw [supportsAll, unsupportedAmong, supports_eq_isEmpty p, supportsAll_eq_isEmpty rest]
    cases unsupported p <;> rfl

end

namespace Compiler

/-! ## The fault of a compilation -/

def fault? : Except Unsupported α → Option Unsupported
  | .ok _ => none
  | .error fault => some fault

theorem fault?_eq_some_iff {x : Except Unsupported α} {fault : Unsupported} :
    fault? x = some fault ↔ x = .error fault := by
  cases x <;> simp [fault?]

theorem fault?_map (f : α → β) (x : Except Unsupported α) : fault? (x.map f) = fault? x := by
  cases x <;> rfl

theorem fault?_relationFunction (op : Relation) :
    fault? (relationFunction op) =
      (if supportedRelations.contains op then [] else [Unsupported.relation op]).head? := by
  cases op <;> rfl

theorem fault?_relation (c : Compiler) (op : Relation) (property : String) (g : Geometry)
    (swapped : Bool) : fault? (c.relation op property g swapped) =
      (if supportedRelations.contains op then [] else [Unsupported.relation op]).head? := by
  have hfunction : fault? (relationFunction (if swapped then op.converse else op)) =
      (if supportedRelations.contains op then [] else [Unsupported.relation op]).head? := by
    cases op <;> cases swapped <;> rfl
  rw [← hfunction, relation]
  cases relationFunction (if swapped then op.converse else op) with
  | error fault => rfl
  | ok function =>
    rw [ok_bind]
    split
    · rfl
    · split <;> rfl

theorem fault?_distance (op : DistanceBound) (property : String) (g : Geometry) (limit : Binary64)
    (swapped : Bool) : fault? (distance op property g limit swapped) =
      (if supportedBounds.contains op && limit.isFinite then []
        else [Unsupported.distance op limit]).head? := by
  have hop : supportedBounds.contains op = true := by cases op <;> rfl
  unfold distance
  rw [hop, Bool.true_and]
  cases limit.isFinite with
  | false => rfl
  | true =>
    rw [Bool.not_true, if_neg Bool.false_ne_true]
    split <;> rfl

theorem fault?_compileAll_cons (c : Compiler) (p : Predicate) (rest : List Predicate) :
    fault? (c.compileAll (p :: rest)) = (fault? (c.compile p)).or (fault? (c.compileAll rest)) := by
  rw [compileAll]
  cases c.compile p with
  | error fault => rfl
  | ok first => cases c.compileAll rest <;> rfl

mutual

theorem fault?_compile (c : Compiler) :
    (p : Predicate) → fault? (c.compile p) = (unsupported p).head?
  | .everything | .nothing | .all [] | .any [] | .isNull _ | .compare _ _ _ => rfl
  | .all (p :: rest) | .any (p :: rest) =>
    (fault?_map _ _).trans (fault?_compileAll c (p :: rest))
  | .not child => (fault?_map _ _).trans (fault?_compile c child)
  | .relation op property g swapped => fault?_relation c op property g swapped
  | .distance op property g limit swapped => fault?_distance op property g limit swapped
  | .related op _ _ => (fault?_map _ _).trans (fault?_relationFunction op)

theorem fault?_compileAll (c : Compiler) :
    (ps : List Predicate) → fault? (c.compileAll ps) = (unsupportedAmong ps).head?
  | [] => rfl
  | p :: rest => by
    rw [fault?_compileAll_cons, fault?_compile c p, fault?_compileAll c rest, unsupportedAmong,
      List.head?_append]

end

/-! ## What is handed out -/

/-- A condition behind what a buffer holds, written at once or piece by piece, and as a clause. -/
structure HandsOut (c : Compiler) (p : Predicate) (sql : String) : Prop where
  supported : supports p = true
  appended (buffer : String) : c.compileOnto p buffer = (.ok (), buffer ++ sql)
  written (buffer : String) : (Writing.filter c p).onto buffer = (.ok (), buffer ++ sql)
  clause : c.whereClause p = .ok ("WHERE " ++ sql)

/-- Nothing but the failure for the first condition that is left out, whatever had been written
before that condition was met. -/
structure Refuses (c : Compiler) (p : Predicate) (fault : Unsupported) : Prop where
  not_supported : supports p = false
  first : (unsupported p).head? = some fault
  failure : fault.toFailure = .unsupportedPredicate fault.message
  unchanged (buffer : String) : c.compileOnto p buffer = (.error fault, buffer)
  written (buffer : String) :
    ∃ part, (Writing.filter c p).onto buffer = (.error fault, buffer ++ part)
  clause : c.whereClause p = .error fault

variable {c : Compiler} {p : Predicate}

theorem compile_eq_ok_iff_handsOut {sql : String} :
    c.compile p = .ok sql ↔ c.HandsOut p sql := by
  constructor
  · intro h
    have hwritten := Writing.renders_filter c p
    rw [h] at hwritten
    exact {
      supported := (exists_compile_iff c p).1 ⟨sql, h⟩
      appended := fun buffer => by rw [compileOnto, h]
      written := hwritten
      clause := by rw [whereClause, h]; rfl }
  · intro h
    have hempty := h.appended ""
    rw [compileOnto] at hempty
    split at hempty
    · rename_i condition hcompile
      have htext : "" ++ condition = "" ++ sql := congrArg Prod.snd hempty
      rw [String.empty_append, String.empty_append] at htext
      rw [hcompile, htext]
    · cases hempty

theorem compile_eq_error_iff_refuses {fault : Unsupported} :
    c.compile p = .error fault ↔ c.Refuses p fault := by
  constructor
  · intro h
    have hwritten := Writing.renders_filter c p
    rw [h] at hwritten
    have hfirst : (unsupported p).head? = some fault := by
      rw [← fault?_compile c p, h]
      rfl
    have hempty : (unsupported p).isEmpty = false := by
      cases hconditions : unsupported p with
      | nil => rw [hconditions] at hfirst; cases hfirst
      | cons _ _ => rfl
    exact {
      not_supported := (supports_eq_isEmpty p).trans hempty
      first := hfirst
      failure := rfl
      unchanged := fun buffer => by rw [compileOnto, h]
      written := hwritten
      clause := by rw [whereClause, h]; rfl }
  · intro h
    rw [← fault?_eq_some_iff, fault?_compile]
    exact h.first

/-- A filter compiles if and only if it is supported.  What compiles is handed out whole, and what
does not is refused for its first unsupported condition and leaves a buffer as it was. -/
theorem supports_iff_compiles (c : Compiler) (p : Predicate) :
    (supports p = true ↔ ∃ sql, c.compile p = .ok sql) ∧
      (∀ sql, c.compile p = .ok sql ↔ c.HandsOut p sql) ∧
      ∀ fault, c.compile p = .error fault ↔ c.Refuses p fault :=
  ⟨(exists_compile_iff c p).symm, fun _ => compile_eq_ok_iff_handsOut,
    fun _ => compile_eq_error_iff_refuses⟩

/-- Two conditions without a translation, under negations and behind one that has one.  The text
before the first of them has been written when it is met. -/
theorem supports_iff_compiles_nested :
    let p : Predicate := .not (.all [.isNull (.property "a"),
      .any [.not (.distance .beyond "g" (.point none) .nan true),
        .related .relate (.property "g") (.property "h")]])
    Compiler.Refuses ⟨.escaped, true⟩ p (.distance .beyond .nan) ∧
      (Writing.filter ⟨.escaped, true⟩ p).onto "SELECT " =
        (.error (.distance .beyond .nan), "SELECT NOT ((\"a\" IS NULL AND (NOT (") := by
  intro p
  exact ⟨((supports_iff_compiles ⟨.escaped, true⟩ p).2.2 _).1 rfl, rfl⟩

end Compiler

end SpatialSql.Filter
