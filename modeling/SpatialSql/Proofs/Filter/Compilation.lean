import SpatialSql.Filter.Compile
import SpatialSql.Proofs.Filter.Operator
/-!
# Compilations that succeed

What each step of a compilation gives when it succeeds, and that the whole succeeds exactly when
every condition of the filter is supported.
-/

namespace SpatialSql.Filter

/-- The function that decides a relation with its operands in the order of the column and the
geometry. -/
def Relation.functionTowards? (op : Relation) (swapped : Bool) : Option String :=
  (if swapped then op.converse else op).function?

theorem Relation.functionTowards?_eq (op : Relation) (swapped : Bool) :
    op.functionTowards? swapped =
      if supportedRelations.contains op then
        some ("ST_" ++ (if swapped then op.converse else op).tested.name)
      else none := by
  have hconverse : supportedRelations.contains op.converse = supportedRelations.contains op := by
    cases op <;> rfl
  unfold functionTowards?
  rw [function?_eq]
  cases swapped with
  | false => rfl
  | true => rw [if_pos rfl, hconverse]

theorem Relation.isSome_functionTowards? (op : Relation) (swapped : Bool) :
    (op.functionTowards? swapped).isSome = supportedRelations.contains op := by
  rw [functionTowards?_eq]
  cases supportedRelations.contains op <;> rfl

namespace Compiler

variable {c : Compiler} {sql : String}

theorem map_eq_ok_iff {α β ε : Type} {x : Except ε α} {f : α → β} {b : β} :
    x.map f = .ok b ↔ ∃ a, x = .ok a ∧ b = f a := by
  cases x with
  | error fault => simp [Except.map]
  | ok a => simp [Except.map, eq_comm]

theorem relationFunction_eq_ok_iff {op : Relation} {function : String} :
    relationFunction op = .ok function ↔ op.function? = some function := by
  unfold relationFunction
  cases op.function? <;> simp

def relationTests (c : Compiler) (op : Relation) (function property : String) (g : Geometry) :
    String :=
  if op = .disjoint then exactTest function property g
  else if op = .boundingBox ∧ c.loose then envelopeTest property g
  else envelopeTest property g ++ " AND " ++ exactTest function property g

theorem relation_eq_ok_iff {op : Relation} {property : String} {g : Geometry} {swapped : Bool} :
    c.relation op property g swapped = .ok sql ↔
      ∃ function, op.functionTowards? swapped = some function ∧
        sql = c.relationTests op function property g := by
  have htests (function : String)
      (hcall : relationFunction (if swapped then op.converse else op) = .ok function) :
      c.relation op property g swapped = .ok (c.relationTests op function property g) := by
    unfold relation relationTests
    rw [hcall]
    by_cases hdisjoint : op = .disjoint
    · rw [if_pos hdisjoint]
      simp only [if_pos hdisjoint]
      rfl
    · by_cases hloose : op = .boundingBox ∧ c.loose = true
      · simp only [if_neg hdisjoint, if_pos hloose]
        rfl
      · simp only [if_neg hdisjoint, if_neg hloose]
        rfl
  unfold Relation.functionTowards?
  constructor
  · intro h
    cases hcall : relationFunction (if swapped then op.converse else op) with
    | error fault =>
      rw [relation, hcall] at h
      cases h
    | ok function =>
      rw [htests function hcall] at h
      cases h
      exact ⟨function, relationFunction_eq_ok_iff.1 hcall, rfl⟩
  · rintro ⟨function, hfunction, rfl⟩
    exact htests function (relationFunction_eq_ok_iff.2 hfunction)

theorem distance_eq_ok_iff {op : DistanceBound} {property : String} {g : Geometry}
    {limit : Binary64} {swapped : Bool} :
    distance op property g limit swapped = .ok sql ↔ limit.isFinite = true ∧
      sql = if (op == .within) != swapped then
          Sql.identifier property ++ ".ST_WithinDistance(" ++ geometry g ++ "," ++ limit.literal
            ++ ")"
        else
          Sql.identifier property ++ ".ST_Distance(" ++ geometry g ++ ") > " ++ limit.literal := by
  unfold distance
  cases limit.isFinite with
  | false => simp
  | true =>
    by_cases hwithin : ((op == .within) != swapped) = true
    · simp [hwithin, eq_comm]
    · simp [hwithin, eq_comm]

theorem compileAll_cons_eq_ok_iff {p : Predicate} {ps : List Predicate}
    {conditions : List String} : c.compileAll (p :: ps) = .ok conditions ↔ ∃ first others,
      c.compile p = .ok first ∧ c.compileAll ps = .ok others ∧ conditions = first :: others := by
  rw [compileAll]
  cases c.compile p with
  | error fault => simp [bind, Except.bind]
  | ok first =>
    cases c.compileAll ps with
    | error fault => simp [bind, Except.bind]
    | ok others => simp [bind, Except.bind, pure, Except.pure, eq_comm]

end Compiler

/-! ## Support -/

theorem supportsAll_eq_all (ps : List Predicate) : supportsAll ps = ps.all supports := by
  induction ps with
  | nil => rfl
  | cons p ps ih => rw [supportsAll, ih, List.all_cons]

namespace Compiler

theorem exists_relation_iff (c : Compiler) (op : Relation) (property : String) (g : Geometry)
    (swapped : Bool) : (∃ sql, c.relation op property g swapped = .ok sql) ↔
      supportedRelations.contains op = true := by
  rw [← op.isSome_functionTowards? swapped, Option.isSome_iff_exists]
  constructor
  · rintro ⟨sql, h⟩
    obtain ⟨function, hfunction, -⟩ := relation_eq_ok_iff.1 h
    exact ⟨function, hfunction⟩
  · rintro ⟨function, hfunction⟩
    exact ⟨_, relation_eq_ok_iff.2 ⟨function, hfunction, rfl⟩⟩

theorem exists_map_iff {α β ε : Type} {x : Except ε α} (f : α → β) :
    (∃ b, x.map f = .ok b) ↔ ∃ a, x = .ok a := by
  cases x <;> simp [Except.map]

mutual

theorem exists_compile_iff (c : Compiler) : (p : Predicate) →
    ((∃ sql, c.compile p = .ok sql) ↔ supports p = true)
  | .everything | .nothing | .all [] | .any [] | .isNull _ => ⟨fun _ => rfl, fun _ => ⟨_, rfl⟩⟩
  | .all (p :: ps) | .any (p :: ps) =>
    (exists_map_iff _).trans (exists_compileAll_iff c (p :: ps))
  | .not child => (exists_map_iff _).trans (exists_compile_iff c child)
  | .compare op left right => by
    have hop : supportedComparisons.contains op = true := by cases op <;> rfl
    exact ⟨fun _ => hop, fun _ => ⟨_, rfl⟩⟩
  | .relation op property g swapped => exists_relation_iff c op property g swapped
  | .distance op property g limit swapped => by
    have hop : supportedBounds.contains op = true := by cases op <;> rfl
    rw [supports, hop, Bool.true_and]
    constructor
    · rintro ⟨sql, h⟩
      exact (distance_eq_ok_iff.1 h).1
    · intro hfinite
      exact ⟨_, distance_eq_ok_iff.2 ⟨hfinite, rfl⟩⟩
  | .related op left right => by
    refine (exists_map_iff _).trans ?_
    rw [supports, ← op.isSome_functionTowards? false, Option.isSome_iff_exists]
    exact exists_congr fun function => relationFunction_eq_ok_iff

theorem exists_compileAll_iff (c : Compiler) : (ps : List Predicate) →
    ((∃ conditions, c.compileAll ps = .ok conditions) ↔ supportsAll ps = true)
  | [] => ⟨fun _ => rfl, fun _ => ⟨[], rfl⟩⟩
  | p :: ps => by
    rw [supportsAll, Bool.and_eq_true, ← exists_compile_iff c p, ← exists_compileAll_iff c ps]
    constructor
    · rintro ⟨conditions, h⟩
      obtain ⟨first, others, hfirst, hothers, -⟩ := compileAll_cons_eq_ok_iff.1 h
      exact ⟨⟨first, hfirst⟩, others, hothers⟩
    · rintro ⟨⟨first, hfirst⟩, others, hothers⟩
      exact ⟨_, compileAll_cons_eq_ok_iff.2 ⟨first, others, hfirst, hothers, rfl⟩⟩

end

end Compiler

end SpatialSql.Filter
