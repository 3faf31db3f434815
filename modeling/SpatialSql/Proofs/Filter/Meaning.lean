import SpatialSql.Proofs.Filter.Template
import SpatialSql.Proofs.Sql.Condition
/-!
# The meaning of a filter

The value of a filter under a valuation of its atomic conditions, and that the text it compiles to
is a condition with that value.
-/

namespace SpatialSql.Filter

open Sql (Token Condition IsOperands Parses memberTokens groupTokens signedNumber)

structure Valuation where
  holds : List Token → Bool
  holds_true : holds trueTokens = true
  holds_false : holds falseTokens = false

namespace Compiler

variable (c : Compiler) (v : Valuation)

/-- A relation holds on envelopes and exactly.  Disjointness is not asked of envelopes, and a
loose bounding box of nothing else. -/
def relationValue (op : Relation) (property : String) (g : Geometry) (swapped : Bool) : Bool :=
  let envelope := v.holds (envelopeTokens property g)
  let exact := v.holds (exactTokens (op.functionTowards swapped) property g)
  if op = .disjoint then exact
  else if op = .boundingBox ∧ c.loose then envelope
  else envelope && exact

mutual

def value : Predicate → Bool
  | .everything => true
  | .nothing => false
  | .all children => (values children).all id
  | .any children => (values children).any id
  | .not child => !value child
  | .compare op left right => v.holds (c.comparisonTokens op left right)
  | .isNull operand => v.holds (nullTokens (c.operandTokens operand))
  | .relation op property g swapped => c.relationValue v op property g swapped
  | .distance op property g limit swapped => v.holds (distanceTokens op property g limit swapped)
  | .related op left right => v.holds (c.relatedTokens op left right)
termination_by structural p => p

def values : List Predicate → List Bool
  | [] => []
  | p :: rest => value p :: values rest
termination_by structural ps => ps

end

end Compiler

/-! ## Atomic conditions -/

theorem isOperands_singleton {t : Token} (h : t.isPlain = true) : IsOperands [t] := .plain h .nil

theorem isOperands_signedNumber (text : String) : IsOperands (signedNumber text) := by
  unfold signedNumber
  split
  · exact .plain rfl (.plain rfl .nil)
  · exact .plain rfl .nil

theorem isOperands_literal (style : Sql.LiteralSyntax) (value : Scalar) :
    IsOperands (style.tokens value) := by
  cases value with
  | null => exact isOperands_singleton (by decide)
  | bool b =>
    cases b with
    | false => exact isOperands_singleton (by decide)
    | true => exact isOperands_singleton (by decide)
  | int32 n => exact isOperands_signedNumber _
  | int64 n => exact isOperands_signedNumber _
  | double x =>
    rw [Sql.LiteralSyntax.tokens]
    split
    · exact isOperands_signedNumber _
    · exact isOperands_singleton (by decide)
  | bytes bs =>
    cases style with
    | ansi => exact .plain (by decide) (isOperands_singleton rfl)
    | escaped => exact isOperands_singleton rfl
  | _ => exact isOperands_singleton rfl

theorem isOperands_call {function : String} {arguments : List Token}
    (hfunction : (Token.word function).isPlain = true) (h : IsOperands arguments) :
    IsOperands (.word function :: groupTokens arguments) := by
  have := IsOperands.call rfl hfunction h.isBalanced .nil
  rwa [List.append_nil] at this

theorem isOperands_geometry (g : Geometry) : IsOperands (geometryTokens g) :=
  isOperands_call (by decide) (isOperands_singleton rfl)

theorem isOperands_member {receiver arguments : List Token} {function : String}
    (hreceiver : IsOperands receiver) (hfunction : (Token.word function).isPlain = true)
    (h : IsOperands arguments) : IsOperands (memberTokens receiver function arguments) :=
  hreceiver.append (.plain (by decide) (isOperands_call hfunction h))

theorem isPlain_functionTowards (op : Relation) (swapped : Bool) :
    (Token.word (op.functionTowards swapped)).isPlain = true := by
  cases op <;> cases swapped <;> decide

theorem isPlain_comparison (op : Comparison) : op.token.isPlain = true := by
  cases op <;> decide

namespace Compiler

theorem isOperands_operand (c : Compiler) (e : Expression) : IsOperands (c.operandTokens e) := by
  cases e with
  | property name => exact isOperands_singleton rfl
  | literal value => exact isOperands_literal c.literals value
  | geometry g => exact isOperands_geometry g

end Compiler

theorem parses_atom {tokens : List Token} (h : IsOperands tokens) (hne : tokens ≠ []) :
    Parses .factor tokens (.atom tokens) := .primary (.atom hne h)

theorem parses_envelope (property : String) (g : Geometry) :
    Parses .factor (envelopeTokens property g) (.atom (envelopeTokens property g)) :=
  parses_atom (.plain rfl (.plain (by decide) (isOperands_geometry g))) (List.cons_ne_nil _ _)

theorem parses_exact (op : Relation) (property : String) (g : Geometry) (swapped : Bool) :
    Parses .factor (exactTokens (op.functionTowards swapped) property g)
      (.atom (exactTokens (op.functionTowards swapped) property g)) :=
  parses_atom (isOperands_member (isOperands_singleton rfl) (isPlain_functionTowards op swapped)
    (isOperands_geometry g)) (List.cons_ne_nil _ _)

theorem parses_distance (op : DistanceBound) (property : String) (g : Geometry) (limit : Binary64)
    (swapped : Bool) :
    Parses .factor (distanceTokens op property g limit swapped)
      (.atom (distanceTokens op property g limit swapped)) := by
  have hname : IsOperands [Token.name property] := isOperands_singleton rfl
  have hgeometry := isOperands_geometry g
  have hlimit := isOperands_signedNumber limit.literal
  unfold distanceTokens
  split
  · have harguments := hgeometry.append (.plain (t := .mark ',') (by decide) hlimit)
    exact parses_atom (isOperands_member hname (by decide) harguments) (List.cons_ne_nil _ _)
  · have hmember : (Token.word "ST_Distance").isPlain = true := by decide
    have hdistance := isOperands_member hname hmember hgeometry
    have hbound := hdistance.append (.plain (t := .operator ">") (by decide) hlimit)
    exact parses_atom hbound (List.cons_ne_nil _ _)

namespace Compiler

variable {c : Compiler}

theorem parses_relation (c : Compiler) (op : Relation) (property : String) (g : Geometry)
    (swapped : Bool) : ∃ e, Parses .conjunction (c.relationTokens op property g swapped) e ∧
      ∀ v : Valuation, e.eval v.holds = c.relationValue v op property g swapped := by
  have henvelope := parses_envelope property g
  have hexact := parses_exact op property g swapped
  unfold relationTokens relationValue
  by_cases hdisjoint : op = .disjoint
  · simp only [hdisjoint]
    exact ⟨_, .factor (hdisjoint ▸ hexact), fun _ => rfl⟩
  · have htests : testsEnvelope op = true := by simpa [testsEnvelope] using hdisjoint
    by_cases hloose : op = .boundingBox ∧ c.loose = true
    · have hexactly : c.testsExactly op = false := by simp [testsExactly, hloose]
      simp only [htests, hexactly, if_neg hdisjoint, if_pos hloose]
      exact ⟨_, .factor henvelope, fun _ => rfl⟩
    · have hexactly : c.testsExactly op = true := by
        rw [not_and_or] at hloose
        simpa [testsExactly] using hloose
      simp only [htests, hexactly, if_neg hdisjoint, if_neg hloose]
      exact ⟨_, .and (by decide) henvelope (.factor hexact), fun _ => rfl⟩

mutual

theorem parses_template (c : Compiler) : (p : Predicate) → ∃ e,
    Parses .conjunction (c.template p) e ∧ ∀ v : Valuation, e.eval v.holds = c.value v p
  | .everything | .all [] => by
    have hoperands : IsOperands trueTokens :=
      .plain (by decide) (.plain (by decide) (isOperands_singleton (by decide)))
    exact ⟨_, .factor (parses_atom hoperands (List.cons_ne_nil _ _)), fun v => v.holds_true⟩
  | .nothing | .any [] => by
    have hoperands : IsOperands falseTokens :=
      .plain (by decide) (.plain (by decide) (isOperands_singleton (by decide)))
    exact ⟨_, .factor (parses_atom hoperands (List.cons_ne_nil _ _)), fun v => v.holds_false⟩
  | .all (p :: ps) => by
    obtain ⟨es, hes, hvalues⟩ := parses_templates c (p :: ps)
    obtain ⟨e, he, hall⟩ := Sql.parses_all (t := .word "AND") (by decide) hes (List.cons_ne_nil _ _)
    refine ⟨e, .factor (.primary (.group (.conjunction he))), ?_⟩
    intro v
    rw [hall, value, ← hvalues, List.all_map]
    rfl
  | .any (p :: ps) => by
    obtain ⟨es, hes, hvalues⟩ := parses_templates c (p :: ps)
    obtain ⟨e, he, hany⟩ := Sql.parses_any (t := .word "OR") (by decide) hes (List.cons_ne_nil _ _)
    refine ⟨e, .factor (.primary (.group he)), ?_⟩
    intro v
    rw [hany, value, ← hvalues, List.any_map]
    rfl
  | .not child => by
    obtain ⟨e, he, hvalue⟩ := parses_template c child
    have hgroup : Parses .factor (groupTokens (c.template child)) e :=
      .primary (.group (.conjunction he))
    refine ⟨.not e, .factor (.not (by decide) hgroup), ?_⟩
    intro v
    rw [Condition.eval, hvalue, value]
  | .compare op left right => by
    have hright := IsOperands.plain (isPlain_comparison op) (isOperands_operand c right)
    have hoperands := (isOperands_operand c left).append hright
    have hne : c.comparisonTokens op left right ≠ [] := by simp [comparisonTokens]
    exact ⟨_, .factor (parses_atom hoperands hne), fun _ => rfl⟩
  | .isNull operand => by
    have hnull : IsOperands [.word "IS", .word "NULL"] :=
      .plain (by decide) (isOperands_singleton (by decide))
    have hoperands := (isOperands_operand c operand).append hnull
    have hne : nullTokens (c.operandTokens operand) ≠ [] := by simp [nullTokens]
    exact ⟨_, .factor (parses_atom hoperands hne), fun _ => rfl⟩
  | .relation op property g swapped => parses_relation c op property g swapped
  | .distance op property g limit swapped =>
    ⟨_, .factor (parses_distance op property g limit swapped), fun _ => rfl⟩
  | .related op left right => by
    have hoperands := isOperands_member (isOperands_operand c left)
      (isPlain_functionTowards op false) (isOperands_operand c right)
    have hne : c.relatedTokens op left right ≠ [] := by simp [relatedTokens, memberTokens]
    exact ⟨_, .factor (parses_atom hoperands hne), fun _ => rfl⟩

theorem parses_templates (c : Compiler) : (ps : List Predicate) → ∃ es,
    List.Forall₂ (Parses .conjunction) (c.templates ps) es ∧
      ∀ v : Valuation, es.map (·.eval v.holds) = c.values v ps
  | [] => ⟨[], .nil, fun _ => rfl⟩
  | p :: ps => by
    obtain ⟨e, he, hvalue⟩ := parses_template c p
    obtain ⟨es, hes, hvalues⟩ := parses_templates c ps
    refine ⟨e :: es, .cons he hes, ?_⟩
    intro v
    rw [List.map_cons, hvalue, hvalues, values]

end

theorem compile_keeps_meaning {c : Compiler} {p : Predicate} {sql : String}
    (h : c.compile p = .ok sql) :
    ∃ tokens e, Sql.lex sql.toList = some tokens ∧
      (∀ e', Parses .disjunction tokens e' ↔ e' = e) ∧
      ∀ v : Valuation, e.eval v.holds = c.value v p := by
  have hscans := reads_compile p h [] rfl
  obtain ⟨e, he, hvalue⟩ := parses_template c p
  have hcondition : Parses .disjunction (c.template p) e := .conjunction he
  refine ⟨c.template p, e, hscans.lex_eq, ?_, hvalue⟩
  intro e'
  constructor
  · intro he'
    exact he'.unambiguous hcondition
  · rintro rfl
    exact hcondition

theorem compile_keeps_meaning_nested :
    ∃ tokens e, Sql.lex ("NOT ((\"g\" && ST_Geometry('POINT EMPTY') AND "
        ++ "\"g\".ST_Within(ST_Geometry('POINT EMPTY')) OR \"name\" LIKE 'it''s'))").toList
        = some tokens ∧
      (∀ e', Parses .disjunction tokens e' ↔ e' = e) ∧
      ∀ v : Valuation, e.eval v.holds = Compiler.value ⟨.escaped, true⟩ v
        (.not (.any [.relation .within "g" (.point none) false,
          .compare .like (.property "name") (.literal (.text "it's"))])) :=
  compile_keeps_meaning rfl

end Compiler

end SpatialSql.Filter
