import SpatialSql.Proofs.Filter.Meaning
import SpatialSql.Proofs.Sql.Exchange
import SpatialSql.Proofs.Sql.Outside
/-!
# Filters and quotes

No name, text or geometry in a filter says anything outside its quotes: the text that a filter
compiles to is divided into the tokens of its template, and what stands in a leaf decides nothing
but the tokens that are written for the leaf.
-/

namespace SpatialSql.Filter

open Sql (Token Exchange signedNumber groupTokens memberTokens)

/-! ## Leaves -/

inductive Leaf where
  | name (said : String)
  | text (said : String)
  | geometry (g : Geometry)

/-- The token that is written for a leaf. -/
def Leaf.token : Leaf → Token
  | .name said => .name said
  | .text said => .string said
  | .geometry g => .string (Wkt.write g.normalized.geometry)

/-- Operands that differ in the content of a leaf alone. -/
inductive Expression.Replaces : (a b : Leaf) → (e f : Expression) → Prop
  | name (said said' : String) :
    Replaces (.name said) (.name said') (.property said) (.property said')
  | text (said said' : String) :
    Replaces (.text said) (.text said') (.literal (.text said)) (.literal (.text said'))
  | geometry (g g' : Geometry) :
    Replaces (.geometry g) (.geometry g') (.geometry g) (.geometry g')

namespace Compiler

/-- How many tests a relation is written as. -/
def tests (c : Compiler) (op : Relation) : Nat :=
  (testsEnvelope op).toNat + (c.testsExactly op).toNat

/-- Predicates that differ in the content of one leaf alone, which is written `n` times. -/
inductive Replaces (c : Compiler) : (a b : Leaf) → (n : Nat) → (p q : Predicate) → Prop
  | all {a b : Leaf} {n : Nat} {p q : Predicate} (front back : List Predicate) :
    Replaces c a b n p q → Replaces c a b n (.all (front ++ p :: back)) (.all (front ++ q :: back))
  | any {a b : Leaf} {n : Nat} {p q : Predicate} (front back : List Predicate) :
    Replaces c a b n p q → Replaces c a b n (.any (front ++ p :: back)) (.any (front ++ q :: back))
  | not {a b : Leaf} {n : Nat} {p q : Predicate} :
    Replaces c a b n p q → Replaces c a b n (.not p) (.not q)
  | compareLeft {a b : Leaf} {left left' : Expression} (op : Comparison) (right : Expression) :
    left.Replaces a b left' →
      Replaces c a b 1 (.compare op left right) (.compare op left' right)
  | compareRight {a b : Leaf} {right right' : Expression} (op : Comparison) (left : Expression) :
    right.Replaces a b right' →
      Replaces c a b 1 (.compare op left right) (.compare op left right')
  | isNull {a b : Leaf} {operand operand' : Expression} :
    operand.Replaces a b operand' → Replaces c a b 1 (.isNull operand) (.isNull operand')
  | relationName (op : Relation) (property property' : String) (g : Geometry) (swapped : Bool) :
    Replaces c (.name property) (.name property') (c.tests op)
      (.relation op property g swapped) (.relation op property' g swapped)
  | relationGeometry (op : Relation) (property : String) (g g' : Geometry) (swapped : Bool) :
    Replaces c (.geometry g) (.geometry g') (c.tests op)
      (.relation op property g swapped) (.relation op property g' swapped)
  | distanceName (op : DistanceBound) (property property' : String) (g : Geometry)
    (limit : Binary64) (swapped : Bool) :
    Replaces c (.name property) (.name property') 1
      (.distance op property g limit swapped) (.distance op property' g limit swapped)
  | distanceGeometry (op : DistanceBound) (property : String) (g g' : Geometry)
    (limit : Binary64) (swapped : Bool) :
    Replaces c (.geometry g) (.geometry g') 1
      (.distance op property g limit swapped) (.distance op property g' limit swapped)
  | relatedLeft {a b : Leaf} {left left' : Expression} (op : Relation) (right : Expression) :
    left.Replaces a b left' →
      Replaces c a b 1 (.related op left right) (.related op left' right)
  | relatedRight {a b : Leaf} {right right' : Expression} (op : Relation) (left : Expression) :
    right.Replaces a b right' →
      Replaces c a b 1 (.related op left right) (.related op left right')

end Compiler

/-! ## Exchanging leaves -/

theorem exchange_geometry (g g' : Geometry) :
    Exchange (Leaf.geometry g).token (Leaf.geometry g').token 1 (geometryTokens g)
      (geometryTokens g') :=
  .kept _ Exchange.one.group

theorem exchange_envelope_name (property property' : String) (g : Geometry) :
    Exchange (Leaf.name property).token (Leaf.name property').token 1 (envelopeTokens property g)
      (envelopeTokens property' g) :=
  .exchanged (.kept _ (Exchange.none _))

theorem exchange_envelope_geometry (property : String) (g g' : Geometry) :
    Exchange (Leaf.geometry g).token (Leaf.geometry g').token 1 (envelopeTokens property g)
      (envelopeTokens property g') :=
  .kept _ (.kept _ (exchange_geometry g g'))

namespace Compiler

variable {c : Compiler} {a b : Leaf} {n : Nat} {p q : Predicate}

theorem exchange_operand {e f : Expression} (h : e.Replaces a b f) :
    Exchange a.token b.token 1 (c.operandTokens e) (c.operandTokens f) := by
  cases h with
  | name said said' => exact Exchange.one
  | text said said' => exact Exchange.one
  | geometry g g' => exact exchange_geometry g g'

theorem exchange_relation {op : Relation} {property property' : String} {g g' : Geometry}
    {swapped : Bool}
    (henvelope : Exchange a.token b.token 1 (envelopeTokens property g)
      (envelopeTokens property' g'))
    (hexact : Exchange a.token b.token 1 (exactTokens (op.functionTowards swapped) property g)
      (exactTokens (op.functionTowards swapped) property' g')) :
    Exchange a.token b.token (c.tests op) (c.relationTokens op property g swapped)
      (c.relationTokens op property' g' swapped) := by
  unfold relationTokens tests
  cases htests : testsEnvelope op with
  | false =>
    -- Only disjointness is not asked of envelopes, and it is tested exactly.
    have hdisjoint : op = .disjoint := by simpa [testsEnvelope] using htests
    have hexactly : c.testsExactly op = true := by simp [testsExactly, hdisjoint]
    rw [hexactly]
    exact hexact
  | true =>
    cases c.testsExactly op with
    | false => exact henvelope
    | true => exact henvelope.append (.kept _ hexact)

theorem templates_append (c : Compiler) (ps qs : List Predicate) :
    c.templates (ps ++ qs) = c.templates ps ++ c.templates qs := by
  induction ps with
  | nil => rfl
  | cons p ps ih => rw [List.cons_append, templates, templates, ih, List.cons_append]

theorem template_all (c : Compiler) {ps : List Predicate} (hne : ps ≠ []) :
    c.template (.all ps) = groupTokens ([Token.word "AND"].intercalate (c.templates ps)) := by
  obtain ⟨p, ps, rfl⟩ := List.exists_cons_of_ne_nil hne
  rfl

theorem template_any (c : Compiler) {ps : List Predicate} (hne : ps ≠ []) :
    c.template (.any ps) = groupTokens ([Token.word "OR"].intercalate (c.templates ps)) := by
  obtain ⟨p, ps, rfl⟩ := List.exists_cons_of_ne_nil hne
  rfl

theorem exchange_template (h : c.Replaces a b n p q) :
    Exchange a.token b.token n (c.template p) (c.template q) := by
  have hne (front back : List Predicate) (p : Predicate) : front ++ p :: back ≠ [] := by simp
  induction h with
  | all front back _ ih =>
    rw [template_all c (hne _ _ _), template_all c (hne _ _ _), templates_append, templates_append]
    exact (Exchange.intercalate _ _ _ ih).group
  | any front back _ ih =>
    rw [template_any c (hne _ _ _), template_any c (hne _ _ _), templates_append, templates_append]
    exact (Exchange.intercalate _ _ _ ih).group
  | not _ ih => exact .kept _ ih.group
  | compareLeft op right hleft => exact (exchange_operand hleft).behind _
  | compareRight op left hright => exact Exchange.before _ (.kept _ (exchange_operand hright))
  | isNull hoperand => exact (exchange_operand hoperand).behind _
  | relationName op property property' g swapped =>
    exact exchange_relation (exchange_envelope_name property property' g)
      (Exchange.one.memberReceiver _ _)
  | relationGeometry op property g g' swapped =>
    exact exchange_relation (exchange_envelope_geometry property g g')
      ((exchange_geometry g g').memberArgument _ _)
  | distanceName op property property' g limit swapped =>
    simp only [template, distanceTokens]
    split
    · exact Exchange.one.memberReceiver _ _
    · exact (Exchange.one.memberReceiver _ _).behind _
  | distanceGeometry op property g g' limit swapped =>
    have hgeometry := exchange_geometry g g'
    simp only [template, distanceTokens]
    split
    · exact (hgeometry.behind _).memberArgument _ _
    · exact (hgeometry.memberArgument _ _).behind _
  | relatedLeft op right hleft => exact (exchange_operand hleft).memberReceiver _ _
  | relatedRight op left hright => exact (exchange_operand hright).memberArgument _ _

theorem supports_replaces (h : c.Replaces a b n p q) : supports q = supports p := by
  induction h with
  | all front back _ ih | any front back _ ih =>
    rw [supports, supports, supportsAll_eq_all, supportsAll_eq_all]
    simp only [List.all_append, List.all_cons, ih]
  | not _ ih => exact ih
  | _ => rfl

end Compiler

/-! ## Operators -/

def operators : List String := ["=", "<>", "<", "<=", ">", ">=", "&&", "-"]

theorem not_hazard_of_operator {signs : String} (h : signs ∈ operators) {mark : List Char}
    (hmark : mark ∈ Sql.hazards) : ¬mark <:+: signs.toList := by
  revert mark
  revert signs
  decide

def isFamiliar : Token → Bool
  | .operator signs => operators.contains signs
  | _ => true

def IsFamiliar (tokens : List Token) : Prop := ∀ t ∈ tokens, isFamiliar t = true

section Plain

variable {tokens more : List Token}

theorem IsFamiliar.append (h : IsFamiliar tokens) (hmore : IsFamiliar more) :
    IsFamiliar (tokens ++ more) :=
  List.forall_mem_append.2 ⟨h, hmore⟩

theorem IsFamiliar.cons {t : Token} (ht : isFamiliar t = true) (h : IsFamiliar tokens) :
    IsFamiliar (t :: tokens) :=
  List.forall_mem_cons.2 ⟨ht, h⟩

theorem isFamiliar_nil : IsFamiliar [] := nofun

theorem isFamiliar_singleton {t : Token} (ht : isFamiliar t = true) : IsFamiliar [t] :=
  isFamiliar_nil.cons ht

theorem IsFamiliar.mem_operators (h : IsFamiliar tokens) {signs : String}
    (hsigns : Token.operator signs ∈ tokens) : signs ∈ operators :=
  List.contains_iff_mem.1 (h _ hsigns)

theorem IsFamiliar.group (h : IsFamiliar tokens) : IsFamiliar (groupTokens tokens) :=
  (h.append (isFamiliar_singleton rfl)).cons rfl

theorem IsFamiliar.member (h : IsFamiliar tokens) (function : String) (hmore : IsFamiliar more) :
    IsFamiliar (memberTokens tokens function more) :=
  h.append ((hmore.group.cons rfl).cons rfl)

theorem IsFamiliar.intercalate {word : String} {parts : List (List Token)}
    (h : ∀ part ∈ parts, IsFamiliar part) : IsFamiliar ([Token.word word].intercalate parts) := by
  induction parts with
  | nil => exact isFamiliar_nil
  | cons part parts ih =>
    have hpart := h part List.mem_cons_self
    have hparts := ih fun part hin => h part (List.mem_cons_of_mem _ hin)
    cases parts with
    | nil =>
      rw [List.intercalate_singleton]
      exact hpart
    | cons second parts =>
      rw [List.intercalate_cons_cons]
      exact (hpart.append (isFamiliar_singleton rfl)).append hparts

end Plain

theorem isFamiliar_signedNumber (text : String) : IsFamiliar (signedNumber text) := by
  unfold signedNumber
  split
  · exact (isFamiliar_singleton rfl).cons rfl
  · exact isFamiliar_singleton rfl

theorem isFamiliar_literal (style : Sql.LiteralSyntax) (value : Scalar) :
    IsFamiliar (style.tokens value) := by
  cases value with
  | int32 n => exact isFamiliar_signedNumber _
  | int64 n => exact isFamiliar_signedNumber _
  | double x =>
    rw [Sql.LiteralSyntax.tokens]
    split
    · exact isFamiliar_signedNumber _
    · exact isFamiliar_singleton rfl
  | bytes bs =>
    cases style with
    | ansi => exact (isFamiliar_singleton rfl).cons rfl
    | escaped => exact isFamiliar_singleton rfl
  | _ => exact isFamiliar_singleton rfl

theorem isFamiliar_geometry (g : Geometry) : IsFamiliar (geometryTokens g) :=
  (isFamiliar_singleton rfl).group.cons rfl

theorem isFamiliar_envelope (property : String) (g : Geometry) :
    IsFamiliar (envelopeTokens property g) :=
  ((isFamiliar_geometry g).cons rfl).cons rfl

theorem isFamiliar_exact (function property : String) (g : Geometry) :
    IsFamiliar (exactTokens function property g) :=
  (isFamiliar_singleton rfl).member function (isFamiliar_geometry g)

theorem isFamiliar_distance (op : DistanceBound) (property : String) (g : Geometry)
    (limit : Binary64) (swapped : Bool) :
    IsFamiliar (distanceTokens op property g limit swapped) := by
  have hname : IsFamiliar [Token.name property] := isFamiliar_singleton rfl
  have hgeometry := isFamiliar_geometry g
  have hlimit := isFamiliar_signedNumber limit.literal
  unfold distanceTokens
  split
  · exact hname.member _ (hgeometry.append (hlimit.cons rfl))
  · exact (hname.member _ hgeometry).append (hlimit.cons rfl)

theorem isFamiliar_token : (op : Comparison) → isFamiliar op.token = true := by rintro ⟨⟩ <;> rfl

namespace Compiler

variable {c : Compiler}

theorem isFamiliar_operand (c : Compiler) (e : Expression) : IsFamiliar (c.operandTokens e) := by
  cases e with
  | property name => exact isFamiliar_singleton rfl
  | literal value => exact isFamiliar_literal c.literals value
  | geometry g => exact isFamiliar_geometry g

theorem isFamiliar_relation (c : Compiler) (op : Relation) (property : String) (g : Geometry)
    (swapped : Bool) : IsFamiliar (c.relationTokens op property g swapped) := by
  have henvelope := isFamiliar_envelope property g
  have hexact := isFamiliar_exact (op.functionTowards swapped) property g
  unfold relationTokens
  simp only
  split
  · split
    · exact henvelope.append (hexact.cons rfl)
    · exact henvelope
  · exact hexact

mutual

theorem isFamiliar_template (c : Compiler) : (p : Predicate) → IsFamiliar (c.template p)
  | .everything | .all [] | .nothing | .any [] =>
    ((isFamiliar_singleton rfl).cons rfl).cons rfl
  | .all (p :: ps) => (IsFamiliar.intercalate (isFamiliar_templates c (p :: ps))).group
  | .any (p :: ps) => (IsFamiliar.intercalate (isFamiliar_templates c (p :: ps))).group
  | .not child => (isFamiliar_template c child).group.cons rfl
  | .compare op left right =>
    (isFamiliar_operand c left).append ((isFamiliar_operand c right).cons (isFamiliar_token op))
  | .isNull operand => (isFamiliar_operand c operand).append ((isFamiliar_singleton rfl).cons rfl)
  | .relation op property g swapped => isFamiliar_relation c op property g swapped
  | .distance op property g limit swapped => isFamiliar_distance op property g limit swapped
  | .related _ left right => (isFamiliar_operand c left).member _ (isFamiliar_operand c right)

theorem isFamiliar_templates (c : Compiler) : (ps : List Predicate) →
    ∀ part ∈ c.templates ps, IsFamiliar part
  | [] => nofun
  | p :: ps => by
    intro part hpart
    rw [templates, List.mem_cons] at hpart
    rcases hpart with rfl | hpart
    · exact isFamiliar_template c p
    · exact isFamiliar_templates c ps part hpart

end

/-! ## The text of a filter -/

/-- What a text that a filter compiles to keeps between quotes. -/
structure StaysInQuotes (c : Compiler) (p : Predicate) (sql : String) : Prop where
  /-- The text is divided into the tokens of the template. -/
  lex_eq : Sql.lex sql.toList = some (c.template p)
  isBalanced : Sql.IsBalanced (c.template p)
  /-- The text leaves no quote open. -/
  closed : Sql.openQuote none sql.toList = none
  /-- What ends a statement or begins a comment stands between quotes. -/
  harmless : ∀ before mark after, sql.toList = before ++ (mark ++ after) → mark ∈ Sql.hazards →
    Sql.openQuote none before ≠ none
  /-- The content of a leaf decides the tokens of the leaf and no other, and not how many. -/
  exchange : ∀ a b n q, c.Replaces a b n p q → ∃ sql' tokens, c.compile q = .ok sql' ∧
    Sql.lex sql'.toList = some tokens ∧ Exchange a.token b.token n (c.template p) tokens ∧
    tokens.length = (c.template p).length

theorem compile_stays_in_quotes {c : Compiler} {p : Predicate} {sql : String}
    (h : c.compile p = .ok sql) : c.StaysInQuotes p sql := by
  have hlex : Sql.lex sql.toList = some (c.template p) := (reads_compile p h [] rfl).lex_eq
  obtain ⟨e, he, -⟩ := parses_template c p
  refine ⟨hlex, he.isBalanced, Sql.openQuote_of_lex hlex, ?_, ?_⟩
  · intro before mark after heq hmark hout
    obtain ⟨signs, hsigns, hinfix⟩ := Sql.exists_operator_of_hazard hlex heq hout hmark
    have hours : signs ∈ operators := (isFamiliar_template c p).mem_operators hsigns
    exact not_hazard_of_operator hours hmark hinfix
  · intro a b n q hreplaces
    have hsupports : supports q = true := by
      rw [supports_replaces hreplaces]
      exact (exists_compile_iff c p).1 ⟨sql, h⟩
    obtain ⟨sql', hcompile⟩ := (exists_compile_iff c q).2 hsupports
    have hexchange := exchange_template hreplaces
    exact ⟨sql', c.template q, hcompile, (reads_compile q hcompile [] rfl).lex_eq, hexchange,
      hexchange.length_eq⟩

/-- A name that ends in a quote, an empty text and a text that is a comment behind a quote. -/
theorem compile_stays_in_quotes_behind_quote :
    Compiler.StaysInQuotes ⟨.ansi, false⟩
      (.all [.relation .intersects "g\"" (.point none) false,
        .not (.compare .equal (.literal (.text "")) (.literal (.text "'; --")))])
      ("(\"g\"\"\" && ST_Geometry('POINT EMPTY') AND "
        ++ "\"g\"\"\".ST_Intersects(ST_Geometry('POINT EMPTY')) AND NOT ('' = '''; --'))") :=
  compile_stays_in_quotes rfl

end Compiler

end SpatialSql.Filter
