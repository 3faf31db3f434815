import SpatialSql.Proofs.Filter.Compilation
import SpatialSql.Proofs.Sql.Literal
/-!
# Templates of filters

The tokens that a filter stands for, said without the text.  A name is one quoted name, a text one
text literal, and a geometry the text literal of its well-known text.  The text that a filter
compiles to is read as its template.
-/

namespace SpatialSql.Filter

open Sql (Token Reads identifier memberTokens groupTokens signedNumber)

/-! ## The template of a filter -/

def trueTokens : List Token := [.number "1", .operator "=", .number "1"]

def falseTokens : List Token := [.number "0", .operator "=", .number "1"]

def nullTokens (operand : List Token) : List Token := operand ++ [.word "IS", .word "NULL"]

def geometryTokens (g : Geometry) : List Token :=
  .word "ST_Geometry" :: groupTokens [.string (Wkt.write g.normalized.geometry)]

def Comparison.token : Comparison → Token
  | .like => .word "LIKE"
  | op => .operator op.sql

def envelopeTokens (property : String) (g : Geometry) : List Token :=
  .name property :: .operator "&&" :: geometryTokens g

def exactTokens (function property : String) (g : Geometry) : List Token :=
  memberTokens [.name property] function (geometryTokens g)

def distanceTokens (op : DistanceBound) (property : String) (g : Geometry) (limit : Binary64)
    (swapped : Bool) : List Token :=
  if (op == .within) != swapped then
    memberTokens [.name property] "ST_WithinDistance"
      (geometryTokens g ++ .mark ',' :: signedNumber limit.literal)
  else
    memberTokens [.name property] "ST_Distance" (geometryTokens g)
      ++ .operator ">" :: signedNumber limit.literal

def Relation.functionTowards (op : Relation) (swapped : Bool) : String :=
  (op.functionTowards? swapped).getD ""

namespace Compiler

variable (c : Compiler)

def operandTokens : Expression → List Token
  | .property name => [.name name]
  | .literal value => c.literals.tokens value
  | .geometry g => geometryTokens g

def comparisonTokens (op : Comparison) (left right : Expression) : List Token :=
  c.operandTokens left ++ op.token :: c.operandTokens right

def relatedTokens (op : Relation) (left right : Expression) : List Token :=
  memberTokens (c.operandTokens left) (op.functionTowards false) (c.operandTokens right)

def testsEnvelope (op : Relation) : Bool := op != .disjoint

def testsExactly (op : Relation) : Bool := !(op == .boundingBox && c.loose)

def relationTokens (op : Relation) (property : String) (g : Geometry) (swapped : Bool) :
    List Token :=
  let exact := exactTokens (op.functionTowards swapped) property g
  if testsEnvelope op then
    if c.testsExactly op then envelopeTokens property g ++ .word "AND" :: exact
    else envelopeTokens property g
  else exact

mutual

def template : Predicate → List Token
  | .everything | .all [] => trueTokens
  | .nothing | .any [] => falseTokens
  | .all children => groupTokens ([.word "AND"].intercalate (templates children))
  | .any children => groupTokens ([.word "OR"].intercalate (templates children))
  | .not child => .word "NOT" :: groupTokens (template child)
  | .compare op left right => c.comparisonTokens op left right
  | .isNull operand => nullTokens (c.operandTokens operand)
  | .relation op property g swapped => c.relationTokens op property g swapped
  | .distance op property g limit swapped => distanceTokens op property g limit swapped
  | .related op left right => c.relatedTokens op left right
termination_by structural p => p

def templates : List Predicate → List (List Token)
  | [] => []
  | p :: rest => template p :: templates rest
termination_by structural ps => ps

end

end Compiler

/-! ## Reading what is written -/

theorem reads_geometry (g : Geometry) : Reads (Compiler.geometry g) (geometryTokens g) := by
  have hfunction : Sql.isWord "ST_Geometry" = true := by decide
  have hsplit : "ST_Geometry(" = "ST_Geometry" ++ "(" := rfl
  rw [Compiler.geometry, hsplit]
  exact Reads.call hfunction (Sql.reads_string (Wkt.write g.normalized.geometry))

theorem reads_comparison (op : Comparison) : Reads op.sql [op.token] := by
  have hsigns {text : String} (h : Sql.isOperator text = true) : Reads text [.operator text] :=
    Sql.reads_operator h
  cases op with
  | like => exact Sql.reads_word (by decide)
  | _ => exact hsigns (by decide)

theorem isWord_function {op : Relation} {swapped : Bool} {function : String}
    (h : op.functionTowards? swapped = some function) : Sql.isWord function = true := by
  cases op <;> cases swapped <;> cases h <;> decide

theorem reads_envelopeTest (property : String) (g : Geometry) :
    Reads (Compiler.envelopeTest property g) (envelopeTokens property g) := by
  have hsign : Reads "&&" [.operator "&&"] := Sql.reads_operator (by decide)
  have hsplit : " && " = " " ++ "&&" ++ " " := rfl
  rw [Compiler.envelopeTest, hsplit]
  exact (Sql.reads_name property).spaced hsign (reads_geometry g)

theorem reads_exactTest {function : String} (hfunction : Sql.isWord function = true)
    (property : String) (g : Geometry) :
    Reads (Compiler.exactTest function property g) (exactTokens function property g) :=
  (Sql.reads_name property).member hfunction (reads_geometry g)

namespace Compiler

variable {c : Compiler}

theorem reads_expression (c : Compiler) (e : Expression) :
    Reads (c.expression e) (c.operandTokens e) := by
  cases e with
  | property name => exact Sql.reads_name name
  | literal value => exact Sql.reads_literal c.literals value
  | geometry g => exact reads_geometry g

theorem reads_relation {op : Relation} {property : String} {g : Geometry} {swapped : Bool}
    {sql : String} (h : c.relation op property g swapped = .ok sql) :
    Reads sql (c.relationTokens op property g swapped) := by
  obtain ⟨function, hfunction, rfl⟩ := relation_eq_ok_iff.1 h
  have htowards : op.functionTowards swapped = function := by
    rw [Relation.functionTowards, hfunction, Option.getD_some]
  have hexact := reads_exactTest (isWord_function hfunction) property g
  have henvelope := reads_envelopeTest property g
  have hand : Reads "AND" [.word "AND"] := Sql.reads_word (by decide)
  have hsplit : " AND " = " " ++ "AND" ++ " " := rfl
  rw [relationTests, relationTokens, htowards]
  by_cases hdisjoint : op = .disjoint
  · subst hdisjoint
    exact hexact
  · have htests : testsEnvelope op = true := by simpa [testsEnvelope] using hdisjoint
    by_cases hloose : op = .boundingBox ∧ c.loose = true
    · have hexactly : c.testsExactly op = false := by simp [testsExactly, hloose]
      simp only [htests, hexactly, if_neg hdisjoint, if_pos hloose]
      exact henvelope
    · have hexactly : c.testsExactly op = true := by
        rw [not_and_or] at hloose
        simpa [testsExactly] using hloose
      simp only [htests, hexactly, if_neg hdisjoint, if_neg hloose, hsplit]
      exact henvelope.spaced hand hexact

theorem reads_distance {op : DistanceBound} {property : String} {g : Geometry} {limit : Binary64}
    {swapped : Bool} {sql : String} (h : distance op property g limit swapped = .ok sql) :
    Reads sql (distanceTokens op property g limit swapped) := by
  obtain ⟨hfinite, rfl⟩ := distance_eq_ok_iff.1 h
  have hname := Sql.reads_name property
  have hgeometry := reads_geometry g
  have hlimit := Sql.reads_signedNumber (Sql.isSigned_literal hfinite)
  unfold distanceTokens
  split
  · have hargument : Reads (geometry g ++ ("," ++ limit.literal))
        (geometryTokens g ++ .mark ',' :: signedNumber limit.literal) := by
      apply hgeometry.append (hlimit.after_mark (String.toList_singleton ',') rfl)
      · simp [Sql.isApart]
      · simp
    have hmember : Sql.isWord "ST_WithinDistance" = true := by decide
    have hsplit : identifier property ++ ".ST_WithinDistance(" ++ geometry g ++ ","
          ++ limit.literal ++ ")"
        = identifier property ++ "." ++ "ST_WithinDistance" ++ "("
          ++ (geometry g ++ ("," ++ limit.literal)) ++ ")" := by
      rw [← String.toList_inj]
      simp
    rw [hsplit]
    exact hname.member hmember hargument
  · have hmember : Sql.isWord "ST_Distance" = true := by decide
    have hsign : Reads ">" [.operator ">"] := Sql.reads_operator (by decide)
    have hsplit : identifier property ++ ".ST_Distance(" ++ geometry g ++ ") > "
          ++ limit.literal
        = identifier property ++ "." ++ "ST_Distance" ++ "(" ++ geometry g ++ ")"
          ++ (" " ++ ">" ++ " ") ++ limit.literal := by
      rw [← String.toList_inj]
      simp
    rw [hsplit]
    exact (hname.member hmember hgeometry).spaced hsign hlimit

theorem reads_joined {word : String} (hword : Sql.isWord word = true) {conditions : List String}
    {parts : List (List Token)} (h : List.Forall₂ Reads conditions parts)
    (hne : conditions ≠ []) :
    Reads (joined (" " ++ word ++ " ") conditions)
      (groupTokens ([Token.word word].intercalate parts)) :=
  (Reads.intercalate hword h hne).enclosed

theorem reads_everything : Reads "1 = 1" trueTokens := by
  have hone : Sql.IsDigits "1".toList := ⟨by decide, List.all_eq_true.1 rfl⟩
  have hsign : Reads "=" [.operator "="] := Sql.reads_operator (by decide)
  have hnumber := Sql.reads_number hone.isNumeral
  have hsplit : "1 = 1" = "1" ++ (" " ++ "=" ++ " ") ++ "1" := rfl
  rw [hsplit]
  exact hnumber.spaced hsign hnumber

theorem reads_nothing : Reads "0 = 1" falseTokens := by
  have hzero : Sql.IsDigits "0".toList := ⟨by decide, List.all_eq_true.1 rfl⟩
  have hone : Sql.IsDigits "1".toList := ⟨by decide, List.all_eq_true.1 rfl⟩
  have hsign : Reads "=" [.operator "="] := Sql.reads_operator (by decide)
  have hsplit : "0 = 1" = "0" ++ (" " ++ "=" ++ " ") ++ "1" := rfl
  rw [hsplit]
  exact (Sql.reads_number hzero.isNumeral).spaced hsign (Sql.reads_number hone.isNumeral)

mutual

theorem reads_compile : (p : Predicate) → {sql : String} → c.compile p = .ok sql →
    Reads sql (c.template p)
  | .everything, sql, h | .all [], sql, h => by
    cases h
    exact reads_everything
  | .nothing, sql, h | .any [], sql, h => by
    cases h
    exact reads_nothing
  | .all (p :: ps), sql, h => by
    obtain ⟨conditions, hconditions, rfl⟩ := map_eq_ok_iff.1 h
    have hreads := reads_compileAll (p :: ps) hconditions
    have hne : conditions ≠ [] := by
      rintro rfl
      cases hreads
    have hsplit : " AND " = " " ++ "AND" ++ " " := rfl
    rw [hsplit]
    exact reads_joined (by decide) hreads hne
  | .any (p :: ps), sql, h => by
    obtain ⟨conditions, hconditions, rfl⟩ := map_eq_ok_iff.1 h
    have hreads := reads_compileAll (p :: ps) hconditions
    have hne : conditions ≠ [] := by
      rintro rfl
      cases hreads
    have hsplit : " OR " = " " ++ "OR" ++ " " := rfl
    rw [hsplit]
    exact reads_joined (by decide) hreads hne
  | .not child, sql, h => by
    obtain ⟨condition, hcondition, rfl⟩ := map_eq_ok_iff.1 h
    have hgroup := (reads_compile child hcondition).enclosed
    have hnot : Reads "NOT" [.word "NOT"] := Sql.reads_word (by decide)
    have hsplit : "NOT (" ++ condition ++ ")" = "NOT" ++ (" " ++ ("(" ++ condition ++ ")")) := by
      rw [← String.toList_inj]
      simp
    rw [hsplit]
    apply hnot.append hgroup.blank
    · simp [Sql.isApart]
    · simp
  | .compare op left right, sql, h => by
    have hleft := reads_expression c left
    have hspaced := hleft.spaced (reads_comparison op) (reads_expression c right)
    have hsplit : c.expression left ++ " " ++ op.sql ++ " " ++ c.expression right
        = c.expression left ++ (" " ++ op.sql ++ " ") ++ c.expression right := by
      simp only [String.append_assoc]
    cases h
    rw [hsplit]
    exact hspaced
  | .isNull operand, sql, h => by
    have hnull : Reads "NULL" [.word "NULL"] := Sql.reads_word (by decide)
    have his : Reads "IS" [.word "IS"] := Sql.reads_word (by decide)
    have hspaced := (reads_expression c operand).spaced his hnull
    have hsplit : c.expression operand ++ " IS NULL"
        = c.expression operand ++ (" " ++ "IS" ++ " ") ++ "NULL" := by
      rw [← String.toList_inj]
      simp
    cases h
    rw [hsplit]
    exact hspaced
  | .relation op property g swapped, sql, h => reads_relation h
  | .distance op property g limit swapped, sql, h => reads_distance h
  | .related op left right, sql, h => by
    obtain ⟨function, hcall, rfl⟩ := map_eq_ok_iff.1 h
    have hfunction : op.functionTowards? false = some function := relationFunction_eq_ok_iff.1 hcall
    have hreads := (reads_expression c left).member (isWord_function hfunction)
      (reads_expression c right)
    have htowards : op.functionTowards false = function := by
      rw [Relation.functionTowards, hfunction, Option.getD_some]
    rw [template, relatedTokens, htowards]
    exact hreads

theorem reads_compileAll : (ps : List Predicate) → {conditions : List String} →
    c.compileAll ps = .ok conditions → List.Forall₂ Reads conditions (c.templates ps)
  | [], conditions, h => by
    cases h
    exact .nil
  | p :: ps, conditions, h => by
    obtain ⟨first, others, hfirst, hothers, rfl⟩ := compileAll_cons_eq_ok_iff.1 h
    exact .cons (reads_compile p hfirst) (reads_compileAll ps hothers)

end

end Compiler

end SpatialSql.Filter
