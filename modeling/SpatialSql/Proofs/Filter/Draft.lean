import SpatialSql.Proofs.Filter.Compilation
import SpatialSql.Proofs.Outcome
/-!
# Drafts of filters

The text of a filter is drafted once for both modes, with the exact tests of its bounding boxes set
apart.  The strict text is the whole draft, and the loose text is what it keeps without them.
-/

namespace SpatialSql.Filter

/-! ## Bounding boxes -/

structure Box where
  property : String
  geometry : Geometry
  negations : Nat

def Box.negate (box : Box) : Box := { box with negations := box.negations + 1 }

mutual

/-- The bounding boxes of a filter, from the left.  A bounding box between two expressions has no
test on envelopes and is none of them. -/
def boxes : Predicate → List Box
  | .all children | .any children => boxesAll children
  | .not child => (boxes child).map Box.negate
  | .relation .boundingBox property g _ => [⟨property, g, 0⟩]
  | _ => []
termination_by structural p => p

def boxesAll : List Predicate → List Box
  | [] => []
  | p :: rest => boxes p ++ boxesAll rest
termination_by structural ps => ps

end

/-! ## Drafts -/

/-- A part of a text: one that stands in both modes, or the exact test of a bounding box. -/
inductive Piece where
  | kept (text : String)
  | conjunct (property : String) (g : Geometry)

def Piece.text (loose : Bool) : Piece → String
  | .kept text => text
  | .conjunct property g =>
    if loose then "" else " AND " ++ Compiler.exactTest "ST_Intersects" property g

def Piece.conjunct? : Piece → Option (String × Geometry)
  | .kept _ => none
  | .conjunct property g => some (property, g)

abbrev Draft := List Piece

namespace Draft

def text (loose : Bool) (draft : Draft) : String := String.join (draft.map (Piece.text loose))

def conjuncts (draft : Draft) : List (String × Geometry) := draft.filterMap Piece.conjunct?

def joined (joiner : String) (drafts : List Draft) : Draft :=
  .kept "(" :: ([Piece.kept joiner].intercalate drafts ++ [.kept ")"])

end Draft

mutual

/-- The draft of a filter, which is the same in both modes. -/
def draft (literals : Sql.LiteralSyntax) : Predicate → Except Unsupported Draft
  | .all [] => .ok [.kept "1 = 1"]
  | .any [] => .ok [.kept "0 = 1"]
  | .all children => (draftAll literals children).map (Draft.joined " AND ")
  | .any children => (draftAll literals children).map (Draft.joined " OR ")
  | .not child => (draft literals child).map fun inner => .kept "NOT (" :: (inner ++ [.kept ")"])
  | .relation .boundingBox property g _ =>
    .ok [.kept (Compiler.envelopeTest property g), .conjunct property g]
  | p => ((Compiler.mk literals false).compile p).map fun sql => [.kept sql]
termination_by structural p => p

def draftAll (literals : Sql.LiteralSyntax) : List Predicate → Except Unsupported (List Draft)
  | [] => .ok []
  | p :: rest => do
    let first ← draft literals p
    let others ← draftAll literals rest
    return first :: others
termination_by structural ps => ps

end

namespace Draft

theorem text_cons (loose : Bool) (piece : Piece) (rest : Draft) :
    text loose (piece :: rest) = piece.text loose ++ text loose rest := by
  rw [text, List.map_cons, String.join_cons, ← text]

theorem text_append (loose : Bool) (front back : Draft) :
    text loose (front ++ back) = text loose front ++ text loose back := by
  induction front with
  | nil =>
    have hempty : text loose [] = "" := rfl
    rw [List.nil_append, hempty, String.empty_append]
  | cons piece front ih => rw [List.cons_append, text_cons, text_cons, ih, String.append_assoc]

theorem text_kept (loose : Bool) (sql : String) : text loose [.kept sql] = sql := by
  rw [text_cons, text, List.map_nil, String.join_nil, String.append_empty, Piece.text]

theorem text_joined (loose : Bool) (joiner : String) (drafts : List Draft) :
    text loose (joined joiner drafts) = Compiler.joined joiner (drafts.map (text loose)) := by
  have hjoiner : text loose ([Piece.kept joiner].intercalate drafts) =
      joiner.intercalate (drafts.map (text loose)) := by
    induction drafts with
    | nil => rfl
    | cons first drafts ih =>
      cases drafts with
      | nil => rw [List.intercalate_singleton, List.map_singleton, String.intercalate_singleton]
      | cons second drafts =>
        rw [List.intercalate_cons_cons, text_append, text_append, text_kept, ih]
        simp only [List.map_cons, String.intercalate_cons_cons]
  rw [joined, text_cons, text_append, text_kept, hjoiner, Compiler.joined, ← String.append_assoc]
  rfl

theorem text_eq_of_conjuncts {pieces : Draft} (h : pieces.conjuncts = []) :
    pieces.text true = pieces.text false := by
  induction pieces with
  | nil => rfl
  | cons piece pieces ih =>
    cases piece with
    | kept sql => rw [text_cons, text_cons, ih h, Piece.text, Piece.text]
    | conjunct property g => cases h

theorem conjuncts_append (front back : Draft) :
    conjuncts (front ++ back) = conjuncts front ++ conjuncts back :=
  List.filterMap_append

theorem conjuncts_kept (sql : String) (rest : Draft) :
    conjuncts (.kept sql :: rest) = conjuncts rest := rfl

theorem conjuncts_joined (joiner : String) (drafts : List Draft) :
    conjuncts (joined joiner drafts) = drafts.flatMap conjuncts := by
  have hjoiner : conjuncts ([Piece.kept joiner].intercalate drafts) =
      drafts.flatMap conjuncts := by
    induction drafts with
    | nil => rfl
    | cons first drafts ih =>
      cases drafts with
      | nil => rw [List.intercalate_singleton, List.flatMap_singleton]
      | cons second drafts =>
        rw [List.intercalate_cons_cons, conjuncts_append, conjuncts_append, conjuncts_kept, ih,
          List.flatMap_cons]
        exact congrArg (· ++ _) (List.append_nil _)
  rw [joined, conjuncts_kept, conjuncts_append, hjoiner]
  exact List.append_nil _

end Draft

/-! ## Texts are drafted -/

section Drafting

variable (literals : Sql.LiteralSyntax) (loose : Bool)

theorem compile_eq_draft_of_kept {p : Predicate}
    (hmode : (Compiler.mk literals loose).compile p = (Compiler.mk literals false).compile p)
    (hdraft : draft literals p =
      ((Compiler.mk literals false).compile p).map fun sql => [.kept sql]) :
    (Compiler.mk literals loose).compile p = (draft literals p).map (Draft.text loose) := by
  rw [hmode, hdraft]
  cases (Compiler.mk literals false).compile p with
  | error fault => rfl
  | ok sql => exact congrArg Except.ok (Draft.text_kept loose sql).symm

theorem compile_eq_draft_box (property : String) (g : Geometry) (swapped : Bool) :
    (Compiler.mk literals loose).compile (.relation .boundingBox property g swapped) =
      .ok (Draft.text loose [.kept (Compiler.envelopeTest property g), .conjunct property g]) := by
  rw [Draft.text_cons, Draft.text_cons]
  cases loose with
  | false =>
    have htext : Compiler.envelopeTest property g ++ " AND "
          ++ Compiler.exactTest "ST_Intersects" property g
        = Compiler.envelopeTest property g ++ (" AND "
          ++ Compiler.exactTest "ST_Intersects" property g ++ "") := by
      rw [String.append_empty, String.append_assoc]
    cases swapped <;> exact congrArg Except.ok htext
  | true =>
    have htext : Compiler.envelopeTest property g
        = Compiler.envelopeTest property g ++ ("" ++ "") := by
      rw [String.append_empty, String.append_empty]
    cases swapped <;> exact congrArg Except.ok htext

theorem compile_relation_of_ne {op : Relation} (hop : op ≠ .boundingBox) (property : String)
    (g : Geometry) (swapped : Bool) :
    (Compiler.mk literals loose).compile (.relation op property g swapped) =
      (Compiler.mk literals false).compile (.relation op property g swapped) := by
  simp only [Compiler.compile, Compiler.relation, hop, false_and, if_false]

theorem draft_relation_of_ne {op : Relation} (hop : op ≠ .boundingBox) (property : String)
    (g : Geometry) (swapped : Bool) : draft literals (.relation op property g swapped) =
      ((Compiler.mk literals false).compile (.relation op property g swapped)).map
        fun sql => [.kept sql] := by
  cases op <;> first | rfl | exact absurd rfl hop

mutual

theorem compile_eq_draft : (p : Predicate) →
    (Compiler.mk literals loose).compile p = (draft literals p).map (Draft.text loose)
  | .all (p :: ps) | .any (p :: ps) => by
    have hall := compileAll_eq_draftAll (p :: ps)
    rw [Compiler.compile.eq_def, draft.eq_def]
    simp only [hall]
    cases draftAll literals (p :: ps) with
    | error fault => rfl
    | ok drafts => exact congrArg Except.ok (Draft.text_joined loose _ drafts).symm
  | .not child => by
    rw [Compiler.compile, draft, compile_eq_draft child]
    cases draft literals child with
    | error fault => rfl
    | ok inner =>
      have htext : Draft.text loose (.kept "NOT (" :: (inner ++ [.kept ")"])) =
          "NOT (" ++ Draft.text loose inner ++ ")" := by
        rw [Draft.text_cons, Draft.text_append, Draft.text_kept, String.append_assoc, Piece.text]
      exact congrArg Except.ok htext.symm
  | .relation op property g swapped => by
    by_cases hop : op = .boundingBox
    · subst hop
      exact compile_eq_draft_box literals loose property g swapped
    · exact compile_eq_draft_of_kept literals loose
        (compile_relation_of_ne literals loose hop property g swapped)
        (draft_relation_of_ne literals hop property g swapped)
  | .all [] | .any [] | .everything | .nothing | .compare _ _ _ | .isNull _
  | .distance _ _ _ _ _ | .related _ _ _ => compile_eq_draft_of_kept literals loose rfl rfl

theorem compileAll_eq_draftAll : (ps : List Predicate) →
    (Compiler.mk literals loose).compileAll ps =
      (draftAll literals ps).map (List.map (Draft.text loose))
  | [] => rfl
  | p :: ps => by
    rw [Compiler.compileAll, draftAll, compile_eq_draft p, compileAll_eq_draftAll ps]
    cases draft literals p with
    | error fault => rfl
    | ok first => cases draftAll literals ps <;> rfl

end

def Box.operands (box : Box) : String × Geometry := (box.property, box.geometry)

theorem conjuncts_of_kept {p : Predicate} {pieces : Draft}
    (hdraft : draft literals p =
      ((Compiler.mk literals false).compile p).map fun sql => [.kept sql])
    (h : draft literals p = .ok pieces) : pieces.conjuncts = [] := by
  rw [hdraft] at h
  obtain ⟨sql, -, rfl⟩ := Compiler.map_eq_ok_iff.1 h
  rfl

mutual

theorem conjuncts_draft : (p : Predicate) → {pieces : Draft} → draft literals p = .ok pieces →
    pieces.conjuncts = (boxes p).map Box.operands
  | .all (p :: ps), pieces, h | .any (p :: ps), pieces, h => by
    obtain ⟨drafts, hdrafts, rfl⟩ := Compiler.map_eq_ok_iff.1 h
    rw [Draft.conjuncts_joined, conjuncts_draftAll (p :: ps) hdrafts, boxes]
  | .not child, pieces, h => by
    obtain ⟨inner, hinner, rfl⟩ := Compiler.map_eq_ok_iff.1 h
    have hclosing : Draft.conjuncts [.kept ")"] = [] := rfl
    have hoperands : Box.operands ∘ Box.negate = Box.operands := rfl
    rw [Draft.conjuncts_kept, Draft.conjuncts_append, conjuncts_draft child hinner, hclosing,
      List.append_nil, boxes, List.map_map, hoperands]
  | .relation op property g swapped, pieces, h => by
    by_cases hop : op = .boundingBox
    · subst hop
      cases h
      rfl
    · rw [conjuncts_of_kept literals (draft_relation_of_ne literals hop property g swapped) h]
      cases op <;> first | rfl | exact absurd rfl hop
  | .all [], pieces, h | .any [], pieces, h | .everything, pieces, h | .nothing, pieces, h
  | .compare _ _ _, pieces, h | .isNull _, pieces, h | .distance _ _ _ _ _, pieces, h
  | .related _ _ _, pieces, h => conjuncts_of_kept literals rfl h

theorem conjuncts_draftAll : (ps : List Predicate) → {drafts : List Draft} →
    draftAll literals ps = .ok drafts →
    drafts.flatMap Draft.conjuncts = (boxesAll ps).map Box.operands
  | [], drafts, h => by
    cases h
    rfl
  | p :: ps, drafts, h => by
    rw [draftAll] at h
    obtain ⟨first, hfirst, h⟩ := bind_eq_ok.1 h
    obtain ⟨others, hothers, h⟩ := bind_eq_ok.1 h
    cases h
    rw [List.flatMap_cons, conjuncts_draft p hfirst, conjuncts_draftAll ps hothers, boxesAll,
      List.map_append]

end

end Drafting

end SpatialSql.Filter
