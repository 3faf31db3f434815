import SpatialSql.Proofs.Filter.Draft
import SpatialSql.Proofs.Filter.Meaning
/-!
# Loose bounding boxes

A bounding box that is tested on envelopes alone holds at least where the strict one does, and
under an even number of negations so does the filter around it.
-/

namespace SpatialSql.Filter

open Sql (Token Condition Parses)

/-! ## The weaker filter -/

/-- The second value follows from the first under an even number of negations, and the first from
the second under an odd number. -/
def Follows (negations : Nat) (a b : Bool) : Prop :=
  if negations % 2 = 0 then a = true → b = true else b = true → a = true

namespace Follows

variable {n : Nat} {a b a' b' : Bool}

theorem refl (n : Nat) (a : Bool) : Follows n a a := by
  unfold Follows
  split <;> exact id

theorem not (h : Follows (n + 1) a b) : Follows n (!a) (!b) := by
  unfold Follows at h ⊢
  by_cases heven : n % 2 = 0
  · rw [if_neg (by omega)] at h
    rw [if_pos heven]
    cases b with
    | false => exact fun _ => rfl
    | true => simp [h rfl]
  · rw [if_pos (by omega)] at h
    rw [if_neg heven]
    cases a with
    | false => exact fun _ => rfl
    | true => simp [h rfl]

theorem and (h : Follows n a b) (h' : Follows n a' b') : Follows n (a && a') (b && b') := by
  unfold Follows at h h' ⊢
  rw [Bool.and_eq_true, Bool.and_eq_true]
  by_cases heven : n % 2 = 0
  · rw [if_pos heven] at h h' ⊢
    exact And.imp h h'
  · rw [if_neg heven] at h h' ⊢
    exact And.imp h h'

theorem or (h : Follows n a b) (h' : Follows n a' b') : Follows n (a || a') (b || b') := by
  unfold Follows at h h' ⊢
  rw [Bool.or_eq_true, Bool.or_eq_true]
  by_cases heven : n % 2 = 0
  · rw [if_pos heven] at h h' ⊢
    exact Or.imp h h'
  · rw [if_neg heven] at h h' ⊢
    exact Or.imp h h'

variable {holds : List Token → Bool} {es fs : List Condition}

theorem all (h : List.Forall₂ (fun e f => Follows n (e.eval holds) (f.eval holds)) es fs) :
    Follows n (es.all (·.eval holds)) (fs.all (·.eval holds)) := by
  induction h with
  | nil => exact refl n true
  | cons hfirst hrest ih => exact hfirst.and ih

theorem any (h : List.Forall₂ (fun e f => Follows n (e.eval holds) (f.eval holds)) es fs) :
    Follows n (es.any (·.eval holds)) (fs.any (·.eval holds)) := by
  induction h with
  | nil => exact refl n false
  | cons hfirst hrest ih => exact hfirst.or ih

end Follows

/-- Whether every bounding box of some is under an even number of negations, when `negations` more
are around them all. -/
def AllEven (negations : Nat) (boxes : List Box) : Prop :=
  ∀ box ∈ boxes, (box.negations + negations) % 2 = 0

theorem AllEven.negate {n : Nat} {inner : List Box} (h : AllEven n (inner.map Box.negate)) :
    AllEven (n + 1) inner := by
  intro box hbox
  have hmapped := h box.negate (List.mem_map_of_mem hbox)
  rw [Box.negate, Nat.add_right_comm] at hmapped
  exact hmapped

theorem allEven_append {n : Nat} {front back : List Box} :
    AllEven n (front ++ back) ↔ AllEven n front ∧ AllEven n back :=
  List.forall_mem_append

/-- The conditions that a filter stands for in the two modes, the strict one first. -/
structure InModes (literals : Sql.LiteralSyntax) (p : Predicate) (e f : Condition) : Prop where
  strict : Parses .conjunction ((Compiler.mk literals false).template p) e
  loose : Parses .conjunction ((Compiler.mk literals true).template p) f
  follows : ∀ n, AllEven n (boxes p) → ∀ holds, Follows n (e.eval holds) (f.eval holds)

structure AllInModes (literals : Sql.LiteralSyntax) (ps : List Predicate)
    (es fs : List Condition) : Prop where
  strict : List.Forall₂ (Parses .conjunction) ((Compiler.mk literals false).templates ps) es
  loose : List.Forall₂ (Parses .conjunction) ((Compiler.mk literals true).templates ps) fs
  follows : ∀ n, AllEven n (boxesAll ps) → ∀ holds,
    List.Forall₂ (fun e f => Follows n (e.eval holds) (f.eval holds)) es fs

section Modes

variable (literals : Sql.LiteralSyntax)

theorem exists_inModes_of_kept {p : Predicate}
    (hmode : (Compiler.mk literals true).template p =
      (Compiler.mk literals false).template p) : ∃ e f, InModes literals p e f := by
  obtain ⟨e, he, -⟩ := Compiler.parses_template ⟨literals, false⟩ p
  exact ⟨e, e, he, hmode ▸ he, fun n _ holds => .refl n (e.eval holds)⟩

theorem exists_inModes_box (property : String) (g : Geometry) (swapped : Bool) :
    ∃ e f, InModes literals (.relation .boundingBox property g swapped) e f := by
  have henvelope := parses_envelope property g
  have hexact := parses_exact .boundingBox property g swapped
  refine ⟨_, _, .and (t := .word "AND") (by decide) henvelope (.factor hexact),
    .factor henvelope, ?_⟩
  intro n heven holds
  have hn := heven ⟨property, g, 0⟩ List.mem_cons_self
  rw [Nat.zero_add] at hn
  rw [Follows, if_pos hn]
  simp only [Condition.eval, Bool.and_eq_true]
  exact And.left

mutual

/-- Without an exact test the condition of a bounding box is the weaker one. -/
theorem exists_inModes : (p : Predicate) → ∃ e f, InModes literals p e f
  | .all (p :: ps) => by
    obtain ⟨es, fs, hmodes⟩ := exists_allInModes (p :: ps)
    obtain ⟨e, he, heval⟩ :=
      Sql.parses_all (t := .word "AND") (by decide) hmodes.strict (List.cons_ne_nil _ _)
    obtain ⟨f, hf, hfeval⟩ :=
      Sql.parses_all (t := .word "AND") (by decide) hmodes.loose (List.cons_ne_nil _ _)
    refine ⟨e, f, .factor (.primary (.group (.conjunction he))),
      .factor (.primary (.group (.conjunction hf))), ?_⟩
    intro n heven holds
    rw [heval, hfeval]
    exact .all (hmodes.follows n heven holds)
  | .any (p :: ps) => by
    obtain ⟨es, fs, hmodes⟩ := exists_allInModes (p :: ps)
    obtain ⟨e, he, heval⟩ :=
      Sql.parses_any (t := .word "OR") (by decide) hmodes.strict (List.cons_ne_nil _ _)
    obtain ⟨f, hf, hfeval⟩ :=
      Sql.parses_any (t := .word "OR") (by decide) hmodes.loose (List.cons_ne_nil _ _)
    refine ⟨e, f, .factor (.primary (.group he)), .factor (.primary (.group hf)), ?_⟩
    intro n heven holds
    rw [heval, hfeval]
    exact .any (hmodes.follows n heven holds)
  | .not child => by
    obtain ⟨e, f, hmodes⟩ := exists_inModes child
    refine ⟨.not e, .not f, .factor (.not (by decide) (.primary (.group (.conjunction
      hmodes.strict)))), .factor (.not (by decide) (.primary (.group (.conjunction
      hmodes.loose)))), ?_⟩
    intro n heven holds
    -- around the boxes of the child there is one negation more
    exact (hmodes.follows (n + 1) heven.negate holds).not
  | .relation op property g swapped => by
    by_cases hop : op = .boundingBox
    · subst hop
      exact exists_inModes_box literals property g swapped
    · apply exists_inModes_of_kept
      cases op <;> first | rfl | exact absurd rfl hop
  | .all [] | .any [] | .everything | .nothing | .compare _ _ _ | .isNull _
  | .distance _ _ _ _ _ | .related _ _ _ => exists_inModes_of_kept literals rfl

theorem exists_allInModes : (ps : List Predicate) → ∃ es fs, AllInModes literals ps es fs
  | [] => ⟨[], [], .nil, .nil, fun _ _ _ => .nil⟩
  | p :: ps => by
    obtain ⟨e, f, hfirst⟩ := exists_inModes p
    obtain ⟨es, fs, hrest⟩ := exists_allInModes ps
    refine ⟨e :: es, f :: fs, .cons hfirst.strict hrest.strict,
      .cons hfirst.loose hrest.loose, ?_⟩
    intro n heven holds
    obtain ⟨hp, hps⟩ := allEven_append.1 heven
    exact .cons (hfirst.follows n hp holds) (hrest.follows n hps holds)

end

end Modes

def Says (sql : String) (e : Condition) : Prop :=
  ∃ tokens, Sql.lex sql.toList = some tokens ∧ ∀ e', Parses .disjunction tokens e' ↔ e' = e

theorem says_of_compile {c : Compiler} {p : Predicate} {sql : String} {e : Condition}
    (h : c.compile p = .ok sql) (he : Parses .conjunction (c.template p) e) : Says sql e := by
  have hcondition : Parses .disjunction (c.template p) e := .conjunction he
  refine ⟨c.template p, (Compiler.reads_compile p h [] rfl).lex_eq, ?_⟩
  intro e'
  constructor
  · intro he'
    exact he'.unambiguous hcondition
  · rintro rfl
    exact hcondition

/-- The two modes refuse the same filters with the same fault, and differ only at bounding boxes:
the loose text is the strict one without the exact tests of these.  Where every bounding box is
under an even number of negations, the loose filter holds whenever the strict one does, whatever
the atomic conditions are worth. -/
theorem loose_only_weakens_boxes (literals : Sql.LiteralSyntax) (p : Predicate) :
    (∀ fault, (Compiler.mk literals true).compile p = .error fault ↔
      (Compiler.mk literals false).compile p = .error fault) ∧
    (boxes p = [] → (Compiler.mk literals true).compile p =
      (Compiler.mk literals false).compile p) ∧
    (∀ loose, (Compiler.mk literals loose).compile p =
      (draft literals p).map (Draft.text loose)) ∧
    (∀ pieces, draft literals p = .ok pieces →
      pieces.conjuncts = (boxes p).map Box.operands) ∧
    (AllEven 0 (boxes p) → ∀ strict loose, (Compiler.mk literals false).compile p = .ok strict →
      (Compiler.mk literals true).compile p = .ok loose →
      ∃ e f, Says strict e ∧ Says loose f ∧
        ∀ holds, e.eval holds = true → f.eval holds = true) := by
  have hdraft (loose : Bool) := compile_eq_draft literals loose p
  refine ⟨?_, ?_, hdraft, fun pieces => conjuncts_draft literals p, ?_⟩
  · intro fault
    rw [hdraft, hdraft]
    cases draft literals p with
    | error fault' => exact Iff.rfl
    | ok pieces => exact ⟨nofun, nofun⟩
  · intro hboxes
    rw [hdraft, hdraft]
    cases hpieces : draft literals p with
    | error fault => rfl
    | ok pieces =>
      have hnone : pieces.conjuncts = [] := by
        rw [conjuncts_draft literals p hpieces, hboxes, List.map_nil]
      exact congrArg Except.ok (Draft.text_eq_of_conjuncts hnone)
  · intro heven strict loose hstrict hloose
    obtain ⟨e, f, hmodes⟩ := exists_inModes literals p
    refine ⟨e, f, says_of_compile hstrict hmodes.strict, says_of_compile hloose hmodes.loose, ?_⟩
    intro holds
    have hfollows := hmodes.follows 0 heven holds
    rwa [Follows, if_pos rfl] at hfollows

theorem loose_only_weakens_boxes_twice_negated :
    ∃ e f, Says ("NOT ((NOT (\"g\" && ST_Geometry('POINT EMPTY') AND "
        ++ "\"g\".ST_Intersects(ST_Geometry('POINT EMPTY'))) OR \"name\" IS NULL))") e ∧
      Says "NOT ((NOT (\"g\" && ST_Geometry('POINT EMPTY')) OR \"name\" IS NULL))" f ∧
      ∀ holds, e.eval holds = true → f.eval holds = true :=
  (loose_only_weakens_boxes .ansi (.not (.any [.not (.relation .boundingBox "g" (.point none) true),
    .absent "name"]))).2.2.2.2 (by simp [AllEven, boxes, boxesAll, Predicate.absent, Box.negate])
    _ _ rfl rfl

end SpatialSql.Filter
