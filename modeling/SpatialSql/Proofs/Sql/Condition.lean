import Mathlib.Data.List.Forall2
import SpatialSql.Proofs.Sql.Token
import SpatialSql.Text.CaseFold
/-!
# Conditions

The grammar of boolean conditions over tokens: `NOT` binds tighter than `AND` and `AND` tighter
than `OR`, parentheses group, and every other condition is atomic.  Parentheses behind a word
that is none of the three belong to a function and to the atomic condition it stands in.  The
grammar is unambiguous.
-/

namespace SpatialSql.Sql

inductive Condition where
  | atom (tokens : List Token)
  | not (e : Condition)
  | and (left right : Condition)
  | or (left right : Condition)
  deriving DecidableEq

def Condition.eval (holds : List Token → Bool) : Condition → Bool
  | .atom tokens => holds tokens
  | .not e => !e.eval holds
  | .and left right => left.eval holds && right.eval holds
  | .or left right => left.eval holds || right.eval holds

namespace Token

def isKeyword (keyword : String) : Token → Bool
  | .word letters => Text.upper letters == keyword
  | _ => false

def isConnective (t : Token) : Bool :=
  t.isKeyword "NOT" || t.isKeyword "AND" || t.isKeyword "OR"

/-- Whether a token can stand in an atomic condition by itself. -/
def isPlain (t : Token) : Bool := !(t == opening || t == closing || t.isConnective)

def isWord : Token → Bool
  | .word _ => true
  | _ => false

end Token

/-! ## Parentheses -/

/-- How many parentheses are open behind a token, when `depth` are open in front of it; none if
one is closed that is not open. -/
def nest (depth : Nat) (t : Token) : Option Nat :=
  if t = .opening then some (depth + 1)
  else if t = .closing then if depth = 0 then none else some (depth - 1)
  else some depth

def depthAfter (depth : Nat) (tokens : List Token) : Option Nat := tokens.foldlM nest depth

def IsBalanced (tokens : List Token) : Prop := depthAfter 0 tokens = some 0

/-! ## The grammar -/

/-- The operands and operators of an atomic condition, functions with their arguments. -/
inductive IsOperands : List Token → Prop
  | nil : IsOperands []
  | plain {t : Token} {rest : List Token} :
    t.isPlain = true → IsOperands rest → IsOperands (t :: rest)
  | call {function : Token} {arguments rest : List Token} :
    function.isWord = true → function.isPlain = true → IsBalanced arguments → IsOperands rest →
      IsOperands (function :: (groupTokens arguments ++ rest))

/-- How tightly a condition binds. -/
inductive Level where
  | disjunction
  | conjunction
  | factor
  | primary
  deriving DecidableEq

inductive Parses : Level → List Token → Condition → Prop
  | atom {tokens : List Token} :
    tokens ≠ [] → IsOperands tokens → Parses .primary tokens (.atom tokens)
  | group {tokens : List Token} {e : Condition} :
    Parses .disjunction tokens e → Parses .primary (groupTokens tokens) e
  | primary {tokens : List Token} {e : Condition} :
    Parses .primary tokens e → Parses .factor tokens e
  | not {t : Token} {tokens : List Token} {e : Condition} :
    t.isKeyword "NOT" = true → Parses .factor tokens e → Parses .factor (t :: tokens) (.not e)
  | factor {tokens : List Token} {e : Condition} :
    Parses .factor tokens e → Parses .conjunction tokens e
  | and {t : Token} {tokens more : List Token} {e f : Condition} :
    t.isKeyword "AND" = true → Parses .factor tokens e → Parses .conjunction more f →
      Parses .conjunction (tokens ++ t :: more) (.and e f)
  | conjunction {tokens : List Token} {e : Condition} :
    Parses .conjunction tokens e → Parses .disjunction tokens e
  | or {t : Token} {tokens more : List Token} {e f : Condition} :
    t.isKeyword "OR" = true → Parses .conjunction tokens e → Parses .disjunction more f →
      Parses .disjunction (tokens ++ t :: more) (.or e f)

/-! ## Balanced parentheses -/

theorem depthAfter_cons (depth : Nat) (t : Token) (tokens : List Token) :
    depthAfter depth (t :: tokens) = (nest depth t).bind (depthAfter · tokens) :=
  List.foldlM_cons

theorem depthAfter_append (depth : Nat) (tokens more : List Token) :
    depthAfter depth (tokens ++ more) = (depthAfter depth tokens).bind (depthAfter · more) :=
  List.foldlM_append

theorem nest_add {depth after : Nat} {t : Token} (h : nest depth t = some after) (more : Nat) :
    nest (depth + more) t = some (after + more) := by
  unfold nest at h ⊢
  by_cases hopening : t = .opening
  · rw [if_pos hopening] at h ⊢
    cases h
    rw [Nat.add_right_comm]
  · rw [if_neg hopening] at h ⊢
    by_cases hclosing : t = .closing
    · rw [if_pos hclosing] at h ⊢
      by_cases hdepth : depth = 0
      · rw [if_pos hdepth] at h
        cases h
      · rw [if_neg hdepth] at h
        cases h
        rw [if_neg (by omega)]
        congr 1
        omega
    · rw [if_neg hclosing] at h ⊢
      cases h
      rfl

theorem depthAfter_add {depth after : Nat} {tokens : List Token}
    (h : depthAfter depth tokens = some after) (more : Nat) :
    depthAfter (depth + more) tokens = some (after + more) := by
  induction tokens generalizing depth with
  | nil =>
    cases h
    rfl
  | cons t tokens ih =>
    rw [depthAfter_cons] at h ⊢
    obtain ⟨inside, hinside, h⟩ := Option.bind_eq_some_iff.1 h
    rw [nest_add hinside more]
    exact ih h

theorem IsBalanced.append {tokens more : List Token} (h : IsBalanced tokens)
    (hmore : IsBalanced more) : IsBalanced (tokens ++ more) := by
  unfold IsBalanced at h hmore ⊢
  rw [depthAfter_append, h]
  exact hmore

theorem IsBalanced.group {tokens : List Token} (h : IsBalanced tokens) :
    IsBalanced (groupTokens tokens) := by
  have hinside : depthAfter 1 tokens = some 1 := by
    have := depthAfter_add h 1
    rwa [Nat.zero_add] at this
  have hopening : nest 0 .opening = some 1 := rfl
  unfold IsBalanced groupTokens
  rw [depthAfter_cons, hopening, Option.bind_some, depthAfter_append, hinside]
  rfl

theorem isBalanced_singleton {t : Token} (hopening : t ≠ .opening) (hclosing : t ≠ .closing) :
    IsBalanced [t] := by
  unfold IsBalanced
  rw [depthAfter_cons, nest, if_neg hopening, if_neg hclosing]
  rfl

theorem not_isBalanced_append_closing {tokens : List Token} (h : IsBalanced tokens)
    (more : List Token) : ¬IsBalanced (tokens ++ .closing :: more) := by
  have hclosing : nest 0 .closing = none := rfl
  unfold IsBalanced at h ⊢
  rw [depthAfter_append, h, Option.bind_some, depthAfter_cons, hclosing,
    Option.bind_none]
  exact nofun

theorem isBalanced_unique {tokens tokens' rest rest' : List Token} (h : IsBalanced tokens)
    (h' : IsBalanced tokens') (heq : tokens ++ .closing :: rest = tokens' ++ .closing :: rest') :
    tokens = tokens' ∧ rest = rest' := by
  obtain ⟨more, hmore, hrest⟩ | ⟨more, hmore, hrest⟩ := List.append_eq_append_iff.1 heq
  · cases more with
    | nil =>
      cases hrest
      exact ⟨(List.append_nil tokens ▸ hmore).symm, rfl⟩
    | cons t more =>
      cases hrest
      rw [hmore] at h'
      exact absurd h' (not_isBalanced_append_closing h more)
  · cases more with
    | nil =>
      cases hrest
      exact ⟨List.append_nil tokens' ▸ hmore, rfl⟩
    | cons t more =>
      cases hrest
      rw [hmore] at h
      exact absurd h (not_isBalanced_append_closing h' more)

/-! ## Unambiguity -/

theorem groupTokens_append (tokens rest : List Token) :
    groupTokens tokens ++ rest = .opening :: (tokens ++ .closing :: rest) := by
  simp [groupTokens]

/-- Whether a condition of some level ends in front of a token. -/
def Level.endsAt : Level → Token → Bool
  | .disjunction, t => t == .closing
  | .conjunction, t => t == .closing || t.isKeyword "OR"
  | _, t => t == .closing || t.isKeyword "OR" || t.isKeyword "AND"

def Level.Ends (level : Level) (rest : List Token) : Prop :=
  ∀ t ∈ rest.head?, level.endsAt t = true

section Keywords

variable {t : Token}

theorem Token.isKeyword_unique {keyword other : String} (h : t.isKeyword keyword = true)
    (hother : t.isKeyword other = true) : keyword = other := by
  cases t with
  | word letters =>
    simp only [isKeyword, beq_iff_eq] at h hother
    rw [← h, hother]
  | _ => cases h

theorem Token.ne_closing_of_isKeyword {keyword : String} (h : t.isKeyword keyword = true) :
    t ≠ .closing := by
  rintro rfl
  cases h

theorem Token.isPlain_iff : t.isPlain = true ↔ t ≠ .opening ∧ t ≠ .closing ∧
    t.isKeyword "NOT" = false ∧ t.isKeyword "AND" = false ∧ t.isKeyword "OR" = false := by
  simp [isPlain, isConnective, and_assoc]

theorem not_endsAt_of_isPlain (h : t.isPlain = true) : Level.endsAt .primary t = false := by
  obtain ⟨-, hclosing, -, hand, hor⟩ := Token.isPlain_iff.1 h
  simp [Level.endsAt, hclosing, hand, hor]

theorem Level.Ends.conjunction {rest : List Token} (h : Level.Ends .disjunction rest) :
    Level.Ends .conjunction rest := by
  intro t ht
  simp only [Level.endsAt, Bool.or_eq_true]
  exact .inl (h t ht)

theorem Level.Ends.factor {rest : List Token} (h : Level.Ends .conjunction rest) :
    Level.Ends .factor rest := by
  intro t ht
  simp only [Level.endsAt, Bool.or_eq_true]
  exact .inl (by simpa only [Level.endsAt, Bool.or_eq_true] using h t ht)

theorem ends_and (h : t.isKeyword "AND" = true) (rest : List Token) :
    Level.Ends .factor (t :: rest) := by
  intro _ ht
  cases ht
  simp [Level.endsAt, h]

theorem not_ends_and (h : t.isKeyword "AND" = true) (rest : List Token) :
    ¬Level.Ends .conjunction (t :: rest) := by
  intro hends
  have ht := hends t rfl
  simp only [Level.endsAt, Bool.or_eq_true, beq_iff_eq] at ht
  rcases ht with ht | ht
  · exact Token.ne_closing_of_isKeyword h ht
  · exact absurd (Token.isKeyword_unique h ht) (by decide)

theorem ends_or (h : t.isKeyword "OR" = true) (rest : List Token) :
    Level.Ends .conjunction (t :: rest) := by
  intro _ ht
  cases ht
  simp [Level.endsAt, h]

theorem not_ends_or (h : t.isKeyword "OR" = true) (rest : List Token) :
    ¬Level.Ends .disjunction (t :: rest) := by
  intro hends
  have ht := hends t rfl
  simp only [Level.endsAt, beq_iff_eq] at ht
  exact Token.ne_closing_of_isKeyword h ht

theorem ends_closing (level : Level) (rest : List Token) : level.Ends (.closing :: rest) := by
  intro _ ht
  cases ht
  cases level <;> rfl

end Keywords

theorem IsOperands.not_begins_opening {tokens rest more : List Token} (h : IsOperands tokens)
    (hrest : Level.Ends .primary rest) (heq : tokens ++ rest = .opening :: more) : False := by
  cases h with
  | nil =>
    rw [List.nil_append] at heq
    have := hrest .opening (by rw [heq]; rfl)
    cases this
  | plain hplain _ => exact (Token.isPlain_iff.1 hplain).1 (List.cons.inj heq).1
  | call _ hplain _ _ => exact (Token.isPlain_iff.1 hplain).1 (List.cons.inj heq).1

theorem IsOperands.unique {tokens tokens' rest rest' : List Token} (h : IsOperands tokens)
    (h' : IsOperands tokens') (heq : tokens ++ rest = tokens' ++ rest')
    (hrest : Level.Ends .primary rest) (hrest' : Level.Ends .primary rest') :
    tokens = tokens' := by
  have hends {t : Token} {more rest : List Token} (hplain : t.isPlain = true)
      (hrest : Level.Ends .primary rest) (heq : rest = t :: more) : False := by
    subst heq
    have ht := hrest t rfl
    rw [not_endsAt_of_isPlain hplain] at ht
    cases ht
  induction h generalizing tokens' with
  | nil =>
    cases h' with
    | nil => rfl
    | plain hplain _ => exact (hends hplain hrest heq).elim
    | call _ hplain _ _ => exact (hends hplain hrest heq).elim
  | plain hplain hoperands ih =>
    cases h' with
    | nil => exact (hends hplain hrest' heq.symm).elim
    | plain _ hoperands' =>
      rw [List.cons_append, List.cons_append] at heq
      obtain ⟨rfl, htail⟩ := List.cons.inj heq
      rw [ih hoperands' htail]
    | call _ _ _ hoperands' =>
      rw [List.cons_append, List.cons_append] at heq
      exact (hoperands.not_begins_opening hrest (List.cons.inj heq).2).elim
  | call hword hplain harguments hoperands ih =>
    rename_i function arguments operands
    cases h' with
    | nil => exact (hends hplain hrest' heq.symm).elim
    | plain _ hoperands' =>
      rw [List.cons_append, List.cons_append] at heq
      exact (hoperands'.not_begins_opening hrest' (List.cons.inj heq).2.symm).elim
    | call _ _ harguments' hoperands' =>
      rw [List.cons_append, List.cons_append, List.append_assoc, List.append_assoc,
        groupTokens_append, groupTokens_append] at heq
      obtain ⟨rfl, htail⟩ := List.cons.inj heq
      obtain ⟨rfl, hbehind⟩ := isBalanced_unique harguments harguments' (List.cons.inj htail).2
      rw [ih hoperands' hbehind]

theorem Parses.not_begins_not {t : Token} {tokens more rest rest' : List Token} {e : Condition}
    (h : Parses .primary tokens e) (hnot : t.isKeyword "NOT" = true)
    (heq : tokens ++ rest = t :: more ++ rest') : False := by
  have hhead {function : Token} {behind : List Token} (hplain : function.isPlain = true)
      (heq : function :: behind ++ rest = t :: more ++ rest') : False := by
    obtain ⟨rfl, -⟩ := List.cons.inj heq
    rw [(Token.isPlain_iff.1 hplain).2.2.1] at hnot
    cases hnot
  cases h with
  | atom hne hoperands =>
    cases hoperands with
    | nil => exact hne rfl
    | plain hplain _ => exact hhead hplain heq
    | call _ hplain _ _ => exact hhead hplain heq
  | group _ =>
    obtain ⟨rfl, -⟩ := List.cons.inj heq
    cases hnot

/-- A condition is the longest of its level, and its tokens say which. -/
theorem Parses.unique {level : Level} {tokens tokens' rest rest' : List Token} {e e' : Condition}
    (h : Parses level tokens e) (h' : Parses level tokens' e')
    (heq : tokens ++ rest = tokens' ++ rest') (hrest : level.Ends rest)
    (hrest' : level.Ends rest') : tokens = tokens' ∧ e = e' := by
  induction h generalizing tokens' rest rest' e' with
  | atom hne hoperands =>
    cases h' with
    | atom _ hoperands' =>
      have htokens := hoperands.unique hoperands' heq hrest hrest'
      exact ⟨htokens, by rw [htokens]⟩
    | group _ => exact (hoperands.not_begins_opening hrest heq).elim
  | group _ ih =>
    cases h' with
    | atom _ hoperands' => exact (hoperands'.not_begins_opening hrest' heq.symm).elim
    | group hinside =>
      rw [groupTokens_append, groupTokens_append] at heq
      obtain ⟨rfl, rfl⟩ := ih hinside (List.cons.inj heq).2 (ends_closing _ _) (ends_closing _ _)
      exact ⟨rfl, rfl⟩
  | primary hprimary ih =>
    cases h' with
    | primary hprimary' => exact ih hprimary' heq hrest hrest'
    | not hnot _ => exact (hprimary.not_begins_not hnot heq).elim
  | not hnot _ ih =>
    cases h' with
    | primary hprimary' => exact (hprimary'.not_begins_not hnot heq.symm).elim
    | not _ hfactor' =>
      rw [List.cons_append, List.cons_append] at heq
      obtain ⟨rfl, htail⟩ := List.cons.inj heq
      obtain ⟨rfl, rfl⟩ := ih hfactor' htail hrest hrest'
      exact ⟨rfl, rfl⟩
  | factor hfactor ih =>
    cases h' with
    | factor hfactor' => exact ih hfactor' heq hrest.factor hrest'.factor
    | and hand hfirst _ =>
      rw [List.append_assoc] at heq
      obtain ⟨rfl, -⟩ := ih hfirst heq hrest.factor (ends_and hand _)
      rw [List.append_cancel_left heq] at hrest
      exact absurd hrest (not_ends_and hand _)
  | and hand hfirst hmore ih ihmore =>
    rw [List.append_assoc] at heq
    cases h' with
    | factor hfactor =>
      obtain ⟨rfl, -⟩ := ih hfactor heq (ends_and hand _) hrest'.factor
      rw [← List.append_cancel_left heq] at hrest'
      exact absurd hrest' (not_ends_and hand _)
    | and hand' hfirst' hmore' =>
      rw [List.append_assoc] at heq
      obtain ⟨rfl, rfl⟩ := ih hfirst' heq (ends_and hand _) (ends_and hand' _)
      have hbehind := List.append_cancel_left heq
      rw [List.cons_append, List.cons_append] at hbehind
      obtain ⟨rfl, htail⟩ := List.cons.inj hbehind
      obtain ⟨rfl, rfl⟩ := ihmore hmore' htail hrest hrest'
      exact ⟨rfl, rfl⟩
  | conjunction hconjunction ih =>
    cases h' with
    | conjunction hconjunction' =>
      exact ih hconjunction' heq hrest.conjunction hrest'.conjunction
    | or hor hfirst _ =>
      rw [List.append_assoc] at heq
      obtain ⟨rfl, -⟩ := ih hfirst heq hrest.conjunction (ends_or hor _)
      rw [List.append_cancel_left heq] at hrest
      exact absurd hrest (not_ends_or hor _)
  | or hor hfirst hmore ih ihmore =>
    rw [List.append_assoc] at heq
    cases h' with
    | conjunction hconjunction =>
      obtain ⟨rfl, -⟩ := ih hconjunction heq (ends_or hor _) hrest'.conjunction
      rw [← List.append_cancel_left heq] at hrest'
      exact absurd hrest' (not_ends_or hor _)
    | or hor' hfirst' hmore' =>
      rw [List.append_assoc] at heq
      obtain ⟨rfl, rfl⟩ := ih hfirst' heq (ends_or hor _) (ends_or hor' _)
      have hbehind := List.append_cancel_left heq
      rw [List.cons_append, List.cons_append] at hbehind
      obtain ⟨rfl, htail⟩ := List.cons.inj hbehind
      obtain ⟨rfl, rfl⟩ := ihmore hmore' htail hrest hrest'
      exact ⟨rfl, rfl⟩

theorem Parses.unambiguous {level : Level} {tokens : List Token} {e e' : Condition}
    (h : Parses level tokens e) (h' : Parses level tokens e') : e = e' := by
  have hends : level.Ends [] := nofun
  have heq : tokens ++ [] = tokens ++ [] := rfl
  exact (h.unique h' heq hends hends).2

/-! ## Building conditions -/

theorem IsOperands.append {tokens more : List Token} (h : IsOperands tokens)
    (hmore : IsOperands more) : IsOperands (tokens ++ more) := by
  induction h with
  | nil => exact hmore
  | plain hplain _ ih => exact .plain hplain ih
  | call hword hplain harguments _ ih =>
    rw [List.cons_append, List.append_assoc]
    exact .call hword hplain harguments ih

theorem IsOperands.isBalanced {tokens : List Token} (h : IsOperands tokens) :
    IsBalanced tokens := by
  induction h with
  | nil => rfl
  | plain hplain _ ih =>
    obtain ⟨hopening, hclosing, -⟩ := Token.isPlain_iff.1 hplain
    exact (isBalanced_singleton hopening hclosing).append ih
  | call _ hplain harguments _ ih =>
    obtain ⟨hopening, hclosing, -⟩ := Token.isPlain_iff.1 hplain
    exact (isBalanced_singleton hopening hclosing).append (harguments.group.append ih)

theorem Token.ne_opening_of_isKeyword {t : Token} {keyword : String}
    (h : t.isKeyword keyword = true) : t ≠ .opening := by
  rintro rfl
  cases h

theorem Parses.isBalanced {level : Level} {tokens : List Token} {e : Condition}
    (h : Parses level tokens e) : IsBalanced tokens := by
  have hkeyword {t : Token} {keyword : String} (h : t.isKeyword keyword = true) :
      IsBalanced [t] :=
    isBalanced_singleton (Token.ne_opening_of_isKeyword h) (Token.ne_closing_of_isKeyword h)
  induction h with
  | atom _ hoperands => exact hoperands.isBalanced
  | group _ ih => exact ih.group
  | primary _ ih => exact ih
  | not hnot _ ih => exact (hkeyword hnot).append ih
  | factor _ ih => exact ih
  | and hand _ _ ih ihmore => exact ih.append ((hkeyword hand).append ihmore)
  | conjunction _ ih => exact ih
  | or hor _ _ ih ihmore => exact ih.append ((hkeyword hor).append ihmore)

theorem Parses.and_conjunction {t : Token} {tokens more : List Token} {e f : Condition}
    (hand : t.isKeyword "AND" = true) (h : Parses .conjunction tokens e)
    (hmore : Parses .conjunction more f) :
    ∃ g, Parses .conjunction (tokens ++ t :: more) g ∧
      ∀ holds, g.eval holds = (e.eval holds && f.eval holds) := by
  generalize hlevel : Level.conjunction = level at h
  induction h with
  | factor hfactor _ => exact ⟨_, .and hand hfactor hmore, fun _ => rfl⟩
  | and hand' hfirst _ _ ih =>
    obtain ⟨g, hg, heval⟩ := ih rfl
    rw [List.append_assoc, List.cons_append]
    refine ⟨_, .and hand' hfirst hg, ?_⟩
    intro holds
    rw [Condition.eval, Condition.eval, heval, Bool.and_assoc]
  | _ => cases hlevel

theorem parses_all {t : Token} (hand : t.isKeyword "AND" = true) {parts : List (List Token)}
    {es : List Condition} (h : List.Forall₂ (Parses .conjunction) parts es) (hne : parts ≠ []) :
    ∃ e, Parses .conjunction ([t].intercalate parts) e ∧
      ∀ holds, e.eval holds = es.all (·.eval holds) := by
  induction h with
  | nil => exact absurd rfl hne
  | cons hfirst hrest ih =>
    cases hrest with
    | nil =>
      rw [List.intercalate_singleton]
      exact ⟨_, hfirst, by simp⟩
    | cons hsecond hrest =>
      obtain ⟨f, hf, heval⟩ := ih (List.cons_ne_nil _ _)
      obtain ⟨g, hg, hboth⟩ := hfirst.and_conjunction hand hf
      rw [List.intercalate_cons_cons, List.append_assoc]
      refine ⟨g, hg, ?_⟩
      intro holds
      rw [hboth, heval, List.all_cons (l := _ :: _)]

theorem parses_any {t : Token} (hor : t.isKeyword "OR" = true) {parts : List (List Token)}
    {es : List Condition} (h : List.Forall₂ (Parses .conjunction) parts es) (hne : parts ≠ []) :
    ∃ e, Parses .disjunction ([t].intercalate parts) e ∧
      ∀ holds, e.eval holds = es.any (·.eval holds) := by
  induction h with
  | nil => exact absurd rfl hne
  | cons hfirst hrest ih =>
    cases hrest with
    | nil =>
      rw [List.intercalate_singleton]
      exact ⟨_, .conjunction hfirst, by simp⟩
    | cons hsecond hrest =>
      obtain ⟨f, hf, heval⟩ := ih (List.cons_ne_nil _ _)
      rw [List.intercalate_cons_cons, List.append_assoc]
      refine ⟨_, .or hor hfirst hf, ?_⟩
      intro holds
      rw [Condition.eval, heval, List.any_cons (l := _ :: _)]

end SpatialSql.Sql
