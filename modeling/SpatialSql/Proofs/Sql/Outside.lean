import SpatialSql.Proofs.Sql.Lexeme
/-!
# Outside quotes

Which places of a text stand between quotes, said without tokens.  A text that can be divided into
tokens ends outside quotes, and what would end the statement or begin a comment outside quotes
lies in an operator.
-/

namespace SpatialSql.Sql

open SpatialSql.Text (double)

/-- The quote that is open behind a character, given the one that is open in front. -/
def quoteAfter : Option Char → Char → Option Char
  | none, c => if isQuote c then some c else none
  | some quote, c => if c = quote then none else some quote

/-- The quote that is open behind a text.  A quote that is written twice closes and opens again. -/
def openQuote (front : Option Char) (text : List Char) : Option Char :=
  text.foldl quoteAfter front

section Quotes

variable {quote : Char} {body tail text rest : List Char}

theorem openQuote_append (front : Option Char) (text rest : List Char) :
    openQuote front (text ++ rest) = openQuote (openQuote front text) rest := List.foldl_append

theorem openQuote_bare (h : ∀ c ∈ text, isQuote c = false) : openQuote none text = none := by
  induction text with
  | nil => rfl
  | cons c text ih =>
    have hc := h c List.mem_cons_self
    have hstep : quoteAfter none c = none := by simp [quoteAfter, hc]
    rw [openQuote, List.foldl_cons, hstep]
    exact ih fun d hd => h d (List.mem_cons_of_mem c hd)

theorem openQuote_twice (hquote : isQuote quote = true) (text : List Char) :
    openQuote (some quote) (quote :: quote :: text) = openQuote (some quote) text := by
  have hclose : quoteAfter (some quote) quote = none := by simp [quoteAfter]
  have hopen : quoteAfter none quote = some quote := by simp [quoteAfter, hquote]
  rw [openQuote, List.foldl_cons, List.foldl_cons, hclose, hopen]
  rfl

theorem openQuote_other {c : Char} (hc : c ≠ quote) (text : List Char) :
    openQuote (some quote) (c :: text) = openQuote (some quote) text := by
  have hstep : quoteAfter (some quote) c = some quote := by simp [quoteAfter, hc]
  rw [openQuote, List.foldl_cons, hstep]
  rfl

theorem head_of_openQuote (hquote : isQuote quote = true) {before behind : List Char}
    (heq : double quote body ++ [quote] = before ++ behind) (hne : behind ≠ [])
    (h : openQuote (some quote) before = none) : behind.head? = some quote := by
  induction body generalizing before with
  | nil =>
    cases before with
    | nil =>
      cases heq
      rfl
    | cons c before =>
      have htail := (List.cons.inj heq).2
      exact absurd (List.append_eq_nil_iff.1 htail.symm).2 hne
  | cons c body ih =>
    by_cases hc : c = quote
    · subst hc
      rw [double, if_pos rfl] at heq
      cases before with
      | nil =>
        rw [List.nil_append] at heq
        rw [← heq]
        rfl
      | cons d before =>
        obtain ⟨rfl, htail⟩ := List.cons.inj heq
        cases before with
        | nil =>
          have hbehind : c :: (double c body ++ [c]) = behind := htail
          rw [← hbehind]
          rfl
        | cons d' before =>
          obtain ⟨rfl, hbehind⟩ := List.cons.inj htail
          rw [openQuote_twice hquote] at h
          exact ih hbehind h
    · rw [double, if_neg hc] at heq
      cases before with
      | nil => cases h
      | cons d before =>
        obtain ⟨rfl, hbehind⟩ := List.cons.inj heq
        rw [openQuote_other hc] at h
        exact ih hbehind h

theorem openQuote_double (hquote : isQuote quote = true) (body : List Char) :
    openQuote (some quote) (double quote body ++ [quote]) = none := by
  induction body with
  | nil => simp [openQuote, double, quoteAfter]
  | cons c body ih =>
    by_cases hc : c = quote
    · rw [double, if_pos hc, hc, List.cons_append, List.cons_append, openQuote_twice hquote, ih]
    · rw [double, if_neg hc, List.cons_append, openQuote_other hc, ih]

theorem unquote_sound (h : unquote quote text = some (body, tail)) :
    text = double quote body ++ quote :: tail := by
  fun_induction unquote quote text generalizing body with
  | case1 => cases h
  | case2 =>
    cases h
    rfl
  | case3 => cases h
  | case4 c next rest hc ih =>
    obtain ⟨read, hread, heq⟩ := Option.map_eq_some_iff.1 h
    cases heq
    rw [double, if_neg hc, List.cons_append, ← ih hread]
  | case5 c rest hc ih =>
    obtain ⟨read, hread, heq⟩ := Option.map_eq_some_iff.1 h
    cases heq
    rw [double, if_pos rfl, List.cons_append, List.cons_append, ← ih hread, Classical.not_not.1 hc]
  | case6 c next rest hc =>
    cases h
    rw [Classical.not_not.1 hc]
    rfl

end Quotes

theorem openQuote_cons (hquote : isQuote quote = true) (text : List Char) :
    openQuote none (quote :: text) = openQuote (some quote) text := by
  have hopen : quoteAfter none quote = some quote := by simp [quoteAfter, hquote]
  rw [openQuote, List.foldl_cons, hopen]
  rfl

theorem openQuote_quoted (hquote : isQuote quote = true)
    (hread : unquote quote text = some (body, tail)) :
    openQuote none (quote :: text) = openQuote none tail := by
  rw [openQuote_cons hquote, unquote_sound hread, ← List.singleton_append, ← List.append_assoc,
    openQuote_append, openQuote_double hquote]

theorem not_isQuote_of_isWhitespace {c : Char} (h : c.isWhitespace = true) :
    isQuote c = false := by
  rw [Bool.eq_false_iff]
  intro hquote
  simp only [isQuote, Bool.or_eq_true, beq_iff_eq] at hquote
  rcases hquote with rfl | rfl <;> cases h

/-! ## The text outside quotes -/

theorem openQuote_of_lex {text : List Char} {tokens : List Token} (h : lex text = some tokens) :
    openQuote none text = none := by
  fun_induction lex text generalizing tokens with
  | case1 => rfl
  | case2 c rest hblank ih =>
    have hc := not_isQuote_of_isWhitespace hblank
    rw [← List.singleton_append, openQuote_append, openQuote_bare (by simpa using hc), ih h]
  | case3 c rest hblank hquote hnone => cases h
  | case4 c rest hblank hquote body tail hread ih =>
    obtain ⟨others, hothers, -⟩ := Option.map_eq_some_iff.1 h
    rw [openQuote_quoted hquote hread, ih hothers]
  | case5 c rest hblank hquote token =>
    rename_i ih
    obtain ⟨others, hothers, -⟩ := Option.map_eq_some_iff.1 h
    have hbare := not_isQuote_bareToken (Bool.not_eq_true _ ▸ hquote) rest
    rw [← bareToken_append c rest, openQuote_append, openQuote_bare hbare, ih hothers]

theorem behind_quoted {quote m : Char} {body tail before behind : List Char}
    (hquote : isQuote quote = true) (hm : isSign m = true)
    (heq : quote :: (double quote body ++ quote :: tail) = before ++ m :: behind)
    (hout : openQuote none before = none) :
    ∃ between, tail = between ++ m :: behind ∧ openQuote none between = none := by
  have hkind : isQuote m = false := (kind_of_isSign hm).2.1
  cases before with
  | nil =>
    obtain ⟨rfl, -⟩ := List.cons.inj heq
    rw [hquote] at hkind
    cases hkind
  | cons d before =>
    obtain ⟨rfl, hrest⟩ := List.cons.inj heq
    rw [← List.singleton_append, ← List.append_assoc] at hrest
    rw [openQuote_cons hquote] at hout
    obtain ⟨between, rfl, htail⟩ | ⟨more, hsaid, -⟩ := split_append hrest
    · rw [openQuote_append, openQuote_double hquote] at hout
      exact ⟨between, htail, hout⟩
    · have hhead := head_of_openQuote hquote hsaid (List.cons_ne_nil _ _) hout
      cases hhead
      rw [hquote] at hkind
      cases hkind

theorem exists_operator_of_hazard {text before mark after : List Char} {tokens : List Token}
    (h : lex text = some tokens) (heq : text = before ++ (mark ++ after))
    (hout : openQuote none before = none) (hmark : mark ∈ hazards) :
    ∃ signs, Token.operator signs ∈ tokens ∧ mark <:+: signs.toList := by
  obtain ⟨hne, hsigns⟩ := isSign_of_hazard hmark
  obtain ⟨m, more, rfl⟩ := List.exists_cons_of_ne_nil hne
  have hm : isSign m = true := hsigns m List.mem_cons_self
  fun_induction lex text generalizing tokens before with
  | case1 => simp at heq
  | case2 c rest hblank ih =>
    cases before with
    | nil =>
      obtain ⟨rfl, -⟩ := List.cons.inj heq
      rw [(kind_of_isSign hm).1] at hblank
      cases hblank
    | cons d before =>
      obtain ⟨rfl, hrest⟩ := List.cons.inj heq
      have hc := not_isQuote_of_isWhitespace hblank
      rw [← List.singleton_append, openQuote_append, openQuote_bare (by simpa using hc)] at hout
      exact ih h hout hrest
  | case3 c rest hblank hquote hnone => cases h
  | case4 c rest hblank hquote body tail hread ih =>
    obtain ⟨others, hothers, rfl⟩ := Option.map_eq_some_iff.1 h
    rw [unquote_sound hread] at heq
    obtain ⟨between, htail, hbetween⟩ := behind_quoted hquote hm heq hout
    obtain ⟨signs, hsigns, hinfix⟩ := ih hothers hbetween htail
    exact ⟨signs, List.mem_cons_of_mem _ hsigns, hinfix⟩
  | case5 c rest hblank hquote token =>
    rename_i ih
    obtain ⟨others, hothers, rfl⟩ := Option.map_eq_some_iff.1 h
    rw [Bool.not_eq_true] at hblank hquote
    have hsplit := heq
    rw [← bareToken_append c rest] at hsplit
    obtain ⟨between, rfl, htail⟩ | ⟨behind, hspan, -⟩ := split_append hsplit
    · rw [openQuote_append, openQuote_bare (not_isQuote_bareToken hquote rest)] at hout
      obtain ⟨signs, hsigns, hinfix⟩ := ih hothers hout htail
      exact ⟨signs, List.mem_cons_of_mem _ hsigns, hinfix⟩
    · obtain ⟨signs, hoperator, hinfix⟩ := bareToken_hazard hblank hquote hmark hspan heq
      exact ⟨signs, List.mem_cons.2 (.inl hoperator.symm), hinfix⟩

end SpatialSql.Sql
