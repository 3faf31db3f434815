import SpatialSql.Proofs.Sql.Scanning
/-!
# The characters of tokens

Which characters stand in a token without quotes, for any text.  The token is the front of the
text, and what would end the statement or begin a comment cannot begin in it unless the token is
an operator that holds all of it.
-/

namespace SpatialSql.Sql

/-! ## Parts of texts -/

theorem split_append {first second before behind : List Char} {c : Char}
    (h : first ++ second = before ++ c :: behind) :
    (∃ between, before = first ++ between ∧ second = between ++ c :: behind) ∨
      ∃ more, first = before ++ c :: more ∧ behind = more ++ second := by
  obtain ⟨between, hbefore, hsecond⟩ | ⟨more, hfirst, hbehind⟩ := List.append_eq_append_iff.1 h
  · exact .inl ⟨between, hbefore, hsecond⟩
  · cases more with
    | nil =>
      rw [List.append_nil] at hfirst
      exact .inl ⟨[], by rw [hfirst, List.append_nil], hbehind.symm⟩
    | cons d more =>
      obtain ⟨rfl, hmore⟩ := List.cons.inj hbehind
      exact .inr ⟨more, hfirst, hmore⟩

theorem forall_takeWhile {p : Char → Bool} {text : List Char} :
    ∀ c ∈ text.takeWhile p, p c = true := List.all_eq_true.1 List.all_takeWhile

theorem prefix_append_drop {first more text : List Char} (h : first <+: text)
    (hmore : more <+: text.drop first.length) : first ++ more <+: text := by
  obtain ⟨rest, rfl⟩ := h
  rw [List.drop_left] at hmore
  exact (List.prefix_append_right_inj first).2 hmore

/-! ## Numbers -/

theorem isPrefix_fraction (text : List Char) : fraction text <+: text := by
  unfold fraction
  split
  · rename_i rest
    simp only
    split
    · exact List.nil_prefix
    · exact (List.prefix_append_right_inj ['.']).2 (List.takeWhile_prefix _)
  · exact List.nil_prefix

theorem isPrefix_exponentSign (text : List Char) : exponentSign text <+: text := by
  cases text with
  | nil => exact List.nil_prefix
  | cons c text =>
    by_cases hc : c = '-' ∨ c = '+'
    · rw [exponentSign, if_pos hc]
      exact List.prefix_append [c] text
    · rw [exponentSign, if_neg hc]
      exact List.nil_prefix

theorem isPrefix_exponent (text : List Char) : exponent text <+: text := by
  cases text with
  | nil => exact List.nil_prefix
  | cons e rest =>
    unfold exponent
    simp only
    split
    · have hsigned := prefix_append_drop (isPrefix_exponentSign rest)
        (List.takeWhile_prefix Char.isDigit)
      exact (List.prefix_append_right_inj [e]).2 hsigned
    · exact List.nil_prefix

theorem isPrefix_numeral (text : List Char) : numeral text <+: text := by
  have hwhole : text.takeWhile Char.isDigit <+: text := List.takeWhile_prefix _
  have hmantissa := prefix_append_drop hwhole (isPrefix_fraction _)
  exact prefix_append_drop hmantissa (isPrefix_exponent _)

theorem isFraction_fraction (text : List Char) : IsFraction (fraction text) := by
  unfold fraction
  split
  · simp only
    split
    · exact .inl rfl
    · rename_i hne
      exact .inr ⟨_, ⟨hne, forall_takeWhile⟩, rfl⟩
  · exact .inl rfl

theorem exponentSign_eq (text : List Char) :
    exponentSign text = [] ∨ exponentSign text = ['-'] ∨ exponentSign text = ['+'] := by
  cases text with
  | nil => exact .inl rfl
  | cons c text =>
    by_cases hc : c = '-' ∨ c = '+'
    · rw [exponentSign, if_pos hc]
      rcases hc with rfl | rfl
      · exact .inr (.inl rfl)
      · exact .inr (.inr rfl)
    · rw [exponentSign, if_neg hc]
      exact .inl rfl

theorem isExponent_exponent (text : List Char) : IsExponent (exponent text) := by
  cases text with
  | nil => exact .inl rfl
  | cons e rest =>
    unfold exponent
    simp only
    split
    · rename_i h
      exact .inr ⟨e, _, _, h.1, exponentSign_eq rest, ⟨h.2, forall_takeWhile⟩, rfl⟩
    · exact .inl rfl

theorem isNumeral_numeral {c : Char} (hc : c.isDigit = true) (rest : List Char) :
    IsNumeral (numeral (c :: rest)) := by
  have hwhole : IsDigits ((c :: rest).takeWhile Char.isDigit) := by
    refine ⟨?_, forall_takeWhile⟩
    rw [List.takeWhile_cons_of_pos hc]
    exact List.cons_ne_nil _ _
  exact ⟨_, _, _, hwhole, isFraction_fraction _, isExponent_exponent _, List.append_assoc _ _ _⟩

theorem skip_front {front back before behind : List Char} {sign : Char}
    (hfront : ∀ c ∈ front, isSign c = false) (hsign : isSign sign = true)
    (heq : front ++ back = before ++ sign :: behind) :
    ∃ between, back = between ++ sign :: behind := by
  obtain ⟨between, -, hback⟩ | ⟨more, hfront', -⟩ := split_append heq
  · exact ⟨between, hback⟩
  · have hin : sign ∈ front := by simp [hfront']
    rw [hfront sign hin] at hsign
    cases hsign

theorem isSign_of_isDigit {c : Char} (h : c.isDigit = true) : isSign c = false := by
  simp [isSign, isWordChar_of_isDigit h]

theorem IsNumeral.digit_behind_sign {text before behind : List Char} {sign : Char}
    (h : IsNumeral text) (hsign : isSign sign = true) (heq : text = before ++ sign :: behind) :
    (sign = '-' ∨ sign = '+') ∧ ∃ d digits, behind = d :: digits ∧ d.isDigit = true := by
  obtain ⟨whole, part, power, ⟨-, hwhole⟩, hpart, hpower, rfl⟩ := h
  obtain ⟨between, hback⟩ := skip_front (fun c hc => isSign_of_isDigit (hwhole c hc)) hsign heq
  have hpart' : ∀ c ∈ part, isSign c = false := by
    obtain rfl | ⟨digits, ⟨-, hdigits⟩, rfl⟩ := hpart
    · exact nofun
    · intro c hc
      cases hc with
      | head => rfl
      | tail _ hc => exact isSign_of_isDigit (hdigits c hc)
  obtain ⟨between, hpower'⟩ := skip_front hpart' hsign hback
  obtain rfl | ⟨e, dash, digits, he, hdash, ⟨hne, hdigits⟩, rfl⟩ := hpower
  · simp at hpower'
  · have he' : ∀ c ∈ [e], isSign c = false := by
      rw [List.forall_mem_singleton]
      rcases he with rfl | rfl <;> rfl
    obtain ⟨between, hsigned⟩ := skip_front he' hsign hpower'
    have hnone (between : List Char) (hin : digits = between ++ sign :: behind) : False := by
      have := isSign_of_isDigit (hdigits sign (by simp [hin]))
      rw [this] at hsign
      cases hsign
    have hfirst (c : Char) (hin : c :: digits = between ++ sign :: behind) :
        sign = c ∧ digits = behind := by
      cases between with
      | nil => exact ⟨(List.cons.inj hin).1.symm, (List.cons.inj hin).2⟩
      | cons d between => exact (hnone between (List.cons.inj hin).2).elim
    obtain ⟨d, more, hmore⟩ := List.exists_cons_of_ne_nil hne
    have hd := hdigits d (by simp [hmore])
    rcases hdash with rfl | rfl | rfl
    · exact (hnone between hsigned).elim
    · obtain ⟨hminus, rfl⟩ := hfirst '-' hsigned
      exact ⟨.inl hminus, d, more, hmore, hd⟩
    · obtain ⟨hplus, rfl⟩ := hfirst '+' hsigned
      exact ⟨.inr hplus, d, more, hmore, hd⟩

theorem IsNumeral.not_isQuote {text : List Char} (h : IsNumeral text) :
    ∀ c ∈ text, isQuote c = false := by
  have hdigit {c : Char} (hc : c.isDigit = true) : isQuote c = false :=
    (kind_of_isWordChar (isWordChar_of_isDigit hc)).2.1
  obtain ⟨whole, part, power, ⟨-, hwhole⟩, hpart, hpower, rfl⟩ := h
  intro c hc
  rw [List.mem_append, List.mem_append] at hc
  rcases hc with hc | hc | hc
  · exact hdigit (hwhole c hc)
  · obtain rfl | ⟨digits, ⟨-, hdigits⟩, rfl⟩ := hpart
    · cases hc
    · cases hc with
      | head => rfl
      | tail _ hc => exact hdigit (hdigits c hc)
  · obtain rfl | ⟨e, sign, digits, he, hsign, ⟨-, hdigits⟩, rfl⟩ := hpower
    · cases hc
    · have he : isQuote e = false := by rcases he with rfl | rfl <;> rfl
      have hsign : ∀ d ∈ sign, isQuote d = false := by
        rcases hsign with rfl | rfl | rfl <;> simp [isQuote]
      rw [List.mem_cons, List.mem_append] at hc
      rcases hc with rfl | hc | hc
      · exact he
      · exact hsign c hc
      · exact hdigit (hdigits c hc)

theorem bareToken_cases (c : Char) (rest : List Char) :
    (c.isDigit = true ∧ bareToken c rest =
      (.number (String.ofList (numeral (c :: rest))), numeral (c :: rest))) ∨
    (isWordChar c = true ∧ bareToken c rest =
      (.word (String.ofList (c :: rest.takeWhile isWordChar)), c :: rest.takeWhile isWordChar)) ∨
    (isMark c = true ∧ bareToken c rest = (.mark c, [c])) ∨
    (isWordChar c = false ∧ isMark c = false ∧ bareToken c rest =
      (.operator (String.ofList (c :: rest.takeWhile isSign)), c :: rest.takeWhile isSign)) := by
  unfold bareToken
  by_cases hdigit : c.isDigit = true
  · exact .inl ⟨hdigit, if_pos hdigit⟩
  · rw [if_neg hdigit]
    by_cases hword : isWordChar c = true
    · exact .inr (.inl ⟨hword, if_pos hword⟩)
    · rw [if_neg hword]
      by_cases hmark : isMark c = true
      · exact .inr (.inr (.inl ⟨hmark, if_pos hmark⟩))
      · rw [Bool.not_eq_true] at hword hmark
        exact .inr (.inr (.inr ⟨hword, hmark, if_neg (by rw [hmark]; decide)⟩))

theorem bareToken_prefix (c : Char) (rest : List Char) :
    (bareToken c rest).2 <+: c :: rest ∧ (bareToken c rest).2 ≠ [] := by
  have hspan (p : Char → Bool) : c :: rest.takeWhile p <+: c :: rest :=
    (List.prefix_append_right_inj [c]).2 (List.takeWhile_prefix p)
  obtain ⟨hdigit, heq⟩ | ⟨-, heq⟩ | ⟨-, heq⟩ | ⟨-, -, heq⟩ := bareToken_cases c rest
  · obtain ⟨d, digits, hdigits, -⟩ := head_of_isNumeral (isNumeral_numeral hdigit rest)
    rw [heq]
    exact ⟨isPrefix_numeral _, by simp [hdigits]⟩
  · rw [heq]
    exact ⟨hspan isWordChar, List.cons_ne_nil _ _⟩
  · rw [heq]
    exact ⟨List.prefix_append [c] rest, List.cons_ne_nil _ _⟩
  · rw [heq]
    exact ⟨hspan isSign, List.cons_ne_nil _ _⟩

theorem bareToken_append (c : Char) (rest : List Char) :
    (bareToken c rest).2 ++ rest.drop ((bareToken c rest).2.length - 1) = c :: rest := by
  obtain ⟨hfront, hne⟩ := bareToken_prefix c rest
  obtain ⟨d, used, heq⟩ := List.exists_cons_of_ne_nil hne
  rw [heq] at hfront ⊢
  obtain ⟨tail, htail⟩ := hfront
  obtain ⟨rfl, rfl⟩ := List.cons.inj htail
  simp

theorem not_isQuote_bareToken {c : Char} (hc : isQuote c = false) (rest : List Char) :
    ∀ d ∈ (bareToken c rest).2, isQuote d = false := by
  intro d hd
  obtain ⟨hdigit, heq⟩ | ⟨hword, heq⟩ | ⟨-, heq⟩ | ⟨-, -, heq⟩ := bareToken_cases c rest
  · rw [heq] at hd
    exact (isNumeral_numeral hdigit rest).not_isQuote d hd
  · rw [heq, List.mem_cons] at hd
    rcases hd with rfl | hd
    · exact hc
    · exact (kind_of_isWordChar (forall_takeWhile d hd)).2.1
  · rw [heq, List.mem_singleton] at hd
    exact hd ▸ hc
  · rw [heq, List.mem_cons] at hd
    rcases hd with rfl | hd
    · exact hc
    · exact (kind_of_isSign (forall_takeWhile d hd)).2.1

/-! ## Hazards -/

/-- What ends a statement or begins a comment. -/
def hazards : List (List Char) := [[';'], ['-', '-'], ['/', '*']]

theorem isSign_of_hazard {mark : List Char} (h : mark ∈ hazards) :
    mark ≠ [] ∧ ∀ c ∈ mark, isSign c = true := by
  rw [← List.all_eq_true]
  simp only [hazards, List.mem_cons, List.not_mem_nil, or_false] at h
  rcases h with rfl | rfl | rfl <;> decide

theorem bareToken_sign {c m : Char} {rest before behind : List Char} (hm : isSign m = true)
    (hspan : (bareToken c rest).2 = before ++ m :: behind) :
    (isWordChar c = false ∧ isMark c = false ∧ bareToken c rest =
      (.operator (String.ofList (c :: rest.takeWhile isSign)), c :: rest.takeWhile isSign)) ∨
    ((m = '-' ∨ m = '+') ∧ ∃ d digits, behind = d :: digits ∧ d.isDigit = true) := by
  have hin : m ∈ (bareToken c rest).2 := by
    rw [hspan]
    simp
  obtain ⟨hdigit, hbare⟩ | ⟨hword, hbare⟩ | ⟨hkind, hbare⟩ | hoperator := bareToken_cases c rest
  · rw [hbare] at hspan
    exact .inr ((isNumeral_numeral hdigit rest).digit_behind_sign hm hspan)
  · have hmword : isWordChar m = true := by
      simp only [hbare, List.mem_cons] at hin
      rcases hin with rfl | hin
      · exact hword
      · exact forall_takeWhile m hin
    rw [(kind_of_isSign hm).2.2.2] at hmword
    cases hmword
  · simp only [hbare, List.mem_singleton] at hin
    rw [← hin, (kind_of_isSign hm).2.2.1] at hkind
    cases hkind
  · exact .inl hoperator

theorem infix_takeWhile {p : Char → Bool} {text before behind mark after : List Char}
    (hspan : text.takeWhile p = before ++ behind) (hmark : ∀ c ∈ mark, p c = true)
    (heq : text = before ++ (mark ++ after)) : mark <:+: text.takeWhile p := by
  have hbefore : ∀ c ∈ before, p c = true := by
    intro c hc
    have hin : c ∈ text.takeWhile p := by
      rw [hspan]
      exact List.mem_append_left behind hc
    exact forall_takeWhile c hin
  refine ⟨before, after.takeWhile p, ?_⟩
  rw [heq, List.takeWhile_append_of_pos hbefore, List.takeWhile_append_of_pos hmark,
    List.append_assoc]

theorem bareToken_hazard {c m : Char} {rest before behind more after : List Char}
    (hblank : c.isWhitespace = false) (hquote : isQuote c = false)
    (hmark : m :: more ∈ hazards) (hspan : (bareToken c rest).2 = before ++ m :: behind)
    (heq : c :: rest = before ++ (m :: more ++ after)) :
    ∃ signs, (bareToken c rest).1 = .operator signs ∧ m :: more <:+: signs.toList := by
  have hsigns := (isSign_of_hazard hmark).2
  obtain ⟨hword, hkind, hbare⟩ | ⟨hdash, d, digits, rfl, hd⟩ :=
    bareToken_sign (hsigns m List.mem_cons_self) hspan
  · have hc : isSign c = true := by simp [isSign, hblank, hquote, hkind, hword]
    have hrun : c :: rest.takeWhile isSign = (c :: rest).takeWhile isSign :=
      (List.takeWhile_cons_of_pos hc).symm
    rw [hbare, hrun] at hspan
    refine ⟨_, by rw [hbare], ?_⟩
    rw [String.toList_ofList, hrun]
    exact infix_takeWhile hspan hsigns heq
  · -- No hazard goes on with a digit behind a sign of an exponent.
    have happend := bareToken_append c rest
    rw [heq, hspan, List.append_assoc] at happend
    have hdigits := (List.cons.inj (List.append_cancel_left happend)).2
    simp only [hazards, List.mem_cons, List.cons.injEq, List.not_mem_nil, or_false] at hmark
    rcases hmark with ⟨rfl, -⟩ | ⟨-, rfl⟩ | ⟨rfl, -⟩
    · exact absurd hdash (by decide)
    · obtain ⟨rfl, -⟩ := List.cons.inj hdigits
      cases hd
    · exact absurd hdash (by decide)

end SpatialSql.Sql
