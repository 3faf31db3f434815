import SpatialSql.Proofs.Sql.Token
/-!
# Scanning

Which texts are read as which tokens, whatever stands behind them that they cannot run into.
-/

namespace SpatialSql.Sql

open SpatialSql.Text (double quoted)

/-! ## Kinds of characters -/

theorem isWordChar_of_isDigit {c : Char} (h : c.isDigit = true) : isWordChar c = true := by
  simp [isWordChar, Char.isAlphanum, h]

theorem kind_of_isWordChar {c : Char} (h : isWordChar c = true) :
    c.isWhitespace = false ∧ isQuote c = false ∧ isMark c = false := by
  refine ⟨?_, ?_, ?_⟩
  all_goals
    rw [Bool.eq_false_iff]
    intro hkind
    simp only [Char.isWhitespace, isQuote, isMark, Bool.or_eq_true, decide_eq_true_eq,
      beq_iff_eq] at hkind
  · rcases hkind with ((rfl | rfl) | rfl) | rfl <;> revert h <;> decide
  · rcases hkind with rfl | rfl <;> revert h <;> decide
  · rcases hkind with ((rfl | rfl) | rfl) | rfl <;> revert h <;> decide

theorem kind_of_isSign {c : Char} (h : isSign c = true) :
    c.isWhitespace = false ∧ isQuote c = false ∧ isMark c = false ∧ isWordChar c = false := by
  simpa [isSign, and_assoc] using h

theorem kind_of_isMark {c : Char} (h : isMark c = true) :
    c.isWhitespace = false ∧ isQuote c = false ∧ isWordChar c = false := by
  simp only [isMark, Bool.or_eq_true, beq_iff_eq] at h
  rcases h with ((rfl | rfl) | rfl) | rfl <;> decide

theorem not_isDigit_of_not_isWordChar {c : Char} (h : isWordChar c = false) :
    c.isDigit = false := by
  rw [Bool.eq_false_iff] at h ⊢
  exact fun hdigit => h (isWordChar_of_isDigit hdigit)

/-! ## Scanning in steps -/

/-- A text is read as tokens if that text stands behind it. -/
def Scans (text : List Char) (tokens : List Token) (rest : List Char) : Prop :=
  lex (text ++ rest) = (lex rest).map (tokens ++ ·)

section Steps

variable {text more rest : List Char} {tokens others : List Token}

theorem Scans.append (h : Scans text tokens (more ++ rest)) (hmore : Scans more others rest) :
    Scans (text ++ more) (tokens ++ others) rest := by
  unfold Scans at h hmore ⊢
  rw [List.append_assoc, h, hmore, Option.map_map]
  congr 1
  funext last
  exact (List.append_assoc tokens others last).symm

theorem Scans.lex_eq (h : Scans text tokens []) : lex text = some tokens := by
  unfold Scans at h
  rw [List.append_nil] at h
  rw [h, lex, Option.map_some, List.append_nil]

theorem scans_blank : Scans [' '] [] rest := by
  unfold Scans
  rw [List.cons_append, lex]
  simp

theorem unquote_double {quote : Char} (body : List Char) (hrest : rest.head? ≠ some quote) :
    unquote quote (double quote body ++ quote :: rest) = some (body, rest) := by
  induction body with
  | nil =>
    cases rest with
    | nil => simp [double, unquote]
    | cons next rest =>
      have hnext : next ≠ quote := by simpa using hrest
      simp [double, unquote, hnext]
  | cons c body ih =>
    by_cases hc : c = quote
    · rw [double, if_pos hc, hc, List.cons_append, List.cons_append, unquote]
      simp [ih]
    · rw [double, if_neg hc, List.cons_append]
      obtain ⟨next, tail, htail⟩ : ∃ next tail, double quote body ++ quote :: rest = next :: tail :=
        List.exists_cons_of_ne_nil (by simp)
      rw [htail] at ih ⊢
      rw [unquote, if_pos hc, ih]
      rfl

theorem scans_quoted {quote : Char} (hquote : isQuote quote = true) (said : String)
    (hrest : rest.head? ≠ some quote) :
    Scans (quoted quote said).toList [.quoted quote said] rest := by
  have hblank : quote.isWhitespace = false := by
    simp only [isQuote, Bool.or_eq_true, beq_iff_eq] at hquote
    rcases hquote with rfl | rfl <;> rfl
  have hread := unquote_double said.toList hrest
  unfold Scans
  rw [quoted, String.toList_ofList, List.cons_append, List.append_assoc, List.singleton_append,
    lex, hblank, hquote]
  simp only [Bool.false_eq_true, if_false, if_true]
  split
  · rename_i hnone
    rw [hread] at hnone
    cases hnone
  · rename_i body tail hsome
    rw [hread] at hsome
    cases hsome
    rw [String.ofList_toList]
    rfl

theorem scans_bare {c : Char} {tail : List Char} {token : Token} (hblank : c.isWhitespace = false)
    (hquote : isQuote c = false) (hbare : bareToken c (tail ++ rest) = (token, c :: tail)) :
    Scans (c :: tail) [token] rest := by
  unfold Scans
  rw [List.cons_append, lex, hblank, hquote]
  simp only [Bool.false_eq_true, if_false]
  rw [hbare]
  simp

end Steps

/-! ## What keeps tokens apart -/

/-- Whether no token can run into a text: it is at its end, or it begins with a blank or with a
mark that is not the point of a number. -/
def isApart : List Char → Bool
  | [] => true
  | c :: rest =>
    c == ' ' || c == '(' || c == ')' || c == ','
      || (c == '.' && rest.head?.any fun next => !next.isDigit)

theorem isApart_append {text : List Char} (rest : List Char) (h : isApart text = true)
    (hne : text ≠ []) : isApart (text ++ rest) = true := by
  obtain ⟨c, tail, rfl⟩ := List.exists_cons_of_ne_nil hne
  cases tail with
  | nil =>
    simp only [isApart, List.head?_nil, Option.any_none, Bool.and_false, Bool.or_false] at h
    rw [List.singleton_append, isApart, h, Bool.true_or]
  | cons next tail => exact h

theorem head_of_isApart {rest : List Char} (h : isApart rest = true) :
    ∀ c ∈ rest.head?, isQuote c = false ∧ isWordChar c = false ∧ isSign c = false := by
  intro c hc
  cases rest with
  | nil => cases hc
  | cons first rest =>
    cases hc
    simp only [isApart, Bool.or_eq_true, Bool.and_eq_true, beq_iff_eq] at h
    rcases h with (((rfl | rfl) | rfl) | rfl) | ⟨rfl, -⟩ <;> decide

section Apart

variable {rest : List Char}

theorem takeWhile_append_eq {p : Char → Bool} {text : List Char} (htext : ∀ c ∈ text, p c = true)
    (hrest : ∀ c ∈ rest.head?, p c = false) : (text ++ rest).takeWhile p = text := by
  rw [List.takeWhile_append_of_pos htext]
  cases rest with
  | nil => rw [List.takeWhile_nil, List.append_nil]
  | cons c rest =>
    have hc := hrest c rfl
    rw [List.takeWhile_cons_of_neg (by rw [hc]; decide), List.append_nil]

theorem scans_mark {c : Char} (hc : isMark c = true) : Scans [c] [.mark c] rest := by
  obtain ⟨hblank, hquote, hword⟩ := kind_of_isMark hc
  have hdigit := not_isDigit_of_not_isWordChar hword
  apply scans_bare hblank hquote
  rw [bareToken, if_neg (by rw [hdigit]; decide), if_neg (by rw [hword]; decide), if_pos hc]

def isWord (text : String) : Bool :=
  text.toList.head?.any (fun c => !c.isDigit) && text.toList.all isWordChar

theorem head_of_isWord {text : String} (h : isWord text = true) :
    ∃ c letters, text.toList = c :: letters ∧ c.isDigit = false ∧
      ∀ l ∈ c :: letters, isWordChar l = true := by
  rw [isWord, Bool.and_eq_true] at h
  obtain ⟨hhead, hall⟩ := h
  cases htext : text.toList with
  | nil =>
    rw [htext] at hhead
    cases hhead
  | cons c letters =>
    rw [htext] at hhead hall
    refine ⟨c, letters, rfl, by simpa using hhead, ?_⟩
    rwa [List.all_eq_true] at hall

theorem scans_word {text : String} (htext : isWord text = true)
    (hrest : ∀ c ∈ rest.head?, isWordChar c = false) : Scans text.toList [.word text] rest := by
  obtain ⟨c, letters, heq, hdigit, hletters⟩ := head_of_isWord htext
  have hc : isWordChar c = true := hletters c List.mem_cons_self
  obtain ⟨hblank, hquote, -⟩ := kind_of_isWordChar hc
  have hspan := takeWhile_append_eq (fun l hl => hletters l (List.mem_cons_of_mem c hl)) hrest
  rw [heq]
  apply scans_bare hblank hquote
  rw [bareToken, if_neg (by rw [hdigit]; decide), if_pos hc, hspan, ← heq]
  simp only [String.ofList_toList]

def isOperator (text : String) : Bool := !text.toList.isEmpty && text.toList.all isSign

theorem scans_operator {text : String} (htext : isOperator text = true)
    (hrest : ∀ c ∈ rest.head?, isSign c = false) : Scans text.toList [.operator text] rest := by
  rw [isOperator, Bool.and_eq_true, List.all_eq_true] at htext
  obtain ⟨hne, hsigns⟩ := htext
  have hnil : text.toList ≠ [] := by simpa using hne
  obtain ⟨c, signs, heq⟩ := List.exists_cons_of_ne_nil hnil
  rw [heq] at hsigns
  obtain ⟨hblank, hquote, hmark, hword⟩ := kind_of_isSign (hsigns c List.mem_cons_self)
  have hdigit := not_isDigit_of_not_isWordChar hword
  have hspan := takeWhile_append_eq (fun s hs => hsigns s (List.mem_cons_of_mem c hs)) hrest
  rw [heq]
  apply scans_bare hblank hquote
  rw [bareToken, if_neg (by rw [hdigit]; decide), if_neg (by rw [hword]; decide),
    if_neg (by rw [hmark]; decide), hspan, ← heq]
  simp only [String.ofList_toList]

end Apart

/-! ## Numbers -/

def IsDigits (text : List Char) : Prop := text ≠ [] ∧ ∀ c ∈ text, c.isDigit = true

def IsFraction (text : List Char) : Prop :=
  text = [] ∨ ∃ digits, IsDigits digits ∧ text = '.' :: digits

def IsExponent (text : List Char) : Prop :=
  text = [] ∨ ∃ e sign digits, (e = 'e' ∨ e = 'E') ∧ (sign = [] ∨ sign = ['-'] ∨ sign = ['+']) ∧
    IsDigits digits ∧ text = e :: (sign ++ digits)

/-- Digits, a point with digits behind it and a power of ten, the last two if there are any. -/
def IsNumeral (text : List Char) : Prop :=
  ∃ whole fraction exponent, IsDigits whole ∧ IsFraction fraction ∧ IsExponent exponent ∧
    text = whole ++ (fraction ++ exponent)

theorem head_of_isNumeral {digits : List Char} (h : IsNumeral digits) :
    ∃ c rest, digits = c :: rest ∧ c.isDigit = true := by
  obtain ⟨whole, part, power, ⟨hne, hwhole⟩, -, -, rfl⟩ := h
  obtain ⟨c, rest, rfl⟩ := List.exists_cons_of_ne_nil hne
  exact ⟨c, rest ++ (part ++ power), rfl, hwhole c List.mem_cons_self⟩

section Numbers

variable {text rest : List Char}

theorem takeWhile_isDigit (hrest : isApart rest = true) {digits : List Char}
    (hdigits : ∀ c ∈ digits, c.isDigit = true) :
    (digits ++ rest).takeWhile Char.isDigit = digits := by
  apply takeWhile_append_eq hdigits
  intro c hc
  exact not_isDigit_of_not_isWordChar (head_of_isApart hrest c hc).2.1

theorem fraction_of_isApart (hrest : isApart rest = true) : fraction rest = [] := by
  unfold fraction
  split
  · rename_i rest
    cases rest with
    | nil => rfl
    | cons c rest =>
      have hc : c.isDigit = false := by simpa [isApart] using hrest
      simp [hc]
  · rfl

theorem exponent_of_isApart (hrest : isApart rest = true) : exponent rest = [] := by
  match rest with
  | [] => rfl
  | c :: rest =>
    have hword := (head_of_isApart hrest c rfl).2.1
    have hc : ¬(c = 'e' ∨ c = 'E') := by
      rintro (rfl | rfl) <;> revert hword <;> decide
    simp [exponent, hc]

theorem exponent_append (htext : IsExponent text) (hrest : isApart rest = true) :
    exponent (text ++ rest) = text := by
  obtain rfl | ⟨e, sign, digits, he, hsign, ⟨hne, hdigits⟩, rfl⟩ := htext
  · exact exponent_of_isApart hrest
  · have hspan := takeWhile_isDigit hrest hdigits
    have hsigned : exponentSign (sign ++ (digits ++ rest)) = sign := by
      obtain ⟨d, digits, rfl⟩ := List.exists_cons_of_ne_nil hne
      have hd := hdigits d List.mem_cons_self
      have hdash : ¬(d = '-' ∨ d = '+') := by
        rintro (rfl | rfl) <;> revert hd <;> decide
      rcases hsign with rfl | rfl | rfl
      · simp [exponentSign, hdash]
      · rfl
      · rfl
    rw [List.cons_append, exponent, List.append_assoc, hsigned]
    simp only [List.drop_left, hspan]
    rw [if_pos ⟨he, hne⟩]

theorem fraction_append (htext : IsFraction text) {tail : List Char} (htail : IsExponent tail)
    (hrest : isApart rest = true) : fraction (text ++ (tail ++ rest)) = text := by
  obtain rfl | ⟨digits, ⟨hne, hdigits⟩, rfl⟩ := htext
  · obtain rfl | ⟨e, sign, digits, rfl | rfl, -, -, rfl⟩ := htail
    · exact fraction_of_isApart hrest
    · rfl
    · rfl
  · have hspan : (digits ++ (tail ++ rest)).takeWhile Char.isDigit = digits := by
      obtain rfl | ⟨e, sign, exponent, he, -, -, rfl⟩ := htail
      · exact takeWhile_isDigit hrest hdigits
      · apply takeWhile_append_eq hdigits
        intro c hc
        cases hc
        rcases he with rfl | rfl <;> rfl
    rw [List.cons_append, fraction, hspan]
    exact if_neg hne

theorem not_isDigit_head {tail : List Char} (htext : IsFraction text) (htail : IsExponent tail)
    (hrest : isApart rest = true) :
    ∀ c ∈ (text ++ (tail ++ rest)).head?, c.isDigit = false := by
  intro c hc
  obtain rfl | ⟨digits, -, rfl⟩ := htext
  · obtain rfl | ⟨e, sign, digits, he, -, -, rfl⟩ := htail
    · exact not_isDigit_of_not_isWordChar (head_of_isApart hrest c hc).2.1
    · cases hc
      rcases he with rfl | rfl <;> rfl
  · cases hc
    rfl

theorem numeral_append (htext : IsNumeral text) (hrest : isApart rest = true) :
    numeral (text ++ rest) = text := by
  obtain ⟨whole, part, power, ⟨-, hwhole⟩, hpart, hpower, rfl⟩ := htext
  have hspan := takeWhile_append_eq hwhole (not_isDigit_head hpart hpower hrest)
  have hpart' := fraction_append hpart hpower hrest
  have hpower' := exponent_append hpower hrest
  have hassoc : whole ++ (part ++ power) ++ rest = whole ++ (part ++ (power ++ rest)) := by
    rw [List.append_assoc, List.append_assoc]
  rw [numeral, hassoc, hspan]
  simp only [List.drop_left, hpart']
  rw [← List.append_assoc whole, List.drop_left, hpower', List.append_assoc]

theorem scans_number {number : String} (hnumber : IsNumeral number.toList)
    (hrest : isApart rest = true) : Scans number.toList [.number number] rest := by
  have hspan := numeral_append hnumber hrest
  obtain ⟨whole, part, power, ⟨hne, hwhole⟩, -, -, heq⟩ := hnumber
  obtain ⟨d, digits, rfl⟩ := List.exists_cons_of_ne_nil hne
  have hd := hwhole d List.mem_cons_self
  obtain ⟨hblank, hquote, -⟩ := kind_of_isWordChar (isWordChar_of_isDigit hd)
  rw [List.cons_append] at heq
  rw [heq] at hspan ⊢
  apply scans_bare hblank hquote
  rw [bareToken, if_pos hd, ← List.cons_append, hspan, ← heq]
  simp only [String.ofList_toList]

end Numbers

end SpatialSql.Sql
