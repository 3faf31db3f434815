import SpatialSql.Proofs.Binary64.Text
import SpatialSql.Proofs.Outcome
import SpatialSql.Proofs.Wkt.Legible
import SpatialSql.Wkt.Token
/-!
# Tokens of written text

A text spells its tokens wherever it stands, as long as no word runs on behind it.  Words and
numbers are spelled by their characters; parentheses, commas and blanks keep them apart.
-/

namespace SpatialSql.Wkt

/-- No character is in front with which a word would go on. -/
def IsApart (text : List Char) : Prop := ∀ c ∈ text.head?, continuesWord c = false

/-- The tokens of a text, at any offset. -/
def HasTokens (text : List Char) (tokens : List Token) : Prop :=
  ∀ offset, tokensFrom [] offset text = .ok tokens

/-- The text puts these tokens in front of those of any text behind it. -/
def Spells (text : List Char) (tokens : List Token) : Prop :=
  ∀ (rest : List Char) (behind : List Token), IsApart rest → HasTokens rest behind →
    HasTokens (text ++ rest) (tokens ++ behind)

theorem isApart_nil : IsApart [] := nofun

theorem isApart_cons {c : Char} (hc : continuesWord c = false) (text : List Char) :
    IsApart (c :: text) := by
  rintro _ ⟨⟩
  exact hc

theorem IsApart.append {text rest : List Char} (htext : IsApart text) (hrest : IsApart rest) :
    IsApart (text ++ rest) := by
  cases text with
  | nil => exact hrest
  | cons c text => exact htext

theorem spells_nil : Spells [] [] := fun _ _ _ hrest => hrest

theorem Spells.append {text text' : List Char} {tokens tokens' : List Token}
    (h : Spells text tokens) (h' : Spells text' tokens') (hapart : IsApart text') :
    Spells (text ++ text') (tokens ++ tokens') := by
  intro rest behind hrest hbehind
  rw [List.append_assoc, List.append_assoc]
  exact h _ _ (hapart.append hrest) (h' rest behind hrest hbehind)

theorem Spells.tokens_eq {text : String} {spelled : List Token} (h : Spells text.toList spelled) :
    tokens text = .ok spelled := by
  have hall := h [] [] isApart_nil (fun _ => rfl) 0
  rwa [List.append_nil, List.append_nil] at hall

/-! ## Symbols and blanks -/

theorem startsWord_of_continuesWord {c : Char} (hc : continuesWord c = false) :
    startsWord c = false := (Bool.or_eq_false_iff.1 hc).1

theorem Spells.symbol {c : Char} {here : List Token} {text : List Char} {tokens : List Token}
    (hc : startsWord c = false) (hhere : ∀ offset, ofSymbol c offset = .ok here)
    (h : Spells text tokens) : Spells (c :: text) (here ++ tokens) := by
  intro rest behind hrest hbehind offset
  have htail := h rest behind hrest hbehind (offset + c.utf8Size)
  rw [List.cons_append, tokensFrom, if_neg (by simp [hc])]
  simp only [closeRun, List.isEmpty_nil, if_true, ok_bind, hhere, htail]
  simp [pure, Except.pure]

section Symbols

variable {text : List Char} {tokens : List Token} (h : Spells text tokens)

include h

theorem Spells.blank : Spells (' ' :: text) tokens :=
  @symbol ' ' [] text tokens rfl (fun _ => rfl) h

theorem Spells.leftParen : Spells ('(' :: text) (.leftParen :: tokens) :=
  @symbol '(' [.leftParen] text tokens rfl (fun _ => rfl) h

theorem Spells.rightParen : Spells (')' :: text) (.rightParen :: tokens) :=
  @symbol ')' [.rightParen] text tokens rfl (fun _ => rfl) h

theorem Spells.comma : Spells (',' :: text) (.comma :: tokens) :=
  @symbol ',' [.comma] text tokens rfl (fun _ => rfl) h

end Symbols

/-! ## Words -/

theorem tokensFrom_run {word : List Char} (hword : ∀ c ∈ word, continuesWord c = true)
    (first : Char) (run : List Char) (offset : Nat) (rest : List Char) :
    ∃ offset', tokensFrom (first :: run) offset (word ++ rest) =
      tokensFrom (word.reverse ++ first :: run) offset' rest := by
  induction word generalizing first run offset with
  | nil => exact ⟨offset, rfl⟩
  | cons c word ih =>
    obtain ⟨offset', htail⟩ :=
      ih (fun c' hc' => hword c' (List.mem_cons_of_mem c hc')) c (first :: run)
        (offset + c.utf8Size)
    refine ⟨offset', ?_⟩
    rw [List.cons_append, tokensFrom,
      if_pos (by simpa using hword c List.mem_cons_self), htail]
    simp

theorem tokensFrom_close {run : List Char} {token : Token} (hrun : closeRun run = .ok [token])
    (hne : run ≠ []) {rest : List Char} {behind : List Token} (hrest : IsApart rest)
    (hbehind : HasTokens rest behind) (offset : Nat) :
    tokensFrom run offset rest = .ok (token :: behind) := by
  have hisEmpty : run.isEmpty = false := by simpa using hne
  cases rest with
  | nil =>
    cases hbehind offset
    rw [tokensFrom, hrun]
  | cons c rest =>
    have hc : continuesWord c = false := hrest c rfl
    -- the character is read behind the word as it is read without one
    have hhead := hbehind offset
    rw [tokensFrom, if_neg (by simp [startsWord_of_continuesWord hc])] at hhead
    simp only [closeRun, List.isEmpty_nil, if_true, ok_bind, bind_eq_ok] at hhead
    obtain ⟨here, hhere, tail, htail, hhead⟩ := hhead
    cases hhead
    rw [tokensFrom, if_neg (by simp [hisEmpty, hc]), hrun]
    simp only [ok_bind, hhere, htail]
    rfl

theorem spells_word {first : Char} {word : List Char} {token : Token}
    (hfirst : startsWord first = true) (hword : ∀ c ∈ word, continuesWord c = true)
    (htoken : ofWord (first :: word) = .ok token) : Spells (first :: word) [token] := by
  intro rest behind hrest hbehind offset
  obtain ⟨offset', hrun⟩ := tokensFrom_run hword first [] (offset + first.utf8Size) rest
  have hclose : closeRun (word.reverse ++ [first]) = .ok [token] := by
    have hreverse : (word.reverse ++ [first]).reverse = first :: word := by simp
    rw [closeRun, if_neg (by simp), hreverse, htoken]
    rfl
  rw [List.cons_append, tokensFrom, if_pos (by simpa using hfirst), hrun]
  exact tokensFrom_close hclose (by simp) hrest hbehind offset'

theorem spells_solid {text : String} {token : Token} (hne : text.toList ≠ [])
    (hstart : text.toList.all startsWord = true) (htoken : ofWord text.toList = .ok token) :
    Spells text.toList [token] := by
  rw [List.all_eq_true] at hstart
  cases htext : text.toList with
  | nil => exact absurd htext hne
  | cons first word =>
    rw [htext] at hstart htoken
    refine spells_word (hstart first List.mem_cons_self) (fun c hc => ?_) htoken
    rw [continuesWord, hstart c (List.mem_cons_of_mem first hc), Bool.true_or]

def keywords : List String :=
  ["POINT", "LINESTRING", "LINEARRING", "POLYGON", "MULTIPOINT", "MULTILINESTRING", "MULTIPOLYGON",
    "GEOMETRYCOLLECTION", "Z", "EMPTY"]

theorem spells_keyword {text : String} (h : text ∈ keywords) :
    Spells text.toList [.word text] := by
  have hall : ∀ word ∈ keywords, word.toList ≠ [] ∧ word.toList.all startsWord = true ∧
      isNumeric word.toList = false ∧ Text.upper (String.ofList word.toList) = word := by
    decide +kernel
  obtain ⟨hne, hstart, hnumeric, hupper⟩ := hall text h
  apply spells_solid hne hstart
  rw [ofWord, if_neg (Bool.eq_false_iff.1 hnumeric), hupper]

theorem spells_empty : Spells "EMPTY".toList [.word "EMPTY"] :=
  spells_keyword (by simp [keywords])

theorem tagOf_mem_keywords (g : Geometry) : tagOf g ∈ keywords := by
  cases g <;> simp [tagOf, keywords]

/-! ## Numbers -/

theorem spells_nan : Spells "NaN".toList [.number .nan] :=
  spells_solid (by decide +kernel) (by decide +kernel) rfl

theorem spells_negInfinity : Spells Binary64.negInfinity.plain.toList [.number .negInfinity] :=
  spells_solid (by decide +kernel) (by decide +kernel) rfl

theorem ofWord_of_startsNumber {first : Char} {word : List Char} {x : Binary64}
    (hfirst : startsNumber first = true) (hread : Binary64.read (first :: word) = .ok x) :
    ofWord (first :: word) = .ok (.number x) := by
  rw [ofWord, if_pos (by simp [isNumeric, hfirst]), hread]

theorem startsNumber_of_isDigit {c : Char} (hc : c.isDigit = true) : startsNumber c = true := by
  simp [startsNumber, hc]

theorem startsWord_of_startsNumber {c : Char} (hc : startsNumber c = true) :
    startsWord c = true := by
  simp [startsWord, hc]

theorem continuesWord_of_positional {d : Decimal} {c : Char} (hc : c ∈ d.positional) :
    continuesWord c = true := by
  obtain hdigit | rfl := Binary64.isDigit_or_point_positional d c hc
  · simp [continuesWord, startsWord, startsNumber_of_isDigit hdigit]
  · rfl

theorem spells_plain_finite {x : Binary64} (hx : x.isFinite = true) :
    Spells x.plain.toList [.number x] := by
  have hread := Binary64.read_plain hx
  rw [Binary64.plain_of_isFinite hx] at hread ⊢
  obtain ⟨first, word, hcons, hfirst⟩ :=
    Binary64.head_positional (Decimal.shortest x.magnitude)
  have hword (c : Char) (hc : c ∈ (Decimal.shortest x.magnitude).positional) :
      continuesWord c = true := continuesWord_of_positional hc
  have hdigit := startsNumber_of_isDigit hfirst
  cases hsign : x.isNegative with
  | true =>
    rw [hsign, if_pos rfl] at hread
    rw [if_pos rfl]
    exact spells_word rfl hword (ofWord_of_startsNumber rfl hread)
  | false =>
    rw [hsign, if_neg Bool.false_ne_true, hcons] at hread
    rw [if_neg Bool.false_ne_true, hcons]
    rw [hcons] at hword
    exact spells_word (startsWord_of_startsNumber hdigit)
      (fun c hc => hword c (List.mem_cons_of_mem first hc)) (ofWord_of_startsNumber hdigit hread)

/-- The text of every number but positive infinity, whose name is a word, is a number. -/
theorem spells_plain {x : Binary64} (hx : x.legible ≠ .infinity) :
    Spells x.plain.toList [.number x.legible] := by
  cases hnan : x.isNaN with
  | true =>
    rw [Binary64.plain, if_pos hnan, Binary64.legible, if_pos hnan]
    exact spells_nan
  | false =>
    rw [Binary64.legible_eq hnan] at hx ⊢
    by_cases hfinite : x.isFinite = true
    · exact spells_plain_finite hfinite
    · have hmagnitude : x.magnitude = Binary64.infiniteMagnitude := by
        simp only [Binary64.isNaN, Binary64.isFinite, decide_eq_true_eq, decide_eq_false_iff_not]
          at hnan hfinite
        omega
      have hparts := Binary64.ofParts_parts x
      rw [hmagnitude] at hparts
      cases hsign : x.isNegative with
      | false =>
        rw [hsign] at hparts
        exact absurd (hparts.symm.trans rfl) hx
      | true =>
        rw [hsign] at hparts
        rw [← hparts]
        exact spells_negInfinity

end SpatialSql.Wkt
