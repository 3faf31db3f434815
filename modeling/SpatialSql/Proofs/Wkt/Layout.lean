import SpatialSql.Geometry.Equality
import SpatialSql.Proofs.Binary64.LetterCase
import SpatialSql.Proofs.Wkt.Spelling
import SpatialSql.Wkt.Reading
/-!
# Layout and letter case

A text is read by its tokens, which neither the case of a letter nor a blank between two of them
changes.  Only a fault tells where it stands, so that of two such texts either both are read, and
alike, or neither is.
-/

namespace SpatialSql.Wkt

/-! ## Tokens wherever they stand -/

def joined (before behind : Option (List Token)) : Option (List Token) :=
  before.bind fun tokens => behind.map (tokens ++ ·)

theorem nil_joined (behind : Option (List Token)) : joined (some []) behind = behind := by
  cases behind <;> rfl

theorem joined_nil (before : Option (List Token)) : joined before (some []) = before := by
  cases before with
  | none => rfl
  | some tokens => exact congrArg some (List.append_nil tokens)

/-- Whether the word collected so far goes on, or else one begins. -/
def goesOn (run : List Char) (c : Char) : Bool :=
  if run.isEmpty then startsWord c else continuesWord c

def symbol? (c : Char) : Option (List Token) := (ofSymbol c 0).toOption

def word? (run : List Char) : Option (List Token) := (closeRun run).toOption

/-- The tokens of a text that goes on with `text` inside the word collected so far, wherever it
stands. -/
def tokens? (run text : List Char) : Option (List Token) := (tokensFrom run 0 text).toOption

theorem word?_eq (run : List Char) :
    word? run =
      if run.isEmpty then some [] else (ofWord run.reverse).toOption.map fun token => [token] := by
  unfold word? closeRun
  split
  · rfl
  · cases ofWord run.reverse <;> rfl

theorem toOption_ofSymbol (c : Char) (offset : Nat) : (ofSymbol c offset).toOption = symbol? c := by
  unfold symbol? ofSymbol
  repeat' split
  all_goals rfl

theorem toOption_tokensFrom_cons (run : List Char) (offset : Nat) (c : Char) (rest : List Char) :
    (tokensFrom run offset (c :: rest)).toOption =
      if goesOn run c then (tokensFrom (c :: run) (offset + c.utf8Size) rest).toOption
      else joined (word? run)
        (joined (symbol? c) (tokensFrom [] (offset + c.utf8Size) rest).toOption) := by
  rw [tokensFrom, word?, ← toOption_ofSymbol c offset]
  show (if goesOn run c then _ else _ : Except Fault (List Token)).toOption = _
  by_cases hgoes : goesOn run c = true
  · rw [if_pos hgoes, if_pos hgoes]
  · rw [if_neg hgoes, if_neg hgoes]
    cases closeRun run with
    | error fault => rfl
    | ok before =>
      cases ofSymbol c offset with
      | error fault => rfl
      | ok here =>
        cases tokensFrom [] (offset + c.utf8Size) rest with
        | error fault => rfl
        | ok behind => exact congrArg some (List.append_assoc before here behind)

theorem toOption_tokensFrom (run : List Char) (offset : Nat) (text : List Char) :
    (tokensFrom run offset text).toOption = tokens? run text := by
  unfold tokens?
  induction text generalizing run offset with
  | nil => rfl
  | cons c rest ih =>
    simp only [toOption_tokensFrom_cons, ih _ (offset + c.utf8Size), ih _ (0 + c.utf8Size)]

theorem tokens?_cons (run : List Char) (c : Char) (rest : List Char) :
    tokens? run (c :: rest) =
      if goesOn run c then tokens? (c :: run) rest
      else joined (word? run) (joined (symbol? c) (tokens? [] rest)) := by
  rw [← toOption_tokensFrom run 0, toOption_tokensFrom_cons, toOption_tokensFrom,
    toOption_tokensFrom]

theorem read_eq_ok_iff {text : String} {g : Geometry} :
    read text = .ok g ↔ ∃ spelled, tokens? [] text.toList = some spelled ∧
      ofTokens spelled = .ok g := by
  rw [read, bind_eq_ok, tokens, tokens?]
  cases tokensFrom [] 0 text.toList <;> simp [Except.toOption]

/-! ## Blanks -/

/-- No word runs on from one text to the other. -/
def IsSeam (before behind : List Char) : Prop :=
  (∀ c ∈ before.getLast?, continuesWord c = false) ∨ IsApart behind

theorem toNat_of_continuesWord {c : Char} (hc : continuesWord c = true) :
    0x2b ≤ c.toNat ∧ c.toNat < 0x80 := by
  simp only [continuesWord, startsWord, startsNumber, Char.isAlphanum, Char.isAlpha, Char.isUpper,
    Char.isLower, Char.isDigit, Bool.or_eq_true, Bool.and_eq_true, decide_eq_true_eq, beq_iff_eq,
    UInt32.le_iff_toNat_le, ge_iff_le, Char.reduceVal, UInt32.reduceToNat, ← Char.toNat_inj,
    Char.toNat_val, Char.reduceToNat] at hc
  omega

theorem toNat_of_isBlankChar {c : Char} (hc : Text.isBlankChar c = true) :
    c.toNat ≤ 0x20 ∨ 0x80 ≤ c.toNat := by
  simp only [Text.isBlankChar, Text.blankRanges, List.any_cons, List.any_nil, Bool.or_eq_true,
    decide_eq_true_eq, Bool.false_eq_true, or_false] at hc
  omega

theorem continuesWord_of_isBlankChar {c : Char} (hc : Text.isBlankChar c = true) :
    continuesWord c = false := by
  rw [Bool.eq_false_iff]
  intro h
  have hword := toNat_of_continuesWord h
  have hblank := toNat_of_isBlankChar hc
  omega

theorem symbol?_of_isBlankChar {c : Char} (hc : Text.isBlankChar c = true) :
    symbol? c = some [] := by
  rw [symbol?, ofSymbol, if_pos hc]
  rfl

theorem tokens?_apart {c : Char} (hc : continuesWord c = false) (run rest : List Char) :
    tokens? run (c :: rest) = joined (word? run) (joined (symbol? c) (tokens? [] rest)) := by
  have hgoes : goesOn run c = false := by
    unfold goesOn
    rw [hc, startsWord_of_continuesWord hc, ite_self]
  rw [tokens?_cons, hgoes]
  rfl

theorem tokens?_blank {c : Char} (hc : Text.isBlankChar c = true) (run rest : List Char) :
    tokens? run (c :: rest) = joined (word? run) (tokens? [] rest) := by
  rw [tokens?_apart (continuesWord_of_isBlankChar hc), symbol?_of_isBlankChar hc, nil_joined]

theorem tokens?_of_isApart {text : List Char} (htext : IsApart text) (run : List Char) :
    tokens? run text = joined (word? run) (tokens? [] text) := by
  cases text with
  | nil => exact (joined_nil _).symm
  | cons c rest =>
    have hc : continuesWord c = false := htext c rfl
    have hempty : word? [] = some [] := rfl
    rw [tokens?_apart hc, tokens?_apart hc, hempty, nil_joined]

theorem tokens?_append_congr {rest rest' : List Char}
    (h : ∀ run, tokens? run rest = tokens? run rest') (run before : List Char) :
    tokens? run (before ++ rest) = tokens? run (before ++ rest') := by
  induction before generalizing run with
  | nil => exact h run
  | cons c before ih =>
    simp only [List.cons_append, tokens?_cons, ih]

theorem tokens?_insert {c : Char} (hc : Text.isBlankChar c = true) {before behind : List Char}
    (hseam : IsSeam before behind) :
    tokens? [] (before ++ c :: behind) = tokens? [] (before ++ behind) := by
  obtain hbefore | hbehind := hseam
  · obtain rfl | ⟨front, d, rfl⟩ := List.eq_nil_or_concat before
    · exact (tokens?_blank hc [] behind).trans (nil_joined _)
    · rw [List.concat_eq_append] at hbefore ⊢
      have hd : continuesWord d = false := hbefore d List.getLast?_concat
      have hblank : tokens? [] (c :: behind) = tokens? [] behind :=
        (tokens?_blank hc [] behind).trans (nil_joined _)
      rw [List.append_assoc, List.append_assoc]
      apply tokens?_append_congr
      intro run
      exact (tokens?_apart hd run _).trans ((hblank ▸ tokens?_apart hd run behind).symm)
  · apply tokens?_append_congr
    intro run
    rw [tokens?_blank hc, ← tokens?_of_isApart hbehind]

/-! ## Letter case -/

theorem startsNumber_lower (c : Char) : startsNumber c.toLower = startsNumber c := by
  simp only [startsNumber, Text.isDigit_toLower, Text.toLower_beq (d := '-') rfl,
    Text.toLower_beq (d := '+') rfl, Text.toLower_beq (d := '.') rfl]

theorem startsWord_lower (c : Char) : startsWord c.toLower = startsWord c := by
  simp only [startsWord, Char.isAlphanum, Char.isAlpha_toLower_eq_isAlpha, Text.isDigit_toLower,
    startsNumber_lower]

theorem goesOn_lower (run : List Char) (c : Char) :
    goesOn (run.map Char.toLower) c.toLower = goesOn run c := by
  simp only [goesOn, List.isEmpty_map, startsWord_lower, continuesWord,
    Text.toLower_beq (d := '_') rfl]

theorem symbol?_of_isAlpha {c : Char} (hc : c.isAlpha = true) : symbol? c = none := by
  have hword : continuesWord c = true := by
    simp only [continuesWord, startsWord, Char.isAlphanum, hc, Bool.true_or]
  have hblank : ¬ Text.isBlankChar c = true := by
    intro h
    rw [continuesWord_of_isBlankChar h] at hword
    cases hword
  have hne (d : Char) (hd : continuesWord d = false) : c ≠ d := by
    rintro rfl
    rw [hd] at hword
    cases hword
  rw [symbol?, ofSymbol, if_neg hblank, if_neg (hne '(' rfl), if_neg (hne ')' rfl),
    if_neg (hne ',' rfl)]
  rfl

theorem symbol?_lower (c : Char) : symbol? c.toLower = symbol? c := by
  by_cases hc : c.isAlpha = true
  · have hlower : c.toLower.isAlpha = true := by rw [Char.isAlpha_toLower_eq_isAlpha, hc]
    rw [symbol?_of_isAlpha hc, symbol?_of_isAlpha hlower]
  · rw [Text.toLower_of_not_isAlpha (Bool.eq_false_iff.2 hc)]

theorem isNumeric_lower (word : List Char) :
    isNumeric (word.map Char.toLower) = isNumeric word := by
  cases word with
  | nil => rfl
  | cons c rest =>
    simp only [isNumeric, List.map_cons, List.map_map, Function.comp_def, startsNumber_lower,
      Char.toLower_toLower_eq_toLower]

theorem ofWord_lower (word : List Char) :
    (ofWord (word.map Char.toLower)).toOption = (ofWord word).toOption := by
  have hupper : Text.upper (String.ofList (word.map Char.toLower)) =
      Text.upper (String.ofList word) := by
    rw [← Text.upper_lower (String.ofList word), Text.lower, String.toList_ofList]
  rw [ofWord, ofWord, isNumeric_lower, Binary64.read_lower, hupper]
  split
  · split <;> rfl
  · rfl

theorem word?_lower (run : List Char) : word? (run.map Char.toLower) = word? run := by
  rw [word?_eq, word?_eq, List.isEmpty_map, ← List.map_reverse, ofWord_lower]

theorem tokens?_lower (run text : List Char) :
    tokens? (run.map Char.toLower) (text.map Char.toLower) = tokens? run text := by
  induction text generalizing run with
  | nil => exact word?_lower run
  | cons c rest ih =>
    have hgoes : tokens? (c.toLower :: run.map Char.toLower) (rest.map Char.toLower) =
        tokens? (c :: run) rest := ih (c :: run)
    have hends : tokens? [] (rest.map Char.toLower) = tokens? [] rest := ih []
    rw [List.map_cons, tokens?_cons, tokens?_cons, goesOn_lower, word?_lower, symbol?_lower, hgoes,
      hends]

/-! ## Texts -/

/-- One text becomes another by changing the case of letters, and by putting in or leaving out
blanks where no word runs on. -/
inductive Relaid : String → String → Prop
  | letters {text text' : String} : Text.lower text = Text.lower text' → Relaid text text'
  | insert {c : Char} {before behind : String} : Text.isBlankChar c = true →
    IsSeam before.toList behind.toList →
      Relaid (before ++ behind) (before ++ String.singleton c ++ behind)
  | delete {c : Char} {before behind : String} : Text.isBlankChar c = true →
    IsSeam before.toList behind.toList →
      Relaid (before ++ String.singleton c ++ behind) (before ++ behind)
  | trans {text text' text'' : String} : Relaid text text' → Relaid text' text'' →
    Relaid text text''

theorem Relaid.tokens?_eq {text text' : String} (h : Relaid text text') :
    tokens? [] text.toList = tokens? [] text'.toList := by
  induction h with
  | @letters text text' hlower =>
    have hlists : text.toList.map Char.toLower = text'.toList.map Char.toLower := by
      rw [← Text.toList_lower, ← Text.toList_lower, hlower]
    rw [← tokens?_lower [] text.toList, ← tokens?_lower [] text'.toList, hlists]
  | insert hc hseam =>
    simp only [String.toList_append, String.toList_singleton, List.append_assoc,
      List.singleton_append, tokens?_insert hc hseam]
  | delete hc hseam =>
    simp only [String.toList_append, String.toList_singleton, List.append_assoc,
      List.singleton_append, tokens?_insert hc hseam]
  | trans _ _ ih ih' => exact ih.trans ih'

theorem Relaid.read_eq_ok_iff {text text' : String} (h : Relaid text text') {g : Geometry} :
    read text' = .ok g ↔ read text = .ok g := by
  rw [Wkt.read_eq_ok_iff, Wkt.read_eq_ok_iff, h.tokens?_eq]

/-- A text that is laid out anew or written in another case is read as the same geometry, and one
that is refused stays refused. -/
theorem read_ignores_layout_and_case (text text' : String) (hrelaid : Relaid text text') :
    (∀ g, read text = .ok g → read text' = read text) ∧
    ∀ fault, read text = .error fault → ∃ fault', read text' = .error fault' := by
  constructor
  · intro g hread
    rw [hread, hrelaid.read_eq_ok_iff, hread]
  · intro fault hread
    cases hread' : read text' with
    | error fault' => exact ⟨fault', rfl⟩
    | ok g =>
      rw [hrelaid.read_eq_ok_iff, hread] at hread'
      cases hread'

/-- The exponent, the infinity and the missing height are written in other cases, an ideographic
space comes in behind a word and the blank in front of the tag is left out. -/
theorem relaid_point : Relaid " POINT Z (1e2 -inf NaN)" "Point z\u3000 (1E2 -INF nan)" := by
  have hstart : Relaid (("" : String) ++ String.singleton ' ' ++ "POINT Z (1e2 -inf NaN)")
      ("" ++ "POINT Z (1e2 -inf NaN)") := .delete rfl (.inl nofun)
  have hbehind : Relaid ("POINT Z" ++ " (1e2 -inf NaN)")
      ("POINT Z" ++ String.singleton '\u3000' ++ " (1e2 -inf NaN)") :=
    .insert rfl (.inr (isApart_cons (c := ' ') rfl _))
  have hletters : Relaid "POINT Z\u3000 (1e2 -inf NaN)" "Point z\u3000 (1E2 -INF nan)" :=
    .letters (by decide)
  exact (hstart.trans hbehind).trans hletters

theorem read_ignores_layout_and_case_point :
    Relaid " POINT Z (1e2 -inf NaN)" "Point z\u3000 (1E2 -INF nan)" ∧
      read "Point z\u3000 (1E2 -INF nan)" =
        .ok (.point (some (.planar ⟨0x4059000000000000⟩ Binary64.negInfinity))) := by
  have hread : read " POINT Z (1e2 -inf NaN)" =
      .ok (.point (some (.planar ⟨0x4059000000000000⟩ Binary64.negInfinity))) := by decide +kernel
  exact ⟨relaid_point,
    ((read_ignores_layout_and_case _ _ relaid_point).1 _ hread).trans hread⟩

end SpatialSql.Wkt
