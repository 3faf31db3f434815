import SpatialSql.Dialect
import SpatialSql.Proofs.Wkt.Acceptance
/-!
# One derivation for a sequence of tokens

The tokens of a derivation show where it ends and what it is made of.  Together with what the
parsers accept: a sequence of tokens is read exactly when it has a derivation, which is then the
only one.
-/

namespace SpatialSql.Wkt

/-- Tokens that go on where no number follows show of what, and up to where, they are the tokens. -/
def Unambiguous (tokens : σ → List Token) : Prop :=
  ∀ {s s' : σ} {rest rest' : List Token}, Stops rest → Stops rest' →
    tokens s ++ rest = tokens s' ++ rest' → s = s' ∧ rest = rest'

section Lists

variable {item : σ → List Token}

theorem Unambiguous.others (hitem : Unambiguous item) {ss ss' : List σ} {rest rest' : List Token}
    (h : ss.flatMap (.comma :: item ·) ++ .rightParen :: rest =
      ss'.flatMap (.comma :: item ·) ++ .rightParen :: rest') : ss = ss' ∧ rest = rest' := by
  induction ss generalizing ss' with
  | nil =>
    cases ss' with
    | nil => simpa using h
    | cons s' ss' => simp at h
  | cons s ss ih =>
    cases ss' with
    | nil => simp at h
    | cons s' ss' =>
      simp only [List.flatMap_cons, List.cons_append, List.append_assoc, List.cons.injEq,
        true_and] at h
      obtain ⟨rfl, hothers⟩ := hitem (stops_others item ss rest) (stops_others item ss' rest') h
      obtain ⟨rfl, rfl⟩ := ih hothers
      exact ⟨rfl, rfl⟩

theorem Unambiguous.list (hitem : Unambiguous item) : Unambiguous (listTokens item) := by
  intro ss ss' rest rest' _ _ h
  match ss, ss' with
  | [], [] => exact ⟨rfl, by simpa [listTokens] using h⟩
  | [], s' :: ss' => simp [listTokens] at h
  | s :: ss, [] => simp [listTokens] at h
  | s :: ss, s' :: ss' =>
    simp only [listTokens, List.cons_append, List.append_assoc, List.cons.injEq, true_and,
      List.nil_append] at h
    obtain ⟨rfl, hothers⟩ := hitem (stops_others item ss rest) (stops_others item ss' rest') h
    obtain ⟨rfl, rfl⟩ := hitem.others hothers
    exact ⟨rfl, rfl⟩

end Lists

section Bodies

variable {d : Dimensions}

theorem unambiguous_numbers : Unambiguous (@Numbers.tokens d) := by
  intro n n' rest rest' hrest hrest' h
  have hread := congrArg numbers h
  rw [Numbers.tokens, Numbers.tokens, numbers_append _ hrest, numbers_append _ hrest'] at hread
  obtain ⟨hlist, rfl⟩ := Prod.mk.inj hread
  simp only [Numbers.toList, List.cons.injEq] at hlist
  exact ⟨Numbers.ext hlist.1 hlist.2.1 hlist.2.2, rfl⟩

theorem unambiguous_path : Unambiguous (@pathTokens d) := unambiguous_numbers.list

theorem unambiguous_ring : Unambiguous (@RingBody.tokens d) := by
  intro ring ring' rest rest' hrest hrest' h
  obtain ⟨hnumbers, rfl⟩ := unambiguous_path hrest hrest' h
  exact ⟨RingBody.ext hnumbers, rfl⟩

theorem unambiguous_point : Unambiguous (@pointTokens d) := by
  intro p p' rest rest' _ _ h
  match p, p' with
  | none, none => exact ⟨rfl, by simpa [pointTokens] using h⟩
  | none, some n' => simp [pointTokens] at h
  | some n, none => simp [pointTokens] at h
  | some n, some n' =>
    simp only [pointTokens, List.cons_append, List.append_assoc, List.cons.injEq, true_and,
      List.nil_append] at h
    obtain ⟨rfl, hbehind⟩ :=
      unambiguous_numbers (stops_rightParen rest) (stops_rightParen rest') h
    exact ⟨rfl, (List.cons.inj hbehind).2⟩

theorem bare_ne_body (n : Numbers d) (p : Option (Numbers d)) (rest rest' : List Token) :
    n.tokens ++ rest ≠ pointTokens p ++ rest' := by
  intro h
  cases p <;> simp [Numbers.tokens, Numbers.toList, pointTokens] at h

theorem unambiguous_pointItem : Unambiguous (@PointItem.tokens d) := by
  intro item item' rest rest' hrest hrest' h
  match item, item' with
  | .bare n, .bare n' =>
    obtain ⟨rfl, rfl⟩ := unambiguous_numbers hrest hrest' h
    exact ⟨rfl, rfl⟩
  | .bare n, .body p' => exact absurd h (bare_ne_body n p' rest rest')
  | .body p, .bare n' => exact absurd h.symm (bare_ne_body n' p rest' rest)
  | .body p, .body p' =>
    obtain ⟨rfl, rfl⟩ := unambiguous_point hrest hrest' h
    exact ⟨rfl, rfl⟩

variable {Member : Type} {tokens : Member → List Token}

theorem unambiguous_body (hmember : Unambiguous tokens) {b b' : Body Member d}
    {rest rest' : List Token} (htag : b.tag = b'.tag) (hrest : Stops rest) (hrest' : Stops rest')
    (h : b.tokens tokens ++ rest = b'.tokens tokens ++ rest') : b = b' ∧ rest = rest' := by
  cases b with
  | point s =>
    cases b' with
    | point s' =>
      obtain ⟨rfl, rfl⟩ := unambiguous_point hrest hrest' h
      exact ⟨rfl, rfl⟩
    | _ => simp [Body.tag] at htag
  | lineString s =>
    cases b' with
    | lineString s' =>
      obtain ⟨rfl, rfl⟩ := unambiguous_path hrest hrest' h
      exact ⟨rfl, rfl⟩
    | _ => simp [Body.tag] at htag
  | linearRing s =>
    cases b' with
    | linearRing s' =>
      obtain ⟨rfl, rfl⟩ := unambiguous_ring hrest hrest' h
      exact ⟨rfl, rfl⟩
    | _ => simp [Body.tag] at htag
  | polygon s =>
    cases b' with
    | polygon s' =>
      obtain ⟨rfl, rfl⟩ := unambiguous_ring.list hrest hrest' h
      exact ⟨rfl, rfl⟩
    | _ => simp [Body.tag] at htag
  | multiPoint s =>
    cases b' with
    | multiPoint s' =>
      obtain ⟨rfl, rfl⟩ := unambiguous_pointItem.list hrest hrest' h
      exact ⟨rfl, rfl⟩
    | _ => simp [Body.tag] at htag
  | multiLineString s =>
    cases b' with
    | multiLineString s' =>
      obtain ⟨rfl, rfl⟩ := unambiguous_path.list hrest hrest' h
      exact ⟨rfl, rfl⟩
    | _ => simp [Body.tag] at htag
  | multiPolygon s =>
    cases b' with
    | multiPolygon s' =>
      obtain ⟨rfl, rfl⟩ := (Unambiguous.list unambiguous_ring.list) hrest hrest' h
      exact ⟨rfl, rfl⟩
    | _ => simp [Body.tag] at htag
  | collection s =>
    cases b' with
    | collection s' =>
      obtain ⟨rfl, rfl⟩ := hmember.list hrest hrest' h
      exact ⟨rfl, rfl⟩
    | _ => simp [Body.tag] at htag

end Bodies

theorem unambiguous_derivation (levels : Nat) : Unambiguous (@Derivation.tokens levels) := by
  induction levels with
  | zero =>
    intro s
    exact Empty.elim s
  | succ levels ih =>
    rintro ⟨d, b⟩ ⟨d', b'⟩ rest rest' hrest hrest' h
    rw [Derivation.tokens_append, Derivation.tokens_append, List.cons.injEq] at h
    obtain ⟨hword, h⟩ := h
    have htag : b.tag = b'.tag := Token.word.inj hword
    have hdimensions := congrArg dimensions h
    rw [dimensions_append d (beginsBody_tokens b rest),
      dimensions_append d' (beginsBody_tokens b' rest')] at hdimensions
    obtain ⟨rfl, hbody⟩ := Prod.mk.inj hdimensions
    obtain ⟨rfl, rfl⟩ := unambiguous_body ih htag hrest hrest' hbody
    exact ⟨rfl, rfl⟩

/-! ## Reading whole sequences -/

theorem ofTokens_eq_ok_iff {tokens : List Token} {g : Geometry} :
    ofTokens tokens = .ok g ↔
      ∃ t : Derivation (maxDepth + 1), t.tokens = tokens ∧ t.geometry = g := by
  unfold ofTokens
  rw [bind_eq_ok]
  constructor
  · rintro ⟨⟨found, rest⟩, hread, hend⟩
    obtain ⟨t, rfl, rfl⟩ := (accepts_geometry (maxDepth + 1)).sound hread
    cases rest with
    | nil =>
      cases hend
      exact ⟨t, (List.append_nil _).symm, rfl⟩
    | cons token rest => cases hend
  · rintro ⟨t, rfl, rfl⟩
    have hread := (accepts_geometry (maxDepth + 1)).complete t stops_nil
    rw [List.append_nil] at hread
    exact ⟨_, hread, rfl⟩

/-- A sequence of tokens is read as a geometry exactly when the grammar derives the geometry from
the whole of it.  There is at most one derivation, and where there is none the fault is one of the
text. -/
theorem ofTokens_accepts_exactly (tokens : List Token) :
    (∀ g, ofTokens tokens = .ok g ↔
      ∃ t : Derivation (maxDepth + 1), t.tokens = tokens ∧ t.geometry = g) ∧
    (∀ t t' : Derivation (maxDepth + 1), t.tokens = tokens → t'.tokens = tokens → t = t') ∧
    ((¬∃ t : Derivation (maxDepth + 1), t.tokens = tokens) →
      ∃ fault, ofTokens tokens = .error fault ∧ fault.toFailure = .textParse fault.message) := by
  refine ⟨fun g => ofTokens_eq_ok_iff, ?_, ?_⟩
  · intro t t' ht ht'
    have h : t.tokens ++ [] = t'.tokens ++ [] := by rw [ht, ht']
    exact (unambiguous_derivation (maxDepth + 1) stops_nil stops_nil h).1
  · intro hnone
    cases hread : ofTokens tokens with
    | ok g =>
      obtain ⟨t, ht, -⟩ := ofTokens_eq_ok_iff.1 hread
      exact absurd ⟨t, ht⟩ hnone
    | error fault => exact ⟨fault, rfl, rfl⟩

def measuredTokens : List Token :=
  let x (bits : UInt64) : Token := .number ⟨bits⟩
  [.word "GEOMETRYCOLLECTION", .leftParen, .word "MULTIPOINT", .word "M", .leftParen, x 1, x 2, x 3,
    .comma, .leftParen, x 4, x 5, .rightParen, .comma, .word "EMPTY", .rightParen, .rightParen]

def measured : Derivation (maxDepth + 1) :=
  ⟨⟨false, false⟩, .collection [⟨⟨false, true⟩, .multiPoint
    [.bare ⟨⟨1⟩, ⟨2⟩, [⟨3⟩], by decide⟩, .body (some ⟨⟨4⟩, ⟨5⟩, [], by decide⟩), .body none]⟩]⟩

theorem ofTokens_accepts_exactly_measured :
    ofTokens measuredTokens =
        .ok (.collection [.multiPoint [some ⟨⟨1⟩, ⟨2⟩, none⟩, some ⟨⟨4⟩, ⟨5⟩, none⟩, none]]) ∧
      (∀ t : Derivation (maxDepth + 1), t.tokens = measuredTokens → t = measured) ∧
      ∃ fault, ofTokens [.word "POINT"] = .error fault ∧
        fault.toFailure = .textParse fault.message := by
  have hmeasured : measured.tokens = measuredTokens := rfl
  refine ⟨?_, ?_, ?_⟩
  · exact ((ofTokens_accepts_exactly measuredTokens).1 _).2 ⟨measured, hmeasured, rfl⟩
  · intro t ht
    exact (ofTokens_accepts_exactly measuredTokens).2.1 t measured ht hmeasured
  · apply (ofTokens_accepts_exactly [.word "POINT"]).2.2
    rintro ⟨t, ht⟩
    have hread := ((ofTokens_accepts_exactly [.word "POINT"]).1 t.geometry).2 ⟨t, ht, rfl⟩
    cases hread

end SpatialSql.Wkt
