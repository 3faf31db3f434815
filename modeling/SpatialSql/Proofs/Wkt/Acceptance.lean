import SpatialSql.Proofs.Geometry.Ring
import SpatialSql.Proofs.Outcome
import SpatialSql.Proofs.Wkt.Grammar
/-!
# What the parsers accept

Each parser takes from the front of the tokens what some derivation of its grammar spells, and
every derivation is taken where it stands, as long as no number follows it.
-/

namespace SpatialSql.Wkt

/-- No number is in front, so a coordinate before these tokens ends where they begin. -/
def Stops (rest : List Token) : Prop := ∀ x behind, rest ≠ .number x :: behind

theorem stops_nil : Stops [] := by
  intro x behind h
  cases h

theorem stops_cons {token : Token} (h : ∀ x, token ≠ .number x) (rest : List Token) :
    Stops (token :: rest) := by
  intro x behind hcons
  cases hcons
  exact h x rfl

theorem stops_comma (rest : List Token) : Stops (.comma :: rest) :=
  stops_cons (by simp) rest

theorem stops_rightParen (rest : List Token) : Stops (.rightParen :: rest) :=
  stops_cons (by simp) rest

/-- A parser and the derivations of what it reads. -/
structure Accepts (parser : Parser α) (tokens : σ → List Token) (value : σ → α) : Prop where
  sound : ∀ {input rest : List Token} {a : α}, parser input = .ok (a, rest) →
    ∃ s, input = tokens s ++ rest ∧ value s = a
  complete : ∀ (s : σ) {rest : List Token}, Stops rest →
    parser (tokens s ++ rest) = .ok (value s, rest)

theorem accepts_build {parser : Parser α} {tokens : σ → List Token} {value : σ → α}
    (h : Accepts parser tokens value) (f : α → Geometry) :
    Accepts (build f parser) tokens fun s => f (value s) where
  sound := by
    intro input rest g hread
    simp only [build, bind_eq_ok] at hread
    obtain ⟨⟨a, rest⟩, ha, hread⟩ := hread
    cases hread
    obtain ⟨s, hinput, rfl⟩ := h.sound ha
    exact ⟨s, hinput, rfl⟩
  complete := by
    intro s rest hrest
    rw [build, h.complete s hrest]
    rfl

theorem expect_eq_ok {wanted : Token} {input rest : List Token} :
    expect wanted input = .ok rest ↔ input = wanted :: rest := by
  cases input with
  | nil => simp [expect, next, bind, Except.bind]
  | cons found tail =>
    by_cases h : found = wanted
    · subst h
      simp [expect, next, pure, Except.pure, eq_comm]
    · simp [expect, next, h, throw, throwThe, MonadExceptOf.throw]

/-! ## Lists -/

theorem stops_others (tokens : σ → List Token) (ss : List σ) (rest : List Token) :
    Stops (ss.flatMap (.comma :: tokens ·) ++ .rightParen :: rest) := by
  cases ss with
  | nil => exact stops_rightParen rest
  | cons s ss => exact stops_comma _

theorem length_le_others (tokens : σ → List Token) (ss : List σ) :
    ss.length ≤ (ss.flatMap (.comma :: tokens ·)).length := by
  induction ss with
  | nil => exact Nat.zero_le _
  | cons s ss ih =>
    simp only [List.flatMap_cons, List.length_append, List.length_cons]
    omega

section Lists

variable {item : Parser α} {tokens : σ → List Token} {value : σ → α}
  (hitem : Accepts item tokens value)

include hitem

theorem more_sound {rounds : Nat} {input rest : List Token} {as : List α}
    (hread : more item rounds input = .ok (as, rest)) :
    ∃ ss : List σ, input = ss.flatMap (.comma :: tokens ·) ++ .rightParen :: rest ∧
      ss.map value = as := by
  induction rounds generalizing input as with
  | zero => cases hread
  | succ rounds ih =>
    simp only [more, bind_eq_ok] at hread
    obtain ⟨⟨found, tail⟩, hnext, hread⟩ := hread
    cases input with
    | nil => cases hnext
    | cons head input =>
      cases hnext
      cases found with
      | comma =>
        simp only [bind_eq_ok] at hread
        obtain ⟨⟨first, tail₁⟩, hfirst, ⟨others, tail₂⟩, hothers, hread⟩ := hread
        cases hread
        obtain ⟨s, rfl, rfl⟩ := hitem.sound hfirst
        obtain ⟨ss, rfl, rfl⟩ := ih hothers
        exact ⟨s :: ss, by simp, rfl⟩
      | rightParen =>
        cases hread
        exact ⟨[], rfl, rfl⟩
      | word text => cases hread
      | number x => cases hread
      | leftParen => cases hread

theorem more_complete (ss : List σ) {rounds : Nat} (hrounds : ss.length < rounds)
    (rest : List Token) :
    more item rounds (ss.flatMap (.comma :: tokens ·) ++ .rightParen :: rest) =
      .ok (ss.map value, rest) := by
  induction ss generalizing rounds with
  | nil =>
    obtain ⟨rounds, rfl⟩ := Nat.exists_eq_succ_of_ne_zero (Nat.ne_of_gt hrounds)
    rfl
  | cons s ss ih =>
    obtain ⟨rounds, rfl⟩ : ∃ n, rounds = n + 1 := ⟨rounds - 1, by omega⟩
    have hstops := stops_others tokens ss rest
    have hinput : (s :: ss).flatMap (.comma :: tokens ·) ++ .rightParen :: rest =
        .comma :: (tokens s ++ (ss.flatMap (.comma :: tokens ·) ++ .rightParen :: rest)) := by
      simp
    have hothers := ih (Nat.lt_of_succ_lt_succ hrounds)
    rw [hinput, more]
    simp only [next, ok_bind, hitem.complete s hstops, hothers]
    rfl

theorem enclosed_sound {input rest : List Token} {as : List α}
    (hread : enclosed item input = .ok (as, rest)) :
    ∃ s ss, input = listTokens tokens (s :: ss) ++ rest ∧ (s :: ss).map value = as := by
  simp only [enclosed, bind_eq_ok] at hread
  obtain ⟨tail, hparen, ⟨first, tail₁⟩, hfirst, ⟨others, tail₂⟩, hothers, hread⟩ := hread
  cases hread
  rw [expect_eq_ok] at hparen
  subst hparen
  obtain ⟨s, rfl, rfl⟩ := hitem.sound hfirst
  obtain ⟨ss, rfl, rfl⟩ := more_sound hitem hothers
  exact ⟨s, ss, by simp [listTokens], rfl⟩

theorem accepts_list : Accepts (list item) (listTokens tokens) (List.map value) where
  sound := by
    intro input rest as hread
    unfold list at hread
    split at hread
    · cases hread
      exact ⟨[], rfl, rfl⟩
    · obtain ⟨s, ss, hinput, hvalue⟩ := enclosed_sound hitem hread
      exact ⟨s :: ss, hinput, hvalue⟩
  complete := by
    intro ss rest hrest
    cases ss with
    | nil => rfl
    | cons s ss =>
      have hinput : listTokens tokens (s :: ss) ++ rest = .leftParen ::
          (tokens s ++ (ss.flatMap (.comma :: tokens ·) ++ .rightParen :: rest)) := by
        simp [listTokens]
      have hrounds : ss.length <
          (ss.flatMap (.comma :: tokens ·) ++ .rightParen :: rest).length := by
        have hlength := length_le_others tokens ss
        rw [List.length_append, List.length_cons]
        omega
      have hothers := more_complete hitem ss hrounds rest
      rw [hinput]
      simp only [list, enclosed, expect_eq_ok.2 rfl, ok_bind,
        hitem.complete s (stops_others tokens ss rest), hothers]
      rfl

end Lists

/-! ## Coordinates -/

theorem numbers_append (xs : List Binary64) {rest : List Token} (hrest : Stops rest) :
    numbers (xs.map .number ++ rest) = (xs, rest) := by
  induction xs with
  | nil =>
    rw [List.map_nil, List.nil_append]
    unfold numbers
    split
    · rename_i x behind
      exact absurd rfl (hrest x behind)
    · rfl
  | cons x xs ih => simp [numbers, ih]

theorem eq_append_numbers (input : List Token) :
    input = (numbers input).1.map .number ++ (numbers input).2 := by
  fun_induction numbers input with
  | case1 x rest xs behind hnumbers ih => simpa [hnumbers] using ih
  | case2 tokens h => rfl

variable {d : Dimensions}

theorem filter_some_isNaN (z : Binary64) :
    (some z).filter (fun z => !z.isNaN) = if z.isNaN then none else some z := by
  cases h : z.isNaN <;> simp [Option.filter, h]

theorem ofOrdinates_sound {ordinates : List Binary64} {c : Coordinate}
    (h : ofOrdinates d ordinates = .ok c) :
    ∃ n : Numbers d, n.toList = ordinates ∧ n.coordinate = c := by
  obtain ⟨z, m⟩ := d
  unfold ofOrdinates at h
  simp only [← filter_some_isNaN] at h
  split at h
  · rename_i x y
    cases h
    refine ⟨⟨x, y, [], by cases m <;> decide⟩, rfl, ?_⟩
    cases m <;> rfl
  · rename_i x y u
    cases h
    exact ⟨⟨x, y, [u], by cases z <;> simp [Dimensions.further]⟩, rfl, rfl⟩
  · rename_i x y u
    cases h
    exact ⟨⟨x, y, [u], by simp [Dimensions.further]⟩, rfl, rfl⟩
  · rename_i x y u v
    cases h
    exact ⟨⟨x, y, [u, v], by simp [Dimensions.further]⟩, rfl, rfl⟩
  · rename_i x y u v
    cases h
    exact ⟨⟨x, y, [u, v], by simp [Dimensions.further]⟩, rfl, rfl⟩
  · cases h

theorem ofOrdinates_toList (n : Numbers d) : ofOrdinates d n.toList = .ok n.coordinate := by
  obtain ⟨z, m⟩ := d
  obtain ⟨x, y, further, hlength⟩ := n
  simp only [Numbers.toList, Numbers.coordinate]
  match further, hlength with
  | [], hlength =>
    cases z <;> cases m <;> simp [Dimensions.further] at hlength <;> rfl
  | [u], hlength =>
    cases z <;> cases m <;> simp [Dimensions.further] at hlength <;>
      simp [ofOrdinates, filter_some_isNaN]
  | [u, v], hlength =>
    cases z <;> cases m <;> simp [Dimensions.further] at hlength <;>
      simp [ofOrdinates, filter_some_isNaN]
  | u :: v :: w :: more, hlength =>
    cases z <;> cases m <;> simp [Dimensions.further] at hlength

theorem ofOrdinates_eq_ok_iff {ordinates : List Binary64} {c : Coordinate} :
    ofOrdinates d ordinates = .ok c ↔ ∃ n : Numbers d, n.toList = ordinates ∧ n.coordinate = c := by
  constructor
  · exact ofOrdinates_sound
  · rintro ⟨n, rfl, rfl⟩
    exact ofOrdinates_toList n

theorem accepts_coordinate : Accepts (coordinate d) (@Numbers.tokens d) Numbers.coordinate where
  sound := by
    intro input rest c hread
    simp only [coordinate, bind_eq_ok] at hread
    obtain ⟨c, hc, hread⟩ := hread
    cases hread
    obtain ⟨n, hlist, rfl⟩ := ofOrdinates_eq_ok_iff.1 hc
    refine ⟨n, ?_, rfl⟩
    rw [Numbers.tokens, hlist]
    exact eq_append_numbers input
  complete := by
    intro n rest hrest
    have hc : ofOrdinates d n.toList = .ok n.coordinate := ofOrdinates_eq_ok_iff.2 ⟨n, rfl, rfl⟩
    simp only [coordinate, Numbers.tokens, numbers_append n.toList hrest, hc, ok_bind]
    rfl

theorem accepts_path : Accepts (path d) (@pathTokens d) pathOf := accepts_list accepts_coordinate

theorem accepts_ring : Accepts (ring d) (@RingBody.tokens d) RingBody.path where
  sound := by
    intro input rest path hread
    simp only [ring, bind_eq_ok] at hread
    obtain ⟨⟨found, tail⟩, hpath, hread⟩ := hread
    obtain ⟨numbers, rfl, rfl⟩ := accepts_path.sound hpath
    simp only at hread
    split at hread
    · rename_i closed hring
      cases hread
      obtain ⟨hisRing, rfl⟩ := Path.ring_eq_ok_iff.1 hring
      rw [Path.isRing_iff] at hisRing
      exact ⟨⟨numbers, by simpa [pathOf] using hisRing⟩, rfl, rfl⟩
    · cases hread
  complete := by
    intro r rest hrest
    have hisRing : r.path.isRing = true := by
      rw [Path.isRing_iff]
      simpa [RingBody.path, pathOf] using r.closed
    have hring : r.path.ring = .ok r.path := Path.ring_eq_ok_iff.2 ⟨hisRing, rfl⟩
    have hpath : path d (r.tokens ++ rest) = .ok (r.path, rest) :=
      accepts_path.complete r.numbers hrest
    simp only [ring, hpath, ok_bind, hring]
    rfl

theorem accepts_polygon :
    Accepts (polygon d) (listTokens (@RingBody.tokens d)) (List.map RingBody.path) :=
  accepts_list accepts_ring

theorem accepts_point : Accepts (point d) (@pointTokens d) pointOf where
  sound := by
    intro input rest p hread
    unfold point at hread
    split at hread
    · cases hread
      exact ⟨none, rfl, rfl⟩
    · simp only [bind_eq_ok] at hread
      obtain ⟨tail, hparen, ⟨c, tail₁⟩, hc, tail₂, hclose, hread⟩ := hread
      cases hread
      obtain ⟨n, rfl, rfl⟩ := accepts_coordinate.sound hc
      have hfront := expect_eq_ok.1 hparen
      have hbehind : tail₁ = .rightParen :: rest := expect_eq_ok.1 hclose
      exact ⟨some n, by simp [hfront, hbehind, pointTokens], rfl⟩
  complete := by
    intro p rest hrest
    cases p with
    | none => rfl
    | some n =>
      have hinput : pointTokens (some n) ++ rest =
          .leftParen :: (n.tokens ++ .rightParen :: rest) := by simp [pointTokens]
      rw [hinput]
      simp only [point, expect_eq_ok.2 rfl, ok_bind,
        accepts_coordinate.complete n (stops_rightParen rest)]
      rfl

theorem accepts_pointMember : Accepts (pointMember d) (@PointItem.tokens d) PointItem.point where
  sound := by
    intro input rest p hread
    unfold pointMember at hread
    split at hread
    · rw [bind_eq_ok] at hread
      obtain ⟨⟨c, tail⟩, hc, hread⟩ := hread
      cases hread
      obtain ⟨n, hinput, rfl⟩ := accepts_coordinate.sound hc
      exact ⟨.bare n, hinput, rfl⟩
    · obtain ⟨body, hinput, rfl⟩ := accepts_point.sound hread
      exact ⟨.body body, hinput, rfl⟩
  complete := by
    intro item rest hrest
    cases item with
    | bare n =>
      have hc := accepts_coordinate.complete n hrest
      change (coordinate d (n.tokens ++ rest) >>= fun x => pure (some x.1, x.2)) = _
      rw [hc]
      rfl
    | body p =>
      have hp := accepts_point.complete p hrest
      cases p with
      | none => rfl
      | some n => exact hp

/-! ## Geometries -/

theorem eq_append_dimensions (input : List Token) :
    input = (dimensions input).1.tokens ++ (dimensions input).2 := by
  fun_cases dimensions input <;> rfl

def BeginsBody (tokens : List Token) : Prop :=
  ∃ behind, tokens = .word "EMPTY" :: behind ∨ tokens = .leftParen :: behind

theorem dimensions_append (d : Dimensions) {body : List Token} (hbody : BeginsBody body) :
    dimensions (d.tokens ++ body) = (d, body) := by
  obtain ⟨z, m⟩ := d
  obtain ⟨behind, rfl | rfl⟩ := hbody <;> cases z <;> cases m <;> rfl

theorem beginsBody_listTokens (item : σ → List Token) (ss : List σ) (rest : List Token) :
    BeginsBody (listTokens item ss ++ rest) := by
  cases ss with
  | nil => exact ⟨_, .inl rfl⟩
  | cons s ss => exact ⟨_, .inr rfl⟩

theorem beginsBody_pointTokens (p : Option (Numbers d)) (rest : List Token) :
    BeginsBody (pointTokens p ++ rest) := by
  cases p with
  | none => exact ⟨_, .inl rfl⟩
  | some n => exact ⟨_, .inr rfl⟩

section Bodies

variable {Member : Type} {member : Parser Geometry} {tokens : Member → List Token}
  {value : Member → Geometry}

theorem beginsBody_tokens (b : Body Member d) (rest : List Token) :
    BeginsBody (b.tokens tokens ++ rest) := by
  cases b with
  | point p => exact beginsBody_pointTokens p rest
  | lineString path => exact beginsBody_listTokens _ path rest
  | linearRing ring => exact beginsBody_listTokens _ ring.numbers rest
  | polygon rings => exact beginsBody_listTokens _ rings rest
  | multiPoint points => exact beginsBody_listTokens _ points rest
  | multiLineString paths => exact beginsBody_listTokens _ paths rest
  | multiPolygon polygons => exact beginsBody_listTokens _ polygons rest
  | collection members => exact beginsBody_listTokens _ members rest

theorem body_sound (hmember : Accepts member tokens value) {tag : String}
    {input rest : List Token} {g : Geometry} (hread : body tag d member input = .ok (g, rest)) :
    ∃ b : Body Member d, b.tag = tag ∧ input = b.tokens tokens ++ rest ∧ b.geometry value = g := by
  unfold body at hread
  split at hread
  · obtain ⟨s, hinput, hg⟩ := (accepts_build accepts_point .point).sound hread
    exact ⟨.point s, rfl, hinput, hg⟩
  · obtain ⟨s, hinput, hg⟩ := (accepts_build accepts_path .lineString).sound hread
    exact ⟨.lineString s, rfl, hinput, hg⟩
  · obtain ⟨s, hinput, hg⟩ := (accepts_build accepts_ring .linearRing).sound hread
    exact ⟨.linearRing s, rfl, hinput, hg⟩
  · obtain ⟨s, hinput, hg⟩ := (accepts_build accepts_polygon .polygon).sound hread
    exact ⟨.polygon s, rfl, hinput, hg⟩
  · obtain ⟨s, hinput, hg⟩ :=
      (accepts_build (accepts_list accepts_pointMember) .multiPoint).sound hread
    exact ⟨.multiPoint s, rfl, hinput, hg⟩
  · obtain ⟨s, hinput, hg⟩ :=
      (accepts_build (accepts_list accepts_path) .multiLineString).sound hread
    exact ⟨.multiLineString s, rfl, hinput, hg⟩
  · obtain ⟨s, hinput, hg⟩ :=
      (accepts_build (accepts_list accepts_polygon) .multiPolygon).sound hread
    exact ⟨.multiPolygon s, rfl, hinput, hg⟩
  · obtain ⟨s, hinput, hg⟩ := (accepts_build (accepts_list hmember) .collection).sound hread
    exact ⟨.collection s, rfl, hinput, hg⟩
  · cases hread

theorem body_complete (hmember : Accepts member tokens value) (b : Body Member d)
    {rest : List Token} (hrest : Stops rest) :
    body b.tag d member (b.tokens tokens ++ rest) = .ok (b.geometry value, rest) := by
  cases b with
  | point s => exact (accepts_build accepts_point .point).complete s hrest
  | lineString s => exact (accepts_build accepts_path .lineString).complete s hrest
  | linearRing s => exact (accepts_build accepts_ring .linearRing).complete s hrest
  | polygon s => exact (accepts_build accepts_polygon .polygon).complete s hrest
  | multiPoint s =>
    exact (accepts_build (accepts_list accepts_pointMember) .multiPoint).complete s hrest
  | multiLineString s =>
    exact (accepts_build (accepts_list accepts_path) .multiLineString).complete s hrest
  | multiPolygon s =>
    exact (accepts_build (accepts_list accepts_polygon) .multiPolygon).complete s hrest
  | collection s => exact (accepts_build (accepts_list hmember) .collection).complete s hrest

end Bodies

theorem tag_eq_ok {input rest : List Token} {text : String} :
    tag input = .ok (text, rest) ↔ input = .word text :: rest := by
  cases input with
  | nil => simp [tag, next, bind, Except.bind]
  | cons token input =>
    cases token <;> simp [tag, next, pure, Except.pure, throw, throwThe, MonadExceptOf.throw]

theorem accepts_geometry (levels : Nat) :
    Accepts (geometry levels) (@Derivation.tokens levels) Derivation.geometry := by
  induction levels with
  | zero =>
    constructor
    · intro input rest g hread
      cases hread
    · intro t
      exact Empty.elim t
  | succ levels ih =>
    constructor
    · intro input rest g hread
      simp only [geometry, bind_eq_ok] at hread
      obtain ⟨⟨text, tail⟩, htag, hread⟩ := hread
      obtain rfl := tag_eq_ok.1 htag
      simp only at hread
      obtain ⟨b, rfl, hbody, rfl⟩ := body_sound ih hread
      refine ⟨⟨_, b⟩, ?_, rfl⟩
      have hdimensions := eq_append_dimensions tail
      rw [hbody] at hdimensions
      exact (congrArg (.word b.tag :: ·) hdimensions).trans (Derivation.tokens_append _ b rest).symm
    · rintro ⟨d, b⟩ rest hrest
      have htag : tag (.word b.tag :: (d.tokens ++ (b.tokens Derivation.tokens ++ rest))) =
          .ok (b.tag, d.tokens ++ (b.tokens Derivation.tokens ++ rest)) := tag_eq_ok.2 rfl
      rw [Derivation.tokens_append, geometry, htag]
      simp only [ok_bind, dimensions_append d (beginsBody_tokens b rest)]
      exact body_complete ih b hrest

end SpatialSql.Wkt
