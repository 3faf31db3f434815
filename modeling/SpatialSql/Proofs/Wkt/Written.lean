import SpatialSql.Proofs.Geometry.Parts
import SpatialSql.Proofs.Wkt.Acceptance
import SpatialSql.Proofs.Wkt.Spelling
/-!
# Derivations of written text

The text of a geometry spells a derivation of what it keeps, with as many levels as collections are
nested, unless positive infinity is written.
-/

namespace SpatialSql.Wkt

open SpatialSql.Geometry (allEmpty memberCoordinates memberRings membersDepth membersLegible)

def Derives (tokens : σ → List Token) (value : σ → α) (text : String) (a : α) : Prop :=
  ∃ s, Spells text.toList (tokens s) ∧ value s = a

/-! ## Lists -/

theorem intercalate_cons (separator first : List Char) (others : List (List Char)) :
    separator.intercalate (first :: others) = first ++ others.flatMap (separator ++ ·) := by
  induction others generalizing first with
  | nil => simp
  | cons second others ih =>
    rw [List.intercalate_cons_cons, ih, List.flatMap_cons, List.append_assoc,
      List.append_assoc]

theorem toList_writeList (first : String) (others : List String) :
    (writeList (first :: others)).toList =
      '(' :: (first.toList ++
        (others.flatMap (fun text => ',' :: ' ' :: text.toList) ++ [')'])) := by
  have hparens : "(".toList = ['('] ∧ ")".toList = [')'] ∧ ", ".toList = [',', ' '] :=
    ⟨rfl, rfl, rfl⟩
  rw [writeList, String.toList_append, String.toList_append, String.toList_intercalate, hparens.1,
    hparens.2.1, hparens.2.2, List.map_cons, intercalate_cons, List.flatMap_map]
  simp

section Lists

variable {tokens : σ → List Token} {value : σ → α} {write : β → String} {form : β → α}

theorem derives_empty : Derives (listTokens tokens) (List.map value) "EMPTY" [] :=
  ⟨[], spells_empty, rfl⟩

theorem isApart_others (others : List String) :
    IsApart (others.flatMap (fun text => ',' :: ' ' :: text.toList) ++ [')']) := by
  cases others with
  | nil => exact isApart_cons rfl []
  | cons text others => exact isApart_cons rfl _

theorem derives_others {bs : List β} (h : ∀ b ∈ bs, Derives tokens value (write b) (form b)) :
    ∃ ss : List σ, Spells ((bs.map write).flatMap (fun text => ',' :: ' ' :: text.toList) ++ [')'])
      (ss.flatMap (.comma :: tokens ·) ++ [.rightParen]) ∧ ss.map value = bs.map form := by
  induction bs with
  | nil => exact ⟨[], spells_nil.rightParen, rfl⟩
  | cons b bs ih =>
    obtain ⟨s, hs, hvalue⟩ := h b List.mem_cons_self
    obtain ⟨ss, hss, hvalues⟩ := ih fun b' hb' => h b' (List.mem_cons_of_mem b hb')
    -- a comma or the closing parenthesis stands behind the item and ends its last word
    have happend := (hs.append hss (isApart_others (bs.map write))).blank.comma
    refine ⟨s :: ss, ?_, by rw [List.map_cons, List.map_cons, hvalue, hvalues]⟩
    simpa using happend

theorem derives_list {bs : List β} (hne : bs ≠ [])
    (h : ∀ b ∈ bs, Derives tokens value (write b) (form b)) :
    Derives (listTokens tokens) (List.map value) (writeList (bs.map write)) (bs.map form) := by
  cases bs with
  | nil => exact absurd rfl hne
  | cons b bs =>
    obtain ⟨s, hs, hvalue⟩ := h b List.mem_cons_self
    obtain ⟨ss, hss, hvalues⟩ := derives_others fun b' hb' => h b' (List.mem_cons_of_mem b hb')
    refine ⟨s :: ss, ?_, by rw [List.map_cons, List.map_cons, hvalue, hvalues]⟩
    rw [List.map_cons, toList_writeList]
    exact (hs.append hss (isApart_others (bs.map write))).leftParen

/-- `EMPTY` stands for items that are left out. -/
theorem derives_items {empty : Bool} {bs : List β} (hnil : bs = [] → empty = true)
    (h : empty = false → ∀ b ∈ bs, Derives tokens value (write b) (form b)) :
    Derives (listTokens tokens) (List.map value)
      (if empty then "EMPTY" else writeList (bs.map write))
      (if empty then [] else bs.map form) := by
  cases empty with
  | true => exact derives_empty
  | false => exact derives_list (fun hbs => Bool.false_ne_true (hnil hbs)) (h rfl)

end Lists

/-! ## Coordinates -/

def dimensionsOf (z : Bool) : Dimensions := ⟨z, false⟩

def numbersOf (z : Bool) (c : Coordinate) : Numbers (dimensionsOf z) where
  x := c.x.legible
  y := c.y.legible
  further := if z then [(c.z.getD .nan).legible] else []
  length_further := by cases z <;> simp [dimensionsOf, Dimensions.further]

theorem coordinate_numbersOf (z : Bool) (c : Coordinate) :
    (numbersOf z c).coordinate = c.legible z := by
  cases z with
  | false => rfl
  | true =>
    have hheight : (some (c.z.getD .nan).legible).filter (fun w => !w.isNaN) =
        c.z.filter fun w => !w.isNaN := by
      cases c.z with
      | none => rfl
      | some w =>
        cases hw : w.isNaN with
        | false => rw [Option.getD_some, Binary64.legible_eq hw]
        | true => simp [filter_some_isNaN, Binary64.isNaN_legible, hw]
    exact congrArg (Coordinate.mk c.x.legible c.y.legible) hheight

theorem legible_height_ne {z : Option Binary64}
    (hz : ∀ w ∈ z.filter (fun w => !w.isNaN), w ≠ .infinity) :
    (z.getD .nan).legible ≠ .infinity := by
  cases z with
  | none => decide
  | some w =>
    cases hw : w.isNaN with
    | true =>
      rw [Option.getD_some, Binary64.legible, if_pos hw]
      decide
    | false =>
      rw [Option.getD_some, Binary64.legible_eq hw]
      exact hz w (by simp [filter_some_isNaN, hw])

theorem derives_coordinate {z : Bool} {c : Coordinate} (hc : (c.legible z).IsSpelled) :
    Derives (@Numbers.tokens (dimensionsOf z)) Numbers.coordinate (writeCoordinate z c)
      (c.legible z) := by
  obtain ⟨hx, hy, hz⟩ := hc
  refine ⟨numbersOf z c, ?_, coordinate_numbersOf z c⟩
  have hblank : " ".toList = [' '] := rfl
  cases z with
  | false =>
    have hxy := (spells_plain hx).append (spells_plain hy).blank (isApart_cons rfl _)
    simpa [writeCoordinate, numbersOf, Numbers.tokens, Numbers.toList, hblank] using hxy
  | true =>
    have hyz := (spells_plain hy).append (spells_plain (legible_height_ne hz)).blank
      (isApart_cons rfl _)
    have hxyz := (spells_plain hx).append hyz.blank (isApart_cons rfl _)
    simpa [writeCoordinate, numbersOf, Numbers.tokens, Numbers.toList, hblank] using hxyz

/-! ## Bodies -/

section Bodies

variable {z : Bool}

theorem derives_path {path : Path} (hpath : ∀ c ∈ path.legible z, c.IsSpelled) :
    Derives (@pathTokens (dimensionsOf z)) pathOf (writePath z path) (path.legible z) := by
  cases path with
  | nil => exact derives_empty
  | cons c path =>
    exact derives_list (List.cons_ne_nil c path) fun b hb =>
      derives_coordinate (hpath _ (List.mem_map_of_mem hb))

theorem derives_ring {path : Path} (hring : path.isRing = true)
    (hpath : ∀ c ∈ path.legible z, c.IsSpelled) :
    Derives (@RingBody.tokens (dimensionsOf z)) RingBody.path (writePath z path)
      (path.legible z) := by
  obtain ⟨numbers, hnumbers, hvalue⟩ := derives_path hpath
  have hlength : numbers.length = path.length := by
    have hlengths := congrArg List.length hvalue
    simpa [pathOf, Path.legible] using hlengths
  refine ⟨⟨numbers, ?_⟩, hnumbers, hvalue⟩
  rw [hvalue, Path.isClosed_legible, hlength, ← List.length_eq_zero_iff, hlength,
    List.length_eq_zero_iff]
  exact Path.isRing_iff.1 hring

theorem derives_polygon {rings : Polygon} (hrings : ∀ ring ∈ rings, ring.isRing = true)
    (hpolygon : ∀ c ∈ (rings.legible z).flatten, c.IsSpelled) :
    Derives (listTokens (@RingBody.tokens (dimensionsOf z))) (List.map RingBody.path)
      (writePolygon z rings) (rings.legible z) := by
  refine derives_items (by rintro rfl; rfl) fun hsome ring hring => ?_
  refine derives_ring (hrings ring hring) fun c hc => hpolygon c ?_
  rw [Polygon.legible, if_neg (Bool.eq_false_iff.1 hsome)]
  exact List.mem_flatten.2 ⟨_, List.mem_map_of_mem hring, hc⟩

theorem derives_point {p : Point} (hp : ∀ c ∈ p.legible z, c.IsSpelled) :
    Derives (@pointTokens (dimensionsOf z)) pointOf (writePoint z p) (p.legible z) := by
  cases p with
  | none => exact ⟨none, spells_empty, rfl⟩
  | some c =>
    obtain ⟨n, hn, hvalue⟩ := derives_coordinate (hp _ rfl)
    refine ⟨some n, ?_, congrArg some hvalue⟩
    have hparens := (hn.append spells_nil.rightParen (isApart_cons rfl [])).leftParen
    have hleft : "(".toList = ['('] := rfl
    have hright : ")".toList = [')'] := rfl
    simpa [writePoint, pointTokens, hleft, hright] using hparens

theorem derives_pointItem {p : Point} (hp : ∀ c ∈ p.legible z, c.IsSpelled) :
    Derives (@PointItem.tokens (dimensionsOf z)) PointItem.point (writePoint z p) (p.legible z) :=
  let ⟨body, hbody, hvalue⟩ := derives_point hp
  ⟨.body body, hbody, hvalue⟩

end Bodies

/-! ## Geometries -/

section Geometries

variable {Member : Type} {tokens : Member → List Token} {value : Member → Geometry} {z : Bool}

def DerivesBody (tokens : Member → List Token) (value : Member → Geometry) (z : Bool)
    (text : String) (g : Geometry) : Prop :=
  Derives (fun b : Body Member (dimensionsOf z) => b.tokens tokens) (Body.geometry value) text g

theorem Derives.body {spelled : σ → List Token} {meant : σ → α} {text : String} {a : α}
    (h : Derives spelled meant text a) (f : σ → Body Member (dimensionsOf z)) (k : α → Geometry)
    (htokens : ∀ s, (f s).tokens tokens = spelled s)
    (hvalue : ∀ s, (f s).geometry value = k (meant s)) :
    DerivesBody tokens value z text (k a) := by
  obtain ⟨s, hs, rfl⟩ := h
  exact ⟨f s, by simpa only [htokens] using hs, hvalue s⟩

/-- A body that is itself written as `EMPTY` when it is empty. -/
theorem text_eq_writeBody {g : Geometry}
    (h : g.isEmpty = true → writeBody g (isSpatial g) = "EMPTY") :
    (if g.isEmpty then "EMPTY" else writeBody g (isSpatial g)) = writeBody g (isSpatial g) := by
  cases hempty : g.isEmpty with
  | true => exact (h hempty).symm
  | false => rfl

theorem derives_single {g : Geometry} (hkind : g.kind ≠ .collection) (hrings : g.HasRings)
    (hspelled : ∀ c ∈ g.legible.coordinates, c.IsSpelled) :
    DerivesBody tokens value (isSpatial g)
      (if g.isEmpty then "EMPTY" else writeBody g (isSpatial g)) g.legible := by
  cases g with
  | point p =>
    rw [text_eq_writeBody (g := .point p) fun h => by rw [Option.isNone_iff_eq_none.1 h]; rfl]
    exact (derives_point fun c hc => hspelled c (Option.mem_toList.2 hc)).body .point .point
      (fun _ => rfl) fun _ => rfl
  | lineString path =>
    rw [text_eq_writeBody (g := .lineString path) fun h => if_pos h]
    exact (derives_path hspelled).body .lineString .lineString (fun _ => rfl) fun _ => rfl
  | linearRing path =>
    rw [text_eq_writeBody (g := .linearRing path) fun h => if_pos h]
    exact (derives_ring (hrings path (List.mem_singleton_self path)) hspelled).body .linearRing
      .linearRing (fun _ => rfl) fun _ => rfl
  | polygon rings =>
    rw [text_eq_writeBody (g := .polygon rings) fun h => if_pos h]
    exact (derives_polygon hrings hspelled).body .polygon .polygon (fun _ => rfl) fun _ => rfl
  | multiPoint points =>
    refine (derives_items (by rintro rfl; rfl) fun hsome p hp =>
      derives_pointItem fun c hc => ?_).body .multiPoint .multiPoint (fun _ => rfl) fun _ => rfl
    apply hspelled
    rw [Geometry.legible, if_neg (Bool.eq_false_iff.1 hsome)]
    exact List.mem_flatMap.2 ⟨_, List.mem_map_of_mem hp, Option.mem_toList.2 hc⟩
  | multiLineString paths =>
    refine (derives_items (by rintro rfl; rfl) fun hsome path hpath =>
      derives_path fun c hc => ?_).body .multiLineString .multiLineString (fun _ => rfl)
        fun _ => rfl
    apply hspelled
    rw [Geometry.legible, if_neg (Bool.eq_false_iff.1 hsome)]
    exact List.mem_flatten.2 ⟨_, List.mem_map_of_mem hpath, hc⟩
  | multiPolygon polygons =>
    have hmember (rings : Polygon) (hmem : rings ∈ polygons) : ∀ ring ∈ rings, ring.isRing = true :=
      fun ring hring => hrings ring (List.mem_flatten.2 ⟨rings, hmem, hring⟩)
    refine (derives_items (by rintro rfl; rfl) fun hsome rings hmem =>
      derives_polygon (hmember rings hmem) fun c hc => ?_).body .multiPolygon .multiPolygon
      (fun _ => rfl) fun _ => rfl
    apply hspelled
    rw [Geometry.legible, if_neg (Bool.eq_false_iff.1 hsome)]
    exact List.mem_flatMap.2 ⟨_, List.mem_map_of_mem hmem, hc⟩
  | collection members => exact absurd rfl hkind

end Geometries

theorem tag_eq_tagOf {Member : Type} {d : Dimensions} (b : Body Member d)
    (value : Member → Geometry) : b.tag = tagOf (b.geometry value) := by
  cases b <;> rfl

theorem derives_framed {levels : Nat} {g : Geometry}
    (h : DerivesBody (@Derivation.tokens levels) Derivation.geometry (isSpatial g)
      (if g.isEmpty then "EMPTY" else writeBody g (isSpatial g)) g.legible) :
    Derives (@Derivation.tokens (levels + 1)) Derivation.geometry (write g) g.legible := by
  obtain ⟨b, hb, hvalue⟩ := h
  refine ⟨⟨dimensionsOf (isSpatial g), b⟩, ?_, hvalue⟩
  -- what is kept of a geometry has its tag, so the body was derived under that tag
  have htag : b.tag = tagOf g := by
    rw [tag_eq_tagOf b Derivation.geometry, hvalue, Geometry.tagOf_legible]
  have hdimensions : Spells (if isSpatial g then " Z" else "").toList
      (dimensionsOf (isSpatial g)).tokens := by
    cases isSpatial g with
    | true => exact (spells_keyword (by simp [keywords] : "Z" ∈ keywords)).blank
    | false => exact spells_nil
  have hapart : IsApart (if isSpatial g then " Z" else "").toList := by
    cases isSpatial g with
    | true => exact isApart_cons rfl _
    | false => exact isApart_nil
  have hbehind := hdimensions.append hb.blank (isApart_cons rfl _)
  have hall := (spells_keyword (tagOf_mem_keywords g)).append hbehind
    (hapart.append (isApart_cons rfl _))
  have hblank : " ".toList = [' '] := rfl
  rw [write_eq_framed, framed]
  simpa [Derivation.tokens, Phrase.tokens, htag, hblank] using hall

theorem derives_collection {levels : Nat} {members : List Geometry}
    (h : allEmpty members = false → ∀ g ∈ members,
      Derives (@Derivation.tokens levels) Derivation.geometry (write g) g.legible) :
    Derives (@Derivation.tokens (levels + 1)) Derivation.geometry (write (.collection members))
      (Geometry.collection members).legible := by
  apply derives_framed
  rw [writeBody, writeMembers_eq_map, Geometry.legible, Geometry.membersLegible_eq_map]
  exact (derives_items (by rintro rfl; rfl) h).body .collection .collection (fun _ => rfl)
    fun _ => rfl

mutual

/-- Every text in which positive infinity is not written spells a derivation of what it keeps. -/
theorem derives_write : (g : Geometry) → (levels : Nat) → g.depth ≤ levels → g.HasRings →
    (∀ c ∈ g.legible.coordinates, c.IsSpelled) →
    Derives (@Derivation.tokens (levels + 1)) Derivation.geometry (write g) g.legible
  | .collection members, levels, hdepth, hrings, hspelled => by
    apply derives_collection
    intro hsome
    rw [Geometry.legible, if_neg (Bool.eq_false_iff.1 hsome)] at hspelled
    exact derives_members members levels hdepth hrings hspelled
  | .point _, _, _, hrings, hspelled | .lineString _, _, _, hrings, hspelled
  | .linearRing _, _, _, hrings, hspelled | .polygon _, _, _, hrings, hspelled
  | .multiPoint _, _, _, hrings, hspelled | .multiLineString _, _, _, hrings, hspelled
  | .multiPolygon _, _, _, hrings, hspelled => derives_framed (derives_single nofun hrings hspelled)

theorem derives_members : (gs : List Geometry) → (levels : Nat) → membersDepth gs ≤ levels →
    (∀ ring ∈ memberRings gs, ring.isRing = true) →
    (∀ c ∈ memberCoordinates (membersLegible gs), c.IsSpelled) →
    ∀ g ∈ gs, Derives (@Derivation.tokens levels) Derivation.geometry (write g) g.legible
  | [], _, _, _, _ => nofun
  | g :: rest, 0, hdepth, _, _ => by
    rw [membersDepth] at hdepth
    exact absurd (Nat.le_trans (Nat.le_max_left _ _) hdepth) (Nat.not_succ_le_zero _)
  | g :: rest, levels + 1, hdepth, hrings, hspelled => by
    rw [membersDepth, Nat.max_le] at hdepth
    have hg := derives_write g levels (Nat.le_of_succ_le_succ hdepth.1)
      (fun ring hring => hrings ring (List.mem_append_left _ hring))
      fun c hc => hspelled c (List.mem_append_left _ hc)
    have hrest := derives_members rest (levels + 1) hdepth.2
      (fun ring hring => hrings ring (List.mem_append_right _ hring))
      fun c hc => hspelled c (List.mem_append_right _ hc)
    exact List.forall_mem_cons.2 ⟨hg, hrest⟩

end

end SpatialSql.Wkt
