import Mathlib.Control.Monad.Basic
import SpatialSql.Proofs.Geometry.Members
import SpatialSql.Proofs.Wkt.Unambiguity
/-!
# Announced ordinates

The numbers in a row that a text holds, each row with the dimensions that the tag before it
announces, are found by one pass over the tokens which knows nothing of the grammar.  In a text that
is read these rows are the coordinates of the geometry, one by one and in their order, so that what
makes up a coordinate says how many numbers stand under an announcement.
-/

namespace SpatialSql.Wkt

/-! ## Rows of numbers -/

/-- Numbers in a row, and the dimensions announced where they stand. -/
structure Ordinates where
  announced : Dimensions
  numbers : List Binary64

def Ordinates.coordinate (row : Ordinates) : Except Fault Coordinate :=
  ofOrdinates row.announced row.numbers

/-- The dimensions announced behind a word, given those before it.  Any word but `EMPTY` and the
words for dimensions is a tag, behind which nothing is announced yet. -/
def Dimensions.behind (d : Dimensions) : (word : String) → Dimensions
  | "Z" => ⟨true, false⟩
  | "M" => ⟨false, true⟩
  | "ZM" => ⟨true, true⟩
  | "EMPTY" => d
  | _ => ⟨false, false⟩

/-- The row collected so far, unless there is none. -/
def closeRow (d : Dimensions) : (numbers : List Binary64) → List Ordinates
  | [] => []
  | x :: numbers => [⟨d, x :: numbers⟩]

/-- The rows of tokens that go on with `tokens`, inside a row if `numbers` is not empty, where `d`
is announced. -/
def rowsFrom (d : Dimensions) (numbers : List Binary64) : (tokens : List Token) → List Ordinates
  | [] => closeRow d numbers
  | .number x :: rest => rowsFrom d (numbers ++ [x]) rest
  | .word text :: rest => closeRow d numbers ++ rowsFrom (d.behind text) [] rest
  | .leftParen :: rest | .rightParen :: rest | .comma :: rest =>
    closeRow d numbers ++ rowsFrom d [] rest

def rows (tokens : List Token) : List Ordinates := rowsFrom ⟨false, false⟩ [] tokens

variable {d d' : Dimensions}

theorem rowsFrom_numbers (xs numbers : List Binary64) (rest : List Token) :
    rowsFrom d numbers (xs.map .number ++ rest) = rowsFrom d (numbers ++ xs) rest := by
  induction xs generalizing numbers with
  | nil => rw [List.append_nil, List.map_nil, List.nil_append]
  | cons x xs ih =>
    rw [List.map_cons, List.cons_append, rowsFrom, ih, List.append_assoc, List.singleton_append]

theorem rowsFrom_of_stops (numbers : List Binary64) {rest : List Token} (hrest : Stops rest) :
    rowsFrom d numbers rest = closeRow d numbers ++ rowsFrom d [] rest := by
  match rest with
  | [] => exact (List.append_nil _).symm
  | .number x :: behind => exact absurd rfl (hrest x behind)
  | .word text :: behind => rfl
  | .leftParen :: behind => rfl
  | .rightParen :: behind => rfl
  | .comma :: behind => rfl

/-! ## Rows that make up coordinates -/

/-- Where dimensions of a kind are announced and no number follows, the rows of the tokens make up
these coordinates, and dimensions of the kind are announced behind the tokens.  The parts of a body
have the dimensions of its tag; a member of a collection announces its own. -/
def Holds (kind : Dimensions → Prop) (tokens : List Token) (coordinates : List Coordinate) : Prop :=
  ∀ d, kind d → ∃ d' found, kind d' ∧ found.map Ordinates.coordinate = coordinates.map .ok ∧
    ∀ rest, Stops rest → rowsFrom d [] (tokens ++ rest) = found ++ rowsFrom d' [] rest

section Pieces

variable {kind : Dimensions → Prop} {ts ts' : List Token} {cs cs' : List Coordinate}

theorem holds_rightParen : Holds kind [.rightParen] [] :=
  fun d hd => ⟨d, [], hd, rfl, fun _ _ => rfl⟩

theorem holds_empty : Holds kind [.word "EMPTY"] [] :=
  fun d hd => ⟨d, [], hd, rfl, fun _ _ => rfl⟩

theorem Holds.comma (h : Holds kind ts cs) : Holds kind (.comma :: ts) cs := h

theorem Holds.leftParen (h : Holds kind ts cs) : Holds kind (.leftParen :: ts) cs := h

theorem Holds.append (h : Holds kind ts cs) (h' : Holds kind ts' cs')
    (hstops : ∀ rest, Stops (ts' ++ rest)) : Holds kind (ts ++ ts') (cs ++ cs') := by
  intro d hd
  obtain ⟨d', found, hd', hfound, hrows⟩ := h d hd
  obtain ⟨d'', found', hd'', hfound', hrows'⟩ := h' d' hd'
  refine ⟨d'', found ++ found', hd'', ?_, fun rest hrest => ?_⟩
  · rw [List.map_append, List.map_append, hfound, hfound']
  · rw [List.append_assoc, hrows _ (hstops rest), hrows' rest hrest, List.append_assoc]

theorem Holds.heading {Member : Type} {b : Body Member d} (h : Holds kind ts cs) (hd : kind d) :
    Holds (fun _ => True) (.word b.tag :: (d.tokens ++ ts)) cs := by
  intro before _
  obtain ⟨d', found, -, hfound, hrows⟩ := h d hd
  refine ⟨d', found, trivial, hfound, fun rest hrest => ?_⟩
  rw [← hrows rest hrest]
  obtain ⟨z, m⟩ := d
  cases b <;> cases z <;> cases m <;> rfl

end Pieces

/-! ## Lists -/

section Lists

variable {kind : Dimensions → Prop} {item : σ → List Token} {value : σ → List Coordinate}
  (hitem : ∀ s, Holds kind (item s) (value s))

include hitem

theorem holds_front (s : σ) {ss : List σ}
    (hss : Holds kind (ss.flatMap (.comma :: item ·) ++ [.rightParen]) (ss.flatMap value)) :
    Holds kind (item s ++ (ss.flatMap (.comma :: item ·) ++ [.rightParen]))
      (value s ++ ss.flatMap value) := by
  refine (hitem s).append hss fun rest => ?_
  simpa using stops_others item ss rest

theorem holds_others (ss : List σ) :
    Holds kind (ss.flatMap (.comma :: item ·) ++ [.rightParen]) (ss.flatMap value) := by
  induction ss with
  | nil => exact holds_rightParen
  | cons s ss ih =>
    rw [List.flatMap_cons, List.flatMap_cons, List.append_assoc]
    exact (holds_front hitem s ih).comma

theorem holds_list (ss : List σ) : Holds kind (listTokens item ss) (ss.flatMap value) := by
  cases ss with
  | nil => exact holds_empty
  | cons s ss => exact (holds_front hitem s (holds_others hitem ss)).leftParen

end Lists

theorem holds_map {kind : Dimensions → Prop} {item : σ → List Token} {part : σ → α}
    {value : α → List Coordinate} (hitem : ∀ s, Holds kind (item s) (value (part s)))
    (ss : List σ) : Holds kind (listTokens item ss) ((ss.map part).flatMap value) := by
  rw [List.flatMap_map]
  exact holds_list hitem ss

/-! ## Bodies -/

theorem holds_numbers (n : Numbers d) : Holds (· = d) n.tokens [n.coordinate] := by
  intro announced hd
  subst hd
  refine ⟨announced, [⟨announced, n.toList⟩], rfl, ?_, fun rest hrest => ?_⟩
  · exact congrArg (fun c => [c]) (ofOrdinates_toList n)
  · rw [Numbers.tokens, rowsFrom_numbers, rowsFrom_of_stops _ hrest]
    rfl

theorem holds_path (path : List (Numbers d)) : Holds (· = d) (pathTokens path) (pathOf path) := by
  rw [pathOf, List.map_eq_flatMap]
  exact holds_list holds_numbers path

theorem holds_polygon (rings : List (RingBody d)) :
    Holds (· = d) (listTokens RingBody.tokens rings) (rings.map RingBody.path).flatten := by
  rw [← List.flatMap_def]
  exact holds_list (fun ring => holds_path ring.numbers) rings

theorem holds_point (p : Option (Numbers d)) :
    Holds (· = d) (pointTokens p) (pointOf p).toList := by
  cases p with
  | none => exact holds_empty
  | some n =>
    exact ((holds_numbers n).append holds_rightParen stops_rightParen).leftParen

theorem holds_pointItem (item : PointItem d) : Holds (· = d) item.tokens item.point.toList := by
  cases item with
  | bare n => exact holds_numbers n
  | body p => exact holds_point p

section Geometries

variable {Member : Type} {tokens : Member → List Token} {value : Member → Geometry}

theorem holds_phrase (hmember : ∀ m, Holds (fun _ => True) (tokens m) (value m).coordinates)
    (p : Phrase Member) :
    Holds (fun _ => True) (p.tokens tokens) (p.geometry value).coordinates := by
  obtain ⟨d, b⟩ := p
  cases b with
  | point p => exact (holds_point p).heading rfl
  | lineString path => exact (holds_path path).heading rfl
  | linearRing ring => exact (holds_path ring.numbers).heading rfl
  | polygon rings => exact (holds_polygon rings).heading rfl
  | multiPoint points => exact (holds_map holds_pointItem points).heading rfl
  | multiLineString paths =>
    have h := holds_list holds_path paths
    rw [List.flatMap_def] at h
    exact h.heading rfl
  | multiPolygon polygons => exact (holds_map holds_polygon polygons).heading rfl
  | collection members =>
    have h := holds_map hmember members
    rw [← Geometry.memberCoordinates_eq_flatMap] at h
    exact h.heading trivial

end Geometries

theorem holds_derivation {levels : Nat} (t : Derivation levels) :
    Holds (fun _ => True) t.tokens t.geometry.coordinates := by
  induction levels with
  | zero => exact Empty.elim t
  | succ levels ih => exact holds_phrase ih t

/-! ## What a text announces -/

theorem coordinate_rows {spelled : List Token} {g : Geometry} (hread : ofTokens spelled = .ok g) :
    (rows spelled).map Ordinates.coordinate = g.coordinates.map .ok := by
  obtain ⟨t, rfl, rfl⟩ := ofTokens_eq_ok_iff.1 hread
  obtain ⟨d', found, -, hfound, hrows⟩ := holds_derivation t ⟨false, false⟩ trivial
  have hall : rows t.tokens = found := by
    have hend := hrows [] stops_nil
    rw [List.append_nil, rowsFrom, closeRow, List.append_nil] at hend
    exact hend
  rw [hall, hfound]

theorem length_of_coordinate {row : Ordinates} {c : Coordinate} (h : row.coordinate = .ok c) :
    row.numbers.length ∈ row.announced.further.map (· + 2) := by
  obtain ⟨n, hlist, -⟩ := ofOrdinates_eq_ok_iff.1 h
  rw [← hlist]
  exact List.mem_map_of_mem n.length_further

/-- The coordinates of a text that is read are the rows of numbers in it, from the first to the
last.  Under a tag with `Z` each of them has three numbers and under one with `ZM` four; under one
with `M` it has three, or two without the measure. -/
theorem announced_ordinates_are_written {text : String} {g : Geometry} (hread : read text = .ok g) :
    ∃ spelled, tokens text = .ok spelled ∧
      (rows spelled).map Ordinates.coordinate = g.coordinates.map .ok ∧
      ∀ row ∈ rows spelled,
        (row.announced = ⟨true, false⟩ → row.numbers.length = 3) ∧
        (row.announced = ⟨false, true⟩ → row.numbers.length = 2 ∨ row.numbers.length = 3) ∧
        (row.announced = ⟨true, true⟩ → row.numbers.length = 4) := by
  obtain ⟨spelled, hspelled, hread⟩ := bind_eq_ok.1 hread
  have hrows := coordinate_rows hread
  refine ⟨spelled, hspelled, hrows, fun row hrow => ?_⟩
  have hmem : row.coordinate ∈ g.coordinates.map .ok := hrows ▸ List.mem_map_of_mem hrow
  obtain ⟨c, -, hc⟩ := List.mem_map.1 hmem
  have hlength {d : Dimensions} (hd : row.announced = d) :
      row.numbers.length ∈ d.further.map (· + 2) := hd ▸ length_of_coordinate hc.symm
  refine ⟨fun hd => ?_, fun hd => ?_, fun hd => ?_⟩
  · simpa [Dimensions.further] using hlength hd
  · simpa [Dimensions.further] using hlength hd
  · simpa [Dimensions.further] using hlength hd

def announcingText : String :=
  "GEOMETRYCOLLECTION (POINT (1 2 3), MULTIPOINT M (1 2 3, (1 2), EMPTY), LINESTRING ZM (1 2 3 4), "
    ++ "GEOMETRYCOLLECTION (POINT Z (1 2 3)))"

def announcingGeometry : Geometry :=
  let planar : Coordinate := ⟨.ofInt 1, .ofInt 2, none⟩
  let spatial : Coordinate := ⟨.ofInt 1, .ofInt 2, some (.ofInt 3)⟩
  .collection [.point (some spatial), .multiPoint [some planar, some planar, none],
    .lineString [spatial], .collection [.point (some spatial)]]

theorem announced_ordinates_are_written_nested :
    read announcingText = .ok announcingGeometry ∧ ∃ spelled, tokens announcingText = .ok spelled ∧
      (rows spelled).map (fun row => (row.announced, row.numbers.length)) =
        [(⟨false, false⟩, 3), (⟨false, true⟩, 3), (⟨false, true⟩, 2), (⟨true, true⟩, 4),
          (⟨true, false⟩, 3)] ∧
      ∀ row ∈ rows spelled,
        (row.announced = ⟨true, false⟩ → row.numbers.length = 3) ∧
        (row.announced = ⟨false, true⟩ → row.numbers.length = 2 ∨ row.numbers.length = 3) ∧
        (row.announced = ⟨true, true⟩ → row.numbers.length = 4) := by
  have hread : read announcingText = .ok announcingGeometry := by decide +kernel
  obtain ⟨spelled, hspelled, -, hcounts⟩ := announced_ordinates_are_written hread
  refine ⟨hread, spelled, hspelled, ?_, hcounts⟩
  have hrows : (tokens announcingText).map (fun spelled =>
      (rows spelled).map fun row => (row.announced, row.numbers.length)) =
      .ok [(⟨false, false⟩, 3), (⟨false, true⟩, 3), (⟨false, true⟩, 2), (⟨true, true⟩, 4),
        (⟨true, false⟩, 3)] := by
    decide +kernel
  rw [hspelled] at hrows
  exact Except.ok.inj hrows

/-- A measure is announced and missing, and the text is read all the same. -/
theorem not_every_measure_is_written :
    let spelled : List Token :=
      [.word "POINT", .word "M", .leftParen, .number (.ofInt 1), .number (.ofInt 2), .rightParen]
    read "POINT M (1 2)" = .ok (.point (some ⟨.ofInt 1, .ofInt 2, none⟩)) ∧
      tokens "POINT M (1 2)" = .ok spelled ∧
      ∃ row ∈ rows spelled, row.announced = ⟨false, true⟩ ∧ row.numbers.length ≠ 3 := by
  refine ⟨by decide +kernel, by decide +kernel, ⟨⟨false, true⟩, [.ofInt 1, .ofInt 2]⟩, ?_, rfl, ?_⟩
  · exact List.mem_singleton.2 rfl
  · decide

end SpatialSql.Wkt
