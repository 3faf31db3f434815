import SpatialSql.Catalog.Memory
import SpatialSql.Proofs.Envelope.Surrounding
import SpatialSql.Proofs.Metadata.Description
/-!
# Estimated extents

The extent of several columns is the least one around those that the catalog has estimates for.
One answer that no extent can be taken from leaves the columns without any, wherever it comes, so
that the order of the columns makes no difference, nor does a column that is asked for twice.
-/

namespace SpatialSql.Metadata

open Catalog (Probe)
open Catalog.Memory (single)

/-! ## One answer -/

/-- The answers that end the search: a failure, or a first row without a first cell, with one that
is neither text nor null, or with a text that spells no geometry. -/
inductive Fails : Except Error (List Row) → Prop
  | unanswered (error : Error) : Fails (.error error)
  | noCell {row : Row} {rest : List Row} (hcell : row.get? (.position 0) = none) :
    Fails (.ok (row :: rest))
  | noText {row : Row} {rest : List Row} {value : Scalar}
    (hcell : row.get? (.position 0) = some value) (hnull : value ≠ .null)
    (htext : ∀ text, value ≠ .text text) : Fails (.ok (row :: rest))
  | malformed {row : Row} {rest : List Row} {text : String} {fault : Wkt.Fault}
    (hcell : row.get? (.position 0) = some (.text text)) (hread : Wkt.read text = .error fault) :
    Fails (.ok (row :: rest))

/-- The answers that have an extent: the text of a geometry whose envelope is not null. -/
inductive Yields : Except Error (List Row) → Envelope → Prop
  | intro {row : Row} {rest : List Row} {text : String} {g : Geometry}
    (hcell : row.get? (.position 0) = some (.text text)) (hread : Wkt.read text = .ok g)
    (hnull : g.envelope.isNull = false) : Yields (.ok (row :: rest)) g.envelope

variable {answer : Except Error (List Row)} {extent : Envelope}

theorem Yields.isBox (h : Yields answer extent) : extent.IsBox := by
  obtain ⟨-, -, hnull⟩ := h
  exact (Envelope.isSound_ofCoordinates _).isBox hnull

theorem estimateOfAnswer_cons (row : Row) (rest : List Row) :
    estimateOfAnswer (.ok (row :: rest)) =
      match row.get? (.position 0) with
      | some .null => .missing
      | some (.text text) => estimateOfText text
      | _ => .failed := by
  simp only [estimateOfAnswer, Row.text, Row.getAs, Row.get]
  cases row.get? (.position 0) with
  | none => rfl
  | some value => cases value <;> rfl

theorem estimateOfText_eq_failed_iff {text : String} :
    estimateOfText text = .failed ↔ ∃ fault, Wkt.read text = .error fault := by
  unfold estimateOfText
  cases Wkt.read text with
  | error fault => exact iff_of_true rfl ⟨fault, rfl⟩
  | ok g => cases hnull : g.envelope.isNull <;> simp [hnull]

theorem estimateOfText_eq_found_iff {text : String} :
    estimateOfText text = .found extent ↔
      ∃ g, Wkt.read text = .ok g ∧ g.envelope.isNull = false ∧ g.envelope = extent := by
  unfold estimateOfText
  cases Wkt.read text with
  | error fault => simp
  | ok g => cases hnull : g.envelope.isNull <;> simp [hnull]

theorem estimateOfAnswer_eq_failed_iff : estimateOfAnswer answer = .failed ↔ Fails answer := by
  constructor
  · intro h
    match answer, h with
    | .error error, _ => exact .unanswered error
    | .ok (row :: rest), h =>
      rw [estimateOfAnswer_cons] at h
      split at h
      case h_1 => cases h
      case h_2 text hcell =>
        obtain ⟨fault, hread⟩ := estimateOfText_eq_failed_iff.1 h
        exact .malformed hcell hread
      case h_3 hnull htext =>
        cases hcell : row.get? (.position 0) with
        | none => exact .noCell hcell
        | some value =>
          refine .noText hcell (fun heq => hnull ?_) (fun text heq => htext text ?_)
          all_goals rw [hcell, heq]
  · intro h
    cases h with
    | unanswered error => rfl
    | noCell hcell => rw [estimateOfAnswer_cons, hcell]
    | @noText row rest value hcell hnull htext =>
      rw [estimateOfAnswer_cons, hcell]
      cases value with
      | null => exact absurd rfl hnull
      | text text => exact absurd rfl (htext text)
      | _ => rfl
    | malformed hcell hread =>
      rw [estimateOfAnswer_cons, hcell]
      exact estimateOfText_eq_failed_iff.2 ⟨_, hread⟩

theorem estimateOfAnswer_eq_found_iff :
    estimateOfAnswer answer = .found extent ↔ Yields answer extent := by
  constructor
  · intro h
    match answer, h with
    | .ok (row :: rest), h =>
      rw [estimateOfAnswer_cons] at h
      split at h
      case h_2 text hcell =>
        obtain ⟨g, hread, hnull, rfl⟩ := estimateOfText_eq_found_iff.1 h
        exact .intro hcell hread hnull
      all_goals cases h
  · rintro ⟨hcell, hread, hnull⟩
    rw [estimateOfAnswer_cons, hcell]
    exact estimateOfText_eq_found_iff.2 ⟨_, hread, hnull, rfl⟩

/-! ## Several answers -/

def extentAnswer (probe : Probe) (schema table column : String) : Except Error (List Row) :=
  probe.query (extentStatement ⟨schema, table, column⟩)

def Estimate.extent? : Estimate → Option Envelope
  | .found extent => some extent
  | _ => none

def extents (probe : Probe) (schema table : String) (columns : List String) : List Envelope :=
  columns.filterMap fun column =>
    (estimateOfAnswer (extentAnswer probe schema table column)).extent?

variable {probe : Probe} {schema table : String} {columns : List String}

theorem mem_extents :
    extent ∈ extents probe schema table columns ↔
      ∃ column ∈ columns, Yields (extentAnswer probe schema table column) extent := by
  have hextent (estimate : Estimate) : estimate.extent? = some extent ↔
      estimate = .found extent := by cases estimate <;> simp [Estimate.extent?]
  simp only [extents, List.mem_filterMap, hextent, estimateOfAnswer_eq_found_iff]

theorem isBox_of_mem_extents (h : extent ∈ extents probe schema table columns) : extent.IsBox := by
  obtain ⟨column, -, hyields⟩ := mem_extents.1 h
  exact hyields.isBox

theorem value_estimateFrom_cons (extent : Envelope) (column : String) (rest : List String) :
    (estimateFrom probe schema table extent (column :: rest)).value =
      match estimateOfAnswer (extentAnswer probe schema table column) with
      | .failed => none
      | .missing => (estimateFrom probe schema table extent rest).value
      | .found further => (estimateFrom probe schema table (extent.union further) rest).value := by
  show Catalog.Asked.value (match estimateOfAnswer (extentAnswer probe schema table column) with
    | .failed => pure none
    | .missing => estimateFrom probe schema table extent rest
    | .found further => estimateFrom probe schema table (extent.union further) rest) = _
  split <;> rfl

theorem value_estimateFrom_of_fails {failing : String} (hmem : failing ∈ columns)
    (hfails : Fails (extentAnswer probe schema table failing)) :
    (estimateFrom probe schema table extent columns).value = none := by
  induction columns generalizing extent with
  | nil => cases hmem
  | cons column rest ih =>
    rw [value_estimateFrom_cons]
    obtain rfl | hrest := List.mem_cons.1 hmem
    · rw [estimateOfAnswer_eq_failed_iff.2 hfails]
    · -- the search ends here already or goes on to the failure
      split
      case h_1 => rfl
      case h_2 => exact ih hrest
      case h_3 => exact ih hrest

theorem value_estimateFrom
    (h : ∀ column ∈ columns, ¬ Fails (extentAnswer probe schema table column)) :
    (estimateFrom probe schema table extent columns).value =
      let whole := (extents probe schema table columns).foldl Envelope.union extent
      if whole.isNull then none else some whole := by
  induction columns generalizing extent with
  | nil => rfl
  | cons column rest ih =>
    rw [List.forall_mem_cons] at h
    rw [value_estimateFrom_cons, extents, List.filterMap_cons]
    cases houtcome : estimateOfAnswer (extentAnswer probe schema table column) with
    | failed => exact absurd (estimateOfAnswer_eq_failed_iff.1 houtcome) h.1
    | missing => exact ih h.2
    | found further => exact ih h.2

/-- What the estimate of some columns is by the answers about them. -/
def IsEstimate (probe : Probe) (schema table : String) (columns : List String) :
    Option Envelope → Prop
  | none =>
    (∃ column ∈ columns, Fails (extentAnswer probe schema table column)) ∨
      extents probe schema table columns = []
  | some extent =>
    (∀ column ∈ columns, ¬ Fails (extentAnswer probe schema table column)) ∧
      extents probe schema table columns ≠ [] ∧
      extent.IsLeastAround (extents probe schema table columns)

theorem isEstimate_estimateFrom (probe : Probe) (schema table : String) (columns : List String) :
    IsEstimate probe schema table columns
      (estimateFrom probe schema table .null columns).value := by
  by_cases hfails : ∃ column ∈ columns, Fails (extentAnswer probe schema table column)
  · obtain ⟨failing, hmem, hfailing⟩ := hfails
    rw [value_estimateFrom_of_fails hmem hfailing]
    exact .inl ⟨failing, hmem, hfailing⟩
  · have hnone (column : String) (hmem : column ∈ columns) :
        ¬ Fails (extentAnswer probe schema table column) := fun h => hfails ⟨column, hmem, h⟩
    rw [value_estimateFrom hnone]
    by_cases hempty : extents probe schema table columns = []
    · rw [hempty]
      exact .inr hempty
    · obtain ⟨hbox, hleast⟩ := Envelope.isLeastAround_foldl (fun _ => isBox_of_mem_extents) hempty
      simp only [hbox.isNull_eq_false]
      exact ⟨hnone, hempty, hleast⟩

theorem IsEstimate.not_none (h : IsEstimate probe schema table columns (some extent)) :
    ¬ IsEstimate probe schema table columns none := by
  obtain ⟨hnone, hne, -⟩ := h
  rintro (⟨column, hmem, hfails⟩ | hempty)
  · exact hnone column hmem hfails
  · exact hne hempty

theorem IsEstimate.eq_none_iff {a : Option Envelope}
    (h : IsEstimate probe schema table columns a) :
    a = none ↔ (∃ column ∈ columns, Fails (extentAnswer probe schema table column)) ∨
      ∀ column ∈ columns, ∀ extent, ¬ Yields (extentAnswer probe schema table column) extent := by
  have hempty : extents probe schema table columns = [] ↔
      ∀ column ∈ columns, ∀ extent, ¬ Yields (extentAnswer probe schema table column) extent := by
    simp only [List.eq_nil_iff_forall_not_mem, mem_extents, not_exists, not_and]
    exact ⟨fun h column hmem e => h e column hmem, fun h e column hmem => h column hmem e⟩
  rw [← hempty]
  cases a with
  | none => exact iff_of_true rfl h
  | some extent => exact iff_of_false nofun h.not_none

theorem IsEstimate.rel {others : List String} (hsame : ∀ column, column ∈ others ↔ column ∈ columns)
    {a b : Option Envelope} (ha : IsEstimate probe schema table columns a)
    (hb : IsEstimate probe schema table others b) :
    Option.Rel (fun a b => a.numEq b = true) a b := by
  have hextents (e : Envelope) : e ∈ extents probe schema table columns ↔
      e ∈ extents probe schema table others := by
    simp only [mem_extents, hsame]
  have hempty :
      extents probe schema table columns = [] ↔ extents probe schema table others = [] := by
    simp only [List.eq_nil_iff_forall_not_mem, hextents]
  have hnone : IsEstimate probe schema table columns none ↔
      IsEstimate probe schema table others none := by
    simp only [IsEstimate, hempty, hsame]
  cases a with
  | none =>
    cases b with
    | none => exact .none
    | some e => exact absurd (hnone.1 ha) hb.not_none
  | some e =>
    cases b with
    | none => exact absurd (hnone.2 hb) ha.not_none
    | some e' => exact .some (ha.2.2.numEq hb.2.2 hextents)

/-- The estimated extent of some columns, while the catalog answers as a function of the statement.
There is none if estimates are switched off, if one of the answers fails or if no answer has an
extent; otherwise it is the least envelope around the extents of the columns that have one.  For the
columns in any order and repeated at will it is the same, but for the signs of zeros. -/
theorem estimate_is_least (probe : Probe) (settings : Settings) (schema : Option String)
    (table : String) (columns : List String) :
    let answer := extentAnswer probe (settings.schemaOr schema) table
    let estimated := (estimate probe settings schema table columns).value
    (estimated = none ↔
      settings.estimatedExtents = false ∨ (∃ column ∈ columns, Fails (answer column)) ∨
        ∀ column ∈ columns, ∀ extent, ¬ Yields (answer column) extent) ∧
    (∀ extent, estimated = some extent →
      ∃ es : List Envelope, (∀ e, e ∈ es ↔ ∃ column ∈ columns, Yields (answer column) e) ∧
        extent.IsLeastAround es) ∧
    ∀ others : List String, (∀ column, column ∈ others ↔ column ∈ columns) →
      Option.Rel (fun a b => a.numEq b = true) estimated
        (estimate probe settings schema table others).value := by
  intro answer estimated
  have hspec (columns : List String) :=
    isEstimate_estimateFrom probe (settings.schemaOr schema) table columns
  cases henabled : settings.estimatedExtents with
  | false =>
    have hnothing (columns : List String) :
        (estimate probe settings schema table columns).value = none := by
      rw [estimate, henabled]
      rfl
    refine ⟨iff_of_true (hnothing columns) (.inl rfl), fun extent h => ?_, fun others _ => ?_⟩
    · exact absurd ((hnothing columns).symm.trans h) nofun
    · simp only [estimated, hnothing]
      exact .none
  | true =>
    have hvalue (columns : List String) : (estimate probe settings schema table columns).value =
        (estimateFrom probe (settings.schemaOr schema) table .null columns).value := by
      rw [estimate, henabled]
      rfl
    simp only [estimated, hvalue]
    refine ⟨?_, fun extent h => ?_, fun others hsame => (hspec columns).rel hsame (hspec others)⟩
    · simp only [Bool.true_eq_false, false_or]
      exact (hspec columns).eq_none_iff
    · have hleast := hspec columns
      rw [h] at hleast
      exact ⟨_, fun e => mem_extents, hleast.2.2⟩

/-! ## A sample -/

/-- Two extents, the second with a height, a null, a text without coordinates and a failure. -/
def siteAnswers : List (String × Except Error (List Row)) :=
  [("AREA", .ok (single "EXTENT" (.text "POLYGON ((0 0, 10 0, 10 5, 0 5, 0 0))"))),
    ("LABEL", .ok (single "EXTENT" .null)),
    ("ROUTE", .ok (single "EXTENT" (.text "LINESTRING Z (-0 2 7, 4 8 9)"))),
    ("NOTE", .ok (single "EXTENT" (.text "POINT EMPTY"))),
    ("BROKEN", .error Catalog.Memory.unavailable)]

def siteProbe : Probe where
  query sql :=
    ((siteAnswers.find? fun answer => extentStatement ⟨"public", "SITE", answer.1⟩ == sql).map
      Prod.snd).getD (.ok [])
  columns _ _ _ := .ok []

def siteColumns : List String := ["AREA", "LABEL", "ROUTE", "NOTE", "DRAFT"]

def siteExtent : Envelope := ⟨.zero, .zero, .ofInt 10, .ofInt 8, some (.ofInt 7), some (.ofInt 9)⟩

theorem estimate_is_least_site :
    let estimateOf (columns : List String) :=
      (estimate siteProbe Settings.default none "SITE" columns).value
    estimateOf siteColumns = some siteExtent ∧
      Option.Rel (fun a b => a.numEq b = true) (some siteExtent)
        (estimateOf (siteColumns.reverse ++ siteColumns)) ∧
      estimateOf (siteColumns ++ ["BROKEN"]) = none := by
  intro estimateOf
  have hvalue : estimateOf siteColumns = some siteExtent := by decide +kernel
  have hleast (columns : List String) :=
    estimate_is_least siteProbe Settings.default none "SITE" columns
  refine ⟨hvalue, ?_, ?_⟩
  · rw [← hvalue]
    exact (hleast siteColumns).2.2 _ (by simp)
  · refine (hleast _).1.2 (.inr (.inl ⟨"BROKEN", by simp, ?_⟩))
    exact estimateOfAnswer_eq_failed_iff.1 (by decide +kernel)

end SpatialSql.Metadata
