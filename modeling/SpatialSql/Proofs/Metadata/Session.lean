import SpatialSql.Dialect
import SpatialSql.Proofs.Metadata.Description
/-!
# Sessions

What may be done with the metadata of a dialect, one operation after another, while settings change
and the catalog may answer differently each time.  One equation says what an operation answers and
one what it leaves in the cache; what holds of whole runs follows from them.
-/

namespace SpatialSql.Dialect

open Catalog (Asked ColumnKey Probe)
open Metadata (Cache GeometryColumn Resolver described described_of_find?
  described_of_find?_eq_none isSome_of_described listing mem_missing_iff missing)

/-! ## Operations -/

inductive Operation where
  | describe (schema : Option String) (table column nativeName : String)
  | geometryColumns (schema : Option String) (table : String)
  | cached (schema : Option String) (table column : String)
  | srid (schema : Option String) (table column : String)
  | setContext (schema : String)
  | change (change : Settings.Change)

/-- Whether an operation describes columns; to recall what was described is not to describe. -/
def Operation.describes : Operation → Bool
  | .describe _ _ _ _ | .geometryColumns _ _ => true
  | .cached _ _ _ | .srid _ _ _ | .setContext _ | .change _ => false

structure Turn where
  probe : Probe
  operation : Operation

def keyOf (d : Dialect) (schema : Option String) (table column : String) : ColumnKey :=
  ⟨d.settings.schemaOr schema, table, column⟩

inductive Answer where
  /-- Descriptions, each with its column. -/
  | columns (described : List (ColumnKey × GeometryColumn))
  | srid (code : Int32)
  /-- Whether a schema that was taken into use has reset the cache. -/
  | context (reset : Bool)
  | changed (result : Except Settings.Fault Unit)
  deriving DecidableEq

/-- The answer to an operation, and the state behind it.  A change of settings that is refused
changes nothing. -/
def perform (d : Dialect) (probe : Probe) : Operation → Asked (Answer × Dialect)
  | .describe schema table column nativeName => do
    let (described, resolver) ←
      d.resolver.describe probe d.settings schema table column nativeName
    return (.columns (described.toList.map fun c => (d.keyOf schema table column, c)),
      { d with resolver })
  | .geometryColumns schema table => do
    let (columns, resolver) ← d.resolver.geometryColumns probe d.settings schema table
    return (.columns (columns.map fun c => (d.keyOf schema table c.name, c)), { d with resolver })
  | .cached schema table column =>
    let known := d.resolver.cached d.settings schema table column
    pure (.columns (known.toList.map fun c => (d.keyOf schema table column, c)), d)
  | .srid schema table column => do
    let (code, resolver) ← d.resolver.srid probe d.settings schema table column
    return (.srid code, { d with resolver })
  | .setContext schema =>
    let (reset, resolver) := d.resolver.setContext schema
    pure (.context reset, { d with resolver })
  | .change change =>
    pure (.changed ((d.settings.change change).map fun _ => ()),
      { d with settings := d.settings.build change })

def answer (d : Dialect) (turn : Turn) : Answer := (d.perform turn.probe turn.operation).value.1

def answers (d : Dialect) (turn : Turn) : List (ColumnKey × GeometryColumn) :=
  match d.answer turn with
  | .columns described => described
  | .srid _ | .context _ | .changed _ => []

def resets (d : Dialect) (turn : Turn) : Bool :=
  match d.answer turn with
  | .context reset => reset
  | .columns _ | .srid _ | .changed _ => false

def after (d : Dialect) (turn : Turn) : Dialect := (d.perform turn.probe turn.operation).value.2

def run (d : Dialect) (turns : List Turn) : Dialect := turns.foldl after d

/-- The columns that a resolver gets to see, with the names of their database types. -/
def presented (d : Dialect) (turn : Turn) : List (ColumnKey × String) :=
  match turn.operation with
  | .describe schema table column nativeName => [(d.keyOf schema table column, nativeName)]
  | .geometryColumns schema table =>
    (listing turn.probe (d.settings.schemaOr schema) table).map fun l =>
      (d.keyOf schema table l.name, l.typeName)
  | .cached _ _ _ | .srid _ _ _ | .setContext _ | .change _ => []

/-- What is stored: what was missing of what is presented. -/
def discovered (d : Dialect) (turn : Turn) : List (ColumnKey × GeometryColumn) :=
  (d.presented turn).flatMap fun p => missing turn.probe d.resolver.cache p.1 p.2

def recalled (d : Dialect) : Operation → List (ColumnKey × GeometryColumn)
  | .cached schema table column =>
    (d.resolver.cached d.settings schema table column).toList.map fun c =>
      (d.keyOf schema table column, c)
  | .describe _ _ _ _ | .geometryColumns _ _ | .srid _ _ _ | .setContext _ | .change _ => []

/-! ## One turn -/

/-- Every description in the cache has the name of its column. -/
def IsNamed (d : Dialect) : Prop :=
  ∀ key column, d.resolver.cache.find? key = some column → column.name = key.column

variable {d : Dialect} {turn : Turn} {key : ColumnKey} {column : GeometryColumn}

theorem IsNamed.name_of_described (hnamed : d.IsNamed) {probe : Probe} {nativeName : String}
    (h : described probe d.resolver.cache key nativeName = some column) :
    column.name = key.column := by
  obtain ⟨declared, -, hvalue⟩ := Option.map_eq_some_iff.1 h
  cases hfind : d.resolver.cache.find? key with
  | some known =>
    rw [hfind, Option.getD_some] at hvalue
    rw [← hvalue]
    exact hnamed key known hfind
  | none =>
    rw [described_of_find?_eq_none hfind] at h
    exact Metadata.name_of_described h

theorem IsNamed.map_keyOf_name (hnamed : d.IsNamed) (probe : Probe) (schema : Option String)
    (table name nativeName : String) :
    ((described probe d.resolver.cache (d.keyOf schema table name) nativeName).map fun c =>
        (d.keyOf schema table c.name, c)) =
      (described probe d.resolver.cache (d.keyOf schema table name) nativeName).map fun c =>
        (d.keyOf schema table name, c) := by
  cases hdescribed : described probe d.resolver.cache (d.keyOf schema table name) nativeName with
  | none => rfl
  | some column =>
    have hname : column.name = name := hnamed.name_of_described hdescribed
    rw [Option.map_some, Option.map_some, hname]

theorem answers_eq (hnamed : d.IsNamed) (turn : Turn) :
    d.answers turn =
      ((d.presented turn).filterMap fun p =>
        (described turn.probe d.resolver.cache p.1 p.2).map fun c => (p.1, c)) ++
      d.recalled turn.operation := by
  obtain ⟨probe, operation⟩ := turn
  cases operation with
  | describe schema table name nativeName =>
    simp only [answers, answer, perform, presented, recalled, Asked.value_bind, Asked.value_pure,
      Resolver.value_describe, List.filterMap_cons, List.filterMap_nil, List.append_nil]
    show (described probe d.resolver.cache (d.keyOf schema table name) nativeName).toList.map _ = _
    cases described probe d.resolver.cache (d.keyOf schema table name) nativeName <;> rfl
  | geometryColumns schema table =>
    simp only [answers, answer, perform, presented, recalled, Asked.value_bind, Asked.value_pure,
      Resolver.value_geometryColumns, List.filterMap_map, List.append_nil, List.map_filterMap]
    apply congrArg (List.filterMap · (listing probe (d.settings.schemaOr schema) table))
    funext l
    -- a table files its columns by the names in their descriptions, which are the listed ones
    rw [Function.comp_apply]
    exact hnamed.map_keyOf_name probe schema table l.name l.typeName
  | cached _ _ _ | srid _ _ _ | setContext _ | change _ => rfl

theorem cache_after (d : Dialect) (turn : Turn) :
    (d.after turn).resolver.cache =
      if d.resets turn then d.resolver.cache.reset
      else d.resolver.cache.store (d.discovered turn) := by
  obtain ⟨probe, operation⟩ := turn
  cases operation with
  | describe schema table name nativeName =>
    simp only [after, perform, discovered, presented, resets, answer, Asked.value_bind,
      Asked.value_pure, Resolver.value_describe, List.flatMap_singleton]
    rfl
  | geometryColumns schema table =>
    simp only [after, perform, discovered, presented, resets, answer, Asked.value_bind,
      Asked.value_pure, Resolver.value_geometryColumns, List.flatMap_map]
    rfl
  | setContext schema => exact d.resolver.cache_setContext schema
  | cached _ _ _ | srid _ _ _ | change _ => rfl

theorem mem_discovered_iff :
    (key, column) ∈ d.discovered turn ↔
      d.resolver.cache.find? key = none ∧ ∃ nativeName, (key, nativeName) ∈ d.presented turn ∧
        described turn.probe .empty key nativeName = some column := by
  rw [discovered, List.mem_flatMap]
  constructor
  · rintro ⟨⟨key', nativeName⟩, hpresented, hmissing⟩
    obtain ⟨hnone, rfl, hdescribed⟩ := mem_missing_iff.1 hmissing
    exact ⟨hnone, nativeName, hpresented, hdescribed⟩
  · rintro ⟨hnone, nativeName, hpresented, hdescribed⟩
    exact ⟨(key, nativeName), hpresented, mem_missing_iff.2 ⟨hnone, rfl, hdescribed⟩⟩

theorem mem_answers_iff (hnamed : d.IsNamed) {entry : ColumnKey × GeometryColumn} :
    entry ∈ d.answers turn ↔
      (∃ nativeName, (entry.1, nativeName) ∈ d.presented turn ∧
        described turn.probe d.resolver.cache entry.1 nativeName = some entry.2) ∨
      entry ∈ d.recalled turn.operation := by
  rw [answers_eq hnamed, List.mem_append, List.mem_filterMap]
  apply or_congr_left
  constructor
  · rintro ⟨⟨key, nativeName⟩, hpresented, hentry⟩
    obtain ⟨column, hdescribed, rfl⟩ := Option.map_eq_some_iff.1 hentry
    exact ⟨nativeName, hpresented, hdescribed⟩
  · rintro ⟨nativeName, hpresented, hdescribed⟩
    refine ⟨(entry.1, nativeName), hpresented, ?_⟩
    rw [hdescribed]
    rfl

theorem describes_of_mem_presented {nativeName : String}
    (h : (key, nativeName) ∈ d.presented turn) : turn.operation.describes = true := by
  obtain ⟨probe, operation⟩ := turn
  cases operation with
  | describe | geometryColumns => rfl
  | _ => cases h

theorem find?_of_mem_recalled {operation : Operation} (h : (key, column) ∈ d.recalled operation) :
    d.resolver.cache.find? key = some column := by
  cases operation with
  | cached schema table name =>
    obtain ⟨known, hknown, hentry⟩ := List.mem_map.1 h
    cases hentry
    exact Option.mem_toList.1 hknown
  | _ => cases h

theorem resets_eq_false_of_find?_after
    (h : (d.after turn).resolver.cache.find? key = some column) :
    d.resets turn = false := by
  by_cases hreset : d.resets turn = true
  · rw [cache_after, if_pos hreset, Cache.find?_reset] at h
    cases h
  · exact Bool.eq_false_iff.2 hreset

/-- What is known was known before, or described without regard to what was known. -/
theorem find?_after (h : (d.after turn).resolver.cache.find? key = some column) :
    d.resolver.cache.find? key = some column ∨
      ∃ nativeName, (key, nativeName) ∈ d.presented turn ∧
        described turn.probe .empty key nativeName = some column := by
  have hreset := resets_eq_false_of_find?_after h
  rw [cache_after, if_neg (Bool.eq_false_iff.1 hreset)] at h
  obtain hstored | hbefore := Cache.mem_or_find?_of_find?_store h
  · exact .inr (mem_discovered_iff.1 hstored).2
  · exact .inl hbefore

theorem find?_after_of_find? (hreset : d.resets turn = false)
    (h : d.resolver.cache.find? key = some column) :
    (d.after turn).resolver.cache.find? key = some column := by
  rw [cache_after, if_neg (Bool.eq_false_iff.1 hreset)]
  apply Cache.find?_store_of_find? (fun entry hentry => ?_) h
  exact (mem_discovered_iff.1 hentry).1

theorem resets_eq_false_of_mem_answers {entry : ColumnKey × GeometryColumn}
    (h : entry ∈ d.answers turn) : d.resets turn = false := by
  unfold answers at h
  unfold resets
  generalize d.answer turn = answer at h ⊢
  cases answer with
  | columns described => rfl
  | _ => cases h

theorem find?_of_mem_answers (hnamed : d.IsNamed) (h : (key, column) ∈ d.answers turn)
    (hfind : (d.resolver.cache.find? key).isSome = true) :
    d.resolver.cache.find? key = some column := by
  obtain ⟨nativeName, -, hdescribed⟩ | hrecalled := (mem_answers_iff hnamed).1 h
  · obtain ⟨known, hknown⟩ := Option.isSome_iff_exists.1 hfind
    calc d.resolver.cache.find? key
      _ = some known := hknown
      _ = described turn.probe d.resolver.cache key nativeName :=
        (described_of_find? hknown (isSome_of_described hdescribed)).symm
      _ = some column := hdescribed
  · exact find?_of_mem_recalled hrecalled

theorem exists_mem_answers (hnamed : d.IsNamed) {nativeName : String}
    (hpresented : (key, nativeName) ∈ d.presented turn)
    (hspatial : (Geometry.Kind.ofNative? nativeName).isSome = true) :
    ∃ column, (key, column) ∈ d.answers turn := by
  have hdescribed : (described turn.probe d.resolver.cache key nativeName).isSome = true := by
    rw [described, Option.isSome_map]
    exact hspatial
  obtain ⟨column, hcolumn⟩ := Option.isSome_iff_exists.1 hdescribed
  exact ⟨column, (mem_answers_iff hnamed).2 (.inl ⟨nativeName, hpresented, hcolumn⟩)⟩

/-- What is answered is known from then on.  It is kept as it was answered, or as it was answered
further behind when a table lists a column twice. -/
theorem exists_find?_after_of_mem_answers (hnamed : d.IsNamed)
    (h : (key, column) ∈ d.answers turn) :
    ∃ kept, (key, kept) ∈ d.answers turn ∧
      (d.after turn).resolver.cache.find? key = some kept := by
  have hreset := resets_eq_false_of_mem_answers h
  -- a known column is not stored anew; an unknown one is, and the entry furthest behind stays
  by_cases hknown : (d.resolver.cache.find? key).isSome = true
  · exact ⟨column, h, find?_after_of_find? hreset (find?_of_mem_answers hnamed h hknown)⟩
  have hnone : d.resolver.cache.find? key = none := by
    rwa [Option.not_isSome_iff_eq_none] at hknown
  obtain ⟨nativeName, hpresented, hdescribed⟩ | hrecalled := (mem_answers_iff hnamed).1 h
  · have hdiscovered : (key, column) ∈ d.discovered turn := by
      rw [described_of_find?_eq_none hnone] at hdescribed
      exact mem_discovered_iff.2 ⟨hnone, nativeName, hpresented, hdescribed⟩
    have hkept : ∃ kept, (key, kept) ∈ d.discovered turn ∧
        (d.resolver.cache.store (d.discovered turn)).find? key = some kept :=
      Cache.exists_find?_store hdiscovered
    obtain ⟨kept, hkept, hstored⟩ := hkept
    obtain ⟨-, lastName, hlast, hdescribed'⟩ := mem_discovered_iff.1 hkept
    rw [← described_of_find?_eq_none hnone] at hdescribed'
    refine ⟨kept, (mem_answers_iff hnamed).2 (.inl ⟨lastName, hlast, hdescribed'⟩), ?_⟩
    rw [cache_after, if_neg (Bool.eq_false_iff.1 hreset)]
    exact hstored
  · rw [find?_of_mem_recalled hrecalled] at hnone
    cases hnone

theorem IsNamed.after (hnamed : d.IsNamed) (turn : Turn) : (d.after turn).IsNamed := by
  intro key column h
  obtain hbefore | ⟨nativeName, -, hdescribed⟩ := find?_after h
  · exact hnamed key column hbefore
  · exact Metadata.name_of_described hdescribed

/-! ## Runs -/

def presentedIn : Dialect → List Turn → List (ColumnKey × String)
  | _, [] => []
  | d, turn :: rest => d.presented turn ++ (d.after turn).presentedIn rest

def resetsIn : Dialect → List Turn → Bool
  | _, [] => false
  | d, turn :: rest => d.resets turn || (d.after turn).resetsIn rest

/-- Some turn described a column, and the cache has not been reset since. -/
def DescribedIn (d : Dialect) (turns : List Turn) (key : ColumnKey) : Prop :=
  ∃ before turn later, turns = before ++ turn :: later ∧
    (∃ column, (key, column) ∈ (d.run before).answers turn) ∧
    ((d.run before).after turn).resetsIn later = false

/-- The same, where the turn did not only recall what was described before. -/
def ProducedIn (d : Dialect) (turns : List Turn) (key : ColumnKey) : Prop :=
  ∃ before turn later, turns = before ++ turn :: later ∧ turn.operation.describes = true ∧
    (∃ column, (key, column) ∈ (d.run before).answers turn) ∧
    ((d.run before).after turn).resetsIn later = false

variable {turns : List Turn}

theorem run_append (d : Dialect) (before later : List Turn) :
    d.run (before ++ later) = (d.run before).run later :=
  List.foldl_append

theorem presentedIn_append (d : Dialect) (before later : List Turn) :
    d.presentedIn (before ++ later) = d.presentedIn before ++ (d.run before).presentedIn later := by
  induction before generalizing d with
  | nil => rfl
  | cons turn rest ih =>
    rw [List.cons_append, presentedIn, ih, presentedIn, List.append_assoc]
    rfl

theorem isNamed_ofSettings (settings : Settings) : (ofSettings settings).IsNamed := by
  intro key column h
  cases h

theorem IsNamed.run (hnamed : d.IsNamed) (turns : List Turn) : (d.run turns).IsNamed := by
  induction turns generalizing d with
  | nil => exact hnamed
  | cons turn rest ih => exact ih (hnamed.after turn)

theorem find?_run_of_find? (hresets : d.resetsIn turns = false)
    (h : d.resolver.cache.find? key = some column) :
    (d.run turns).resolver.cache.find? key = some column := by
  induction turns generalizing d with
  | nil => exact h
  | cons turn rest ih =>
    rw [resetsIn, Bool.or_eq_false_iff] at hresets
    exact ih hresets.2 (find?_after_of_find? hresets.1 h)

theorem DescribedIn.isSome_find? (hnamed : d.IsNamed) (h : d.DescribedIn turns key) :
    ((d.run turns).resolver.cache.find? key).isSome = true := by
  obtain ⟨before, turn, later, rfl, ⟨column, hanswer⟩, hresets⟩ := h
  obtain ⟨kept, -, hkept⟩ := exists_find?_after_of_mem_answers (hnamed.run before) hanswer
  have hrun : d.run (before ++ turn :: later) = ((d.run before).after turn).run later :=
    run_append d before (turn :: later)
  rw [hrun]
  exact Option.isSome_of_eq_some (find?_run_of_find? hresets hkept)

theorem ProducedIn.describedIn (h : d.ProducedIn turns key) : d.DescribedIn turns key := by
  obtain ⟨before, turn, later, hturns, -, hanswer, hresets⟩ := h
  exact ⟨before, turn, later, hturns, hanswer, hresets⟩

theorem ProducedIn.cons (h : (d.after turn).ProducedIn turns key) :
    d.ProducedIn (turn :: turns) key := by
  obtain ⟨before, last, later, rfl, hdescribes, hanswer, hresets⟩ := h
  exact ⟨turn :: before, last, later, rfl, hdescribes, hanswer, hresets⟩

theorem find?_run (hnamed : d.IsNamed)
    (h : (d.run turns).resolver.cache.find? key = some column) :
    (d.resolver.cache.find? key = some column ∧ d.resetsIn turns = false) ∨
      d.ProducedIn turns key := by
  -- from the front: the rest of the run kept the column, or described it; in the first case the
  -- first turn either found it known or described it
  induction turns generalizing d with
  | nil => exact .inl ⟨h, rfl⟩
  | cons turn rest ih =>
    obtain ⟨hafter, hresets⟩ | hproduced := ih (hnamed.after turn) h
    · obtain hbefore | ⟨nativeName, hpresented, hdescribed⟩ := find?_after hafter
      · refine .inl ⟨hbefore, ?_⟩
        rw [resetsIn, resets_eq_false_of_find?_after hafter, hresets]
        rfl
      · have hanswer := exists_mem_answers hnamed hpresented (isSome_of_described hdescribed)
        exact .inr ⟨[], turn, rest, rfl, describes_of_mem_presented hpresented, hanswer, hresets⟩
    · exact .inr hproduced.cons

/-- The columns that a new dialect comes to know are those described since the cache was reset
last. -/
theorem isSome_find?_run_iff_producedIn (settings : Settings) (turns : List Turn)
    (key : ColumnKey) :
    (((ofSettings settings).run turns).resolver.cache.find? key).isSome = true ↔
      (ofSettings settings).ProducedIn turns key := by
  constructor
  · intro h
    obtain ⟨column, hcolumn⟩ := Option.isSome_iff_exists.1 h
    obtain ⟨hnew, -⟩ | hproduced := find?_run (isNamed_ofSettings settings) hcolumn
    · cases hnew
    · exact hproduced
  · exact fun h => h.describedIn.isSome_find? (isNamed_ofSettings settings)

theorem isSome_find?_run_iff (settings : Settings) (turns : List Turn) (key : ColumnKey) :
    (((ofSettings settings).run turns).resolver.cache.find? key).isSome = true ↔
      (ofSettings settings).DescribedIn turns key :=
  ⟨fun h => ((isSome_find?_run_iff_producedIn settings turns key).1 h).describedIn,
    DescribedIn.isSome_find? (isNamed_ofSettings settings)⟩

end SpatialSql.Dialect
