import Mathlib.Data.List.Basic
import SpatialSql.Catalog.Memory
import SpatialSql.Proofs.Metadata.Session
/-!
# Transparency of the cache

While the catalog answers every call as a function of the call, and every column is presented under
one type name, nothing that is answered shows whether there is a cache: it is what would be answered
without.  The invariant is that every description in the cache is the one that the catalog would
give.
-/

namespace SpatialSql.Dialect

open Catalog (ColumnKey Memory Probe)
open Metadata (GeometryColumn Resolver described described_of_find?_eq_none)

/-- Everything in the cache is as the catalog tells it. -/
def IsFaithful (probe : Probe) (typeName : ColumnKey → String) (d : Dialect) : Prop :=
  ∀ key column, d.resolver.cache.find? key = some column →
    described probe .empty key (typeName key) = some column

def fresh (d : Dialect) : Dialect := { d with resolver := .empty }

theorem cache_fresh (d : Dialect) : d.fresh.resolver.cache = .empty := rfl

variable {probe : Probe} {typeName : ColumnKey → String} {d : Dialect} {key : ColumnKey}
  {column : GeometryColumn}

namespace IsFaithful

theorem ofSettings (settings : Settings) : (ofSettings settings).IsFaithful probe typeName := by
  intro key column h
  cases h

theorem described_eq (hfaithful : d.IsFaithful probe typeName) (key : ColumnKey) :
    described probe d.resolver.cache key (typeName key) =
      described probe .empty key (typeName key) := by
  cases hfind : d.resolver.cache.find? key with
  | none => exact described_of_find?_eq_none hfind
  | some known =>
    have hknown := hfaithful key known hfind
    rw [hknown]
    exact Metadata.described_of_find? hfind (Metadata.isSome_of_described hknown)

theorem after (hfaithful : d.IsFaithful probe typeName) {operation : Operation}
    (hnames : ∀ p ∈ d.presented ⟨probe, operation⟩, p.2 = typeName p.1) :
    (d.after ⟨probe, operation⟩).IsFaithful probe typeName := by
  intro key column h
  obtain hbefore | ⟨nativeName, hpresented, hdescribed⟩ := find?_after h
  · exact hfaithful key column hbefore
  · rwa [← hnames _ hpresented]

theorem run (hfaithful : d.IsFaithful probe typeName) {operations : List Operation}
    (hnames : ∀ p ∈ d.presentedIn (operations.map (Turn.mk probe)), p.2 = typeName p.1) :
    (d.run (operations.map (Turn.mk probe))).IsFaithful probe typeName := by
  induction operations generalizing d with
  | nil => exact hfaithful
  | cons operation rest ih =>
    rw [List.map_cons, presentedIn, List.forall_mem_append] at hnames
    exact ih (hfaithful.after hnames.1) hnames.2

/-- What is answered is what the catalog tells, and is so even when it is only recalled. -/
theorem described_of_mem_answers (hfaithful : d.IsFaithful probe typeName) (hnamed : d.IsNamed)
    {operation : Operation}
    (hnames : ∀ p ∈ d.presented ⟨probe, operation⟩, p.2 = typeName p.1)
    (h : (key, column) ∈ d.answers ⟨probe, operation⟩) :
    described probe .empty key (typeName key) = some column := by
  obtain ⟨nativeName, hpresented, hdescribed⟩ | hrecalled := (mem_answers_iff hnamed).1 h
  · have hname : nativeName = typeName key := hnames _ hpresented
    rw [← hfaithful.described_eq, ← hname]
    exact hdescribed
  · exact hfaithful key column (find?_of_mem_recalled hrecalled)

theorem answers_eq_fresh (hfaithful : d.IsFaithful probe typeName) (hnamed : d.IsNamed)
    {operation : Operation}
    (hnames : ∀ p ∈ d.presented ⟨probe, operation⟩, p.2 = typeName p.1)
    (hasked : ∀ schema table name, operation ≠ .cached schema table name) :
    d.answers ⟨probe, operation⟩ = d.fresh.answers ⟨probe, operation⟩ := by
  have hrecalled (e : Dialect) : e.recalled operation = [] := by
    cases operation with
    | cached schema table name => exact absurd rfl (hasked schema table name)
    | _ => rfl
  have hpresented : d.fresh.presented ⟨probe, operation⟩ = d.presented ⟨probe, operation⟩ := by
    cases operation <;> rfl
  have hfresh : d.fresh.IsNamed := isNamed_ofSettings d.settings
  calc d.answers ⟨probe, operation⟩
    _ = (d.presented ⟨probe, operation⟩).filterMap fun p =>
          (described probe d.resolver.cache p.1 p.2).map fun c => (p.1, c) := by
      rw [answers_eq hnamed, hrecalled, List.append_nil]
    _ = (d.presented ⟨probe, operation⟩).filterMap fun p =>
          (described probe .empty p.1 p.2).map fun c => (p.1, c) := by
      apply List.filterMap_congr
      intro p hp
      rw [hnames p hp, hfaithful.described_eq]
    _ = d.fresh.answers ⟨probe, operation⟩ := by
      rw [answers_eq hfresh, hrecalled, List.append_nil, hpresented, cache_fresh]

end IsFaithful

/-- After any operations on a new dialect, what one more operation answers of a column is what a
new resolver answers of it; unless it only recalls, it answers the same as with an empty cache; and
a column that was described since the cache was reset last is described without a call. -/
theorem cache_transparent (probe : Probe) (typeName : ColumnKey → String) (settings : Settings)
    (operations : List Operation) (operation : Operation)
    (hnames : ∀ p ∈ (ofSettings settings).presentedIn
      ((operations ++ [operation]).map (Turn.mk probe)), p.2 = typeName p.1) :
    let turns := operations.map (Turn.mk probe)
    let d := (ofSettings settings).run turns
    (∀ key column, (key, column) ∈ d.answers ⟨probe, operation⟩ →
      ∀ (others : Settings) (schema : Option String), others.schemaOr schema = key.schema →
        (Resolver.empty.describe probe others schema key.table key.column
          (typeName key)).value.1 = some column) ∧
    ((∀ schema table name, operation ≠ .cached schema table name) →
      d.answers ⟨probe, operation⟩ = d.fresh.answers ⟨probe, operation⟩) ∧
    ∀ schema table name nativeName,
      (ofSettings settings).DescribedIn turns (d.keyOf schema table name) →
        (d.resolver.describe probe d.settings schema table name nativeName).calls = [] := by
  intro turns d
  rw [List.map_append, presentedIn_append, List.forall_mem_append] at hnames
  have hlast : ∀ p ∈ d.presented ⟨probe, operation⟩, p.2 = typeName p.1 := by
    intro p hp
    exact hnames.2 p (List.mem_append_left _ hp)
  have hfaithful : d.IsFaithful probe typeName := (IsFaithful.ofSettings settings).run hnames.1
  have hnamed : d.IsNamed := (isNamed_ofSettings settings).run turns
  refine ⟨?_, hfaithful.answers_eq_fresh hnamed hlast, ?_⟩
  · intro key column hanswer others schema hschema
    simp only [Resolver.value_describe, hschema]
    exact hfaithful.described_of_mem_answers hnamed hlast hanswer
  · intro schema table name nativeName hdescribed
    have hknown := hdescribed.isSome_find? (isNamed_ofSettings settings)
    obtain ⟨known, hfind⟩ := Option.isSome_iff_exists.1 hknown
    exact Resolver.calls_describe_of_find? hfind

/-! ## A sample -/

def roadTypeName (key : ColumnKey) : String :=
  if key.column = "ID" then "BIGINT" else if key.column = "NAME" then "NVARCHAR" else "ST_GEOMETRY"

def roadListing : Operation := .geometryColumns (some "GIS") "ROADS"

/-- Roads of two schemas, described one by one and as a table, under a schema that is given, one
that is left out and a blank one. -/
def roadOperations : List Operation :=
  [.describe none "ROADS" "SHAPE" "ST_GEOMETRY", .setContext "GIS", roadListing,
    .change (.schema "SALES"), .describe (some " ") "ROADS" "SHAPE" "ST_GEOMETRY",
    .setContext "gis", .cached (some "GIS") "ROADS" "SHAPE"]

def roadDialect : Dialect :=
  (ofSettings Memory.sampleSettings).run (roadOperations.map (Turn.mk Memory.sample.probe))

def roadKey : ColumnKey := ⟨"GIS", "ROADS", "SHAPE"⟩

def roadColumn : GeometryColumn := ⟨"SHAPE", .lineString, 4326, "ST_GEOMETRY"⟩

theorem cache_transparent_roads :
    (∀ p ∈ (ofSettings Memory.sampleSettings).presentedIn
      ((roadOperations ++ [roadListing]).map (Turn.mk Memory.sample.probe)),
        p.2 = roadTypeName p.1) ∧
    (roadKey, roadColumn) ∈ roadDialect.answers ⟨Memory.sample.probe, roadListing⟩ ∧
    (Resolver.empty.describe Memory.sample.probe Memory.sampleSettings none roadKey.table
      roadKey.column (roadTypeName roadKey)).value.1 = some roadColumn ∧
    (roadDialect.resolver.describe Memory.sample.probe roadDialect.settings (some "GIS") "ROADS"
      "SHAPE" "ST_GEOMETRY").calls = [] := by
  have hnames : ∀ p ∈ (ofSettings Memory.sampleSettings).presentedIn
      ((roadOperations ++ [roadListing]).map (Turn.mk Memory.sample.probe)),
        p.2 = roadTypeName p.1 := by decide +kernel
  have hanswer : (roadKey, roadColumn) ∈
      roadDialect.answers ⟨Memory.sample.probe, roadListing⟩ := by decide +kernel
  have hschema : Memory.sampleSettings.schemaOr none = roadKey.schema := by decide +kernel
  have hdescribed : (ofSettings Memory.sampleSettings).DescribedIn
      (roadOperations.map (Turn.mk Memory.sample.probe))
      (roadDialect.keyOf (some "GIS") "ROADS" "SHAPE") :=
    ⟨(roadOperations.take 2).map (Turn.mk Memory.sample.probe), ⟨Memory.sample.probe, roadListing⟩,
      (roadOperations.drop 3).map (Turn.mk Memory.sample.probe), rfl,
      ⟨roadColumn, by decide +kernel⟩, by decide +kernel⟩
  have hall := cache_transparent Memory.sample.probe roadTypeName Memory.sampleSettings
    roadOperations roadListing hnames
  exact ⟨hnames, hanswer, hall.1 roadKey roadColumn hanswer Memory.sampleSettings none hschema,
    hall.2.2 (some "GIS") "ROADS" "SHAPE" "ST_GEOMETRY" hdescribed⟩

end SpatialSql.Dialect
