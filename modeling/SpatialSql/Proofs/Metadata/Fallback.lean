import SpatialSql.Catalog.Memory
import SpatialSql.Proofs.Metadata.Session
/-!
# Answers that stand in for the catalog's

Where the catalog fails, a column is described by what stands in for the answers.  Such a
description is stored like any other, and so outlives the failure: it is answered until the cache
is reset, whatever the catalog could tell by then.  Only a listing that fails leaves no trace.
-/

namespace SpatialSql.Dialect

open Catalog (Asked ColumnKey Memory Probe)
open Metadata (GeometryColumn Resolver defaultSrid described described_of_find?_eq_none
  kindStatement listing probeColumn refine_of_error sridStatement srid_of_error)

/-- Where the catalog fails, a description has the declared kind or the default reference system. -/
structure FallsBack (probe : Probe) (key : ColumnKey) (declared : Geometry.Kind)
    (column : GeometryColumn) : Prop where
  kind : ∀ error, probe.query (kindStatement key) = .error error → column.kind = declared
  srid : ∀ error, probe.query (sridStatement key) = .error error → column.srid = defaultSrid

theorem fallsBack_probeColumn (probe : Probe) (key : ColumnKey) (nativeName : String)
    (declared : Geometry.Kind) :
    FallsBack probe key declared (probeColumn probe key nativeName declared).value where
  kind _ herror := refine_of_error herror
  srid _ herror := srid_of_error herror

variable {d : Dialect} {turn : Turn} {key : ColumnKey} {column : GeometryColumn}

theorem mem_answers_of_find?_eq_none (hnamed : d.IsNamed)
    (hnone : d.resolver.cache.find? key = none) {nativeName : String} {declared : Geometry.Kind}
    (hpresented : (key, nativeName) ∈ d.presented turn)
    (hnative : Geometry.Kind.ofNative? nativeName = some declared) :
    (key, (probeColumn turn.probe key nativeName declared).value) ∈ d.answers turn := by
  apply (mem_answers_iff hnamed).2
  refine .inl ⟨nativeName, hpresented, ?_⟩
  rw [described, hnative, hnone, Option.map_some, Option.getD_none]

theorem perform_of_listing_error {probe : Probe} {schema : Option String} {table : String}
    {error : Error} (herror : probe.columns (d.settings.schemaOr schema) table "%" = .error error) :
    (d.perform probe (.geometryColumns schema table)).value = (.columns [], d) := by
  have hlisting : listing probe (d.settings.schemaOr schema) table = [] := by
    rw [listing, herror]
  simp only [perform, Asked.value_bind, Asked.value_pure, Resolver.value_geometryColumns, hlisting]
  rfl

/-- Until the cache is reset, every description of a column is this one and takes no call. -/
def Keeps (d : Dialect) (key : ColumnKey) (column : GeometryColumn) : Prop :=
  ∀ later, d.resetsIn later = false →
    ∀ probe schema table name nativeName, (d.run later).keyOf schema table name = key →
      (Geometry.Kind.ofNative? nativeName).isSome = true →
        (d.run later).resolver.describe probe (d.run later).settings schema table name nativeName =
          pure (some column, (d.run later).resolver)

theorem keeps_of_find? (hfind : d.resolver.cache.find? key = some column) : d.Keeps key column := by
  intro later hresets probe schema table name nativeName hkey hspatial
  apply Resolver.describe_of_find? hspatial
  show (d.run later).resolver.cache.find? ((d.run later).keyOf schema table name) = some column
  rw [hkey]
  exact find?_run_of_find? hresets hfind

/-- What stands in for the answers of a failing catalog is answered and kept like any other
description.  A column that was not described since the cache was reset last is described as by a
new resolver, and a listing that fails changes nothing. -/
theorem fallback_is_kept (settings : Settings) (before : List Turn) (turn : Turn) :
    let d := (ofSettings settings).run before
    (∀ schema table error, turn.operation = .geometryColumns schema table →
      turn.probe.columns (d.settings.schemaOr schema) table "%" = .error error →
        d.answers turn = [] ∧ d.after turn = d) ∧
    (∀ key nativeName declared, (key, nativeName) ∈ d.presented turn →
      Geometry.Kind.ofNative? nativeName = some declared →
      ¬ (ofSettings settings).DescribedIn before key →
        ∃ column, (key, column) ∈ d.answers turn ∧ FallsBack turn.probe key declared column) ∧
    (∀ key column, (key, column) ∈ d.answers turn →
      ∃ kept, (key, kept) ∈ d.answers turn ∧ (d.after turn).Keeps key kept) ∧
    ∀ probe schema table name nativeName,
      ¬ (ofSettings settings).DescribedIn before (d.keyOf schema table name) →
        (d.resolver.describe probe d.settings schema table name nativeName).value.1 =
          (Resolver.empty.describe probe d.settings schema table name nativeName).value.1 := by
  intro d
  have hnamed : d.IsNamed := (isNamed_ofSettings settings).run before
  have hunknown (key : ColumnKey) (h : ¬ (ofSettings settings).DescribedIn before key) :
      d.resolver.cache.find? key = none := by
    rw [← isSome_find?_run_iff, Option.not_isSome_iff_eq_none] at h
    exact h
  refine ⟨?_, ?_, ?_, ?_⟩
  · intro schema table error hoperation herror
    have hperform := perform_of_listing_error herror
    rw [← hoperation] at hperform
    refine ⟨?_, congrArg Prod.snd hperform⟩
    rw [answers, answer, hperform]
  · intro key nativeName declared hpresented hnative hnew
    exact ⟨_, mem_answers_of_find?_eq_none hnamed (hunknown key hnew) hpresented hnative,
      fallsBack_probeColumn turn.probe key nativeName declared⟩
  · intro key column hanswer
    obtain ⟨kept, hkept, hafter⟩ := exists_find?_after_of_mem_answers hnamed hanswer
    exact ⟨kept, hkept, keeps_of_find? hafter⟩
  · intro probe schema table name nativeName hnew
    simp only [Resolver.value_describe]
    exact described_of_find?_eq_none (hunknown _ hnew)

/-! ## A catalog that fails for a while -/

def flakyColumn : ColumnKey := ⟨"GIS", "ROADS", "SHAPE"⟩

def flakyCatalog (failing : Bool) : Probe :=
  ((Memory.sample.register flakyColumn ⟨"ST_LINESTRING", 3857⟩).setFailing failing).probe

def flakyRequest : Operation := .describe (some "GIS") "ROADS" "SHAPE" "ST_GEOMETRY"

def flakyDialect : Dialect :=
  (ofSettings Memory.sampleSettings).after ⟨flakyCatalog true, flakyRequest⟩

def standIn : GeometryColumn := ⟨"SHAPE", .generic, 4326, "ST_GEOMETRY"⟩

theorem fallback_is_kept_roads :
    (ofSettings Memory.sampleSettings).answers ⟨flakyCatalog true, flakyRequest⟩ =
        [(flakyColumn, standIn)] ∧
      FallsBack (flakyCatalog true) flakyColumn .generic standIn ∧
      flakyDialect.resolver.describe (flakyCatalog false) flakyDialect.settings none "ROADS" "SHAPE"
        "ST_GEOMETRY" = pure (some standIn, flakyDialect.resolver) := by
  have hanswers : (ofSettings Memory.sampleSettings).answers ⟨flakyCatalog true, flakyRequest⟩ =
      [(flakyColumn, standIn)] := by decide +kernel
  have heq (column : GeometryColumn) (h : (flakyColumn, column) ∈
      (ofSettings Memory.sampleSettings).answers ⟨flakyCatalog true, flakyRequest⟩) :
      column = standIn := by
    rw [hanswers, List.mem_singleton] at h
    exact congrArg Prod.snd h
  have hnew : ¬ (ofSettings Memory.sampleSettings).DescribedIn [] flakyColumn := by
    rw [← isSome_find?_run_iff]
    decide
  have hall := fallback_is_kept Memory.sampleSettings [] ⟨flakyCatalog true, flakyRequest⟩
  obtain ⟨column, hcolumn, hfalls⟩ := hall.2.1 flakyColumn "ST_GEOMETRY" .generic
    (by decide +kernel) (by decide +kernel) hnew
  obtain ⟨kept, hkept, hlater⟩ := hall.2.2.1 flakyColumn column hcolumn
  rw [heq column hcolumn] at hfalls
  rw [heq kept hkept] at hlater
  exact ⟨hanswers, hfalls, hlater [] rfl (flakyCatalog false) none "ROADS" "SHAPE" "ST_GEOMETRY"
    (by decide +kernel) (by decide +kernel)⟩

/-- A failure is not forgotten: a query of the description fails, what stands in for its answer is
stored, and the catalog that answers again is not asked for what a new resolver learns from it. -/
theorem not_every_failure_is_forgotten :
    ((∃ error, (flakyCatalog true).query (kindStatement flakyColumn) = .error error) ∧
      Catalog.Call.query (kindStatement flakyColumn) ∈
        ((ofSettings Memory.sampleSettings).perform (flakyCatalog true) flakyRequest).calls ∧
      flakyDialect.resolver.cache.find? flakyColumn = some standIn) ∧
    flakyDialect.answers ⟨flakyCatalog false, flakyRequest⟩ = [(flakyColumn, standIn)] ∧
    flakyDialect.answers ⟨flakyCatalog false, .geometryColumns (some "GIS") "ROADS"⟩ =
      [(flakyColumn, standIn)] ∧
    (ofSettings Memory.sampleSettings).answers ⟨flakyCatalog false, flakyRequest⟩ =
      [(flakyColumn, ⟨"SHAPE", .lineString, 3857, "ST_GEOMETRY"⟩)] := by
  refine ⟨⟨⟨Memory.unavailable, rfl⟩, ?_, ?_⟩, ?_, ?_, ?_⟩ <;> decide +kernel

end SpatialSql.Dialect
