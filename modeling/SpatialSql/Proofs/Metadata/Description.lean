import SpatialSql.Metadata.Resolver
import SpatialSql.Proofs.Metadata.Cache
/-!
# Descriptions of columns

What a resolver answers and what it stores, by the column that it is asked for.  A column that the
cache has is answered from there; any other is asked of the catalog, and what is then answered is
also stored, whether or not the catalog could tell.
-/

namespace SpatialSql

/-! ## Questions -/

namespace Catalog.Asked

@[simp] theorem value_pure (a : α) : (pure a : Asked α).value = a := rfl

@[simp] theorem value_bind (asked : Asked α) (next : α → Asked β) :
    (asked >>= next).value = (next asked.value).value := rfl

@[simp] theorem calls_pure (a : α) : (pure a : Asked α).calls = [] := rfl

@[simp] theorem calls_bind (asked : Asked α) (next : α → Asked β) :
    (asked >>= next).calls = asked.calls ++ (next asked.value).calls := rfl

end Catalog.Asked

namespace Metadata

open Catalog (Asked Call ColumnKey ColumnListing Probe)

variable {probe : Probe} {cache : Cache} {key : ColumnKey} {nativeName : String}
  {column : GeometryColumn}

/-! ## Answers that stand in -/

theorem refine_of_error {declared : Geometry.Kind} {error : Error}
    (herror : probe.query (kindStatement key) = .error error) :
    (refine probe key declared).value = declared := by
  have hsubtype : (subtype probe key).value = none := by
    show kindOfAnswer (probe.query (kindStatement key)) = none
    rw [herror]
    rfl
  cases declared with
  | generic =>
    show (subtype probe key).value.getD .generic = .generic
    rw [hsubtype]
    rfl
  | _ => rfl

theorem srid_of_error {error : Error} (herror : probe.query (sridStatement key) = .error error) :
    (srid probe key).value = defaultSrid := by
  show sridOfAnswer (probe.query (sridStatement key)) = defaultSrid
  rw [herror]
  rfl

/-! ## One column -/

/-- The description of a column of some database type: as the cache has it, or else as the catalog
answers. -/
def described (probe : Probe) (cache : Cache) (key : ColumnKey) (nativeName : String) :
    Option GeometryColumn :=
  (Geometry.Kind.ofNative? nativeName).map fun declared =>
    (cache.find? key).getD (probeColumn probe key nativeName declared).value

def missing (probe : Probe) (cache : Cache) (key : ColumnKey) (nativeName : String) :
    List (ColumnKey × GeometryColumn) :=
  match cache.find? key with
  | some _ => []
  | none => (described probe cache key nativeName).toList.map fun column => (key, column)

def questions (probe : Probe) (cache : Cache) (key : ColumnKey) (nativeName : String) : List Call :=
  match cache.find? key with
  | some _ => []
  | none =>
    (Geometry.Kind.ofNative? nativeName).elim [] fun declared =>
      (probeColumn probe key nativeName declared).calls

/-! Of the cache, all of this looks at what is known of the column alone. -/

section

variable {cache' : Cache} (h : cache'.find? key = cache.find? key)

include h

theorem described_congr :
    described probe cache' key nativeName = described probe cache key nativeName := by
  rw [described, described, h]

theorem missing_congr :
    missing probe cache' key nativeName = missing probe cache key nativeName := by
  rw [missing, missing, h, described_congr h]

theorem questions_congr :
    questions probe cache' key nativeName = questions probe cache key nativeName := by
  rw [questions, questions, h]

end

section

variable (hnative : Geometry.Kind.ofNative? nativeName = none)

include hnative

theorem described_of_not_spatial : described probe cache key nativeName = none := by
  rw [described, hnative, Option.map_none]

theorem missing_of_not_spatial : missing probe cache key nativeName = [] := by
  rw [missing, described_of_not_spatial hnative]
  split <;> rfl

theorem questions_of_not_spatial : questions probe cache key nativeName = [] := by
  rw [questions, hnative]
  split <;> rfl

end

section

variable (hfind : cache.find? key = some column)

include hfind

theorem missing_of_find? : missing probe cache key nativeName = [] := by
  rw [missing, hfind]

theorem questions_of_find? : questions probe cache key nativeName = [] := by
  rw [questions, hfind]

end

theorem described_of_find? (hfind : cache.find? key = some column)
    (hspatial : (Geometry.Kind.ofNative? nativeName).isSome = true) :
    described probe cache key nativeName = some column := by
  obtain ⟨declared, hdeclared⟩ := Option.isSome_iff_exists.1 hspatial
  rw [described, hdeclared, hfind]
  rfl

theorem isSome_of_described (h : described probe cache key nativeName = some column) :
    (Geometry.Kind.ofNative? nativeName).isSome = true := by
  rw [← Option.isSome_map, ← described, h]
  rfl

theorem described_of_find?_eq_none (hnone : cache.find? key = none) :
    described probe cache key nativeName = described probe .empty key nativeName :=
  described_congr (hnone.trans (Cache.find?_empty key).symm)

theorem name_of_described (h : described probe .empty key nativeName = some column) :
    column.name = key.column := by
  obtain ⟨declared, -, rfl⟩ := Option.map_eq_some_iff.1 h
  rfl

theorem mem_missing_iff {entry : ColumnKey × GeometryColumn} :
    entry ∈ missing probe cache key nativeName ↔
      cache.find? key = none ∧ entry.1 = key ∧
        described probe .empty key nativeName = some entry.2 := by
  unfold missing
  cases hfind : cache.find? key with
  | some known => exact ⟨nofun, nofun⟩
  | none =>
    show entry ∈ (described probe cache key nativeName).toList.map _ ↔ _
    rw [described_of_find?_eq_none hfind, List.mem_map]
    constructor
    · rintro ⟨column, hcolumn, rfl⟩
      exact ⟨rfl, rfl, Option.mem_toList.1 hcolumn⟩
    · rintro ⟨-, hkey, hcolumn⟩
      exact ⟨entry.2, Option.mem_toList.2 hcolumn, Prod.ext hkey.symm rfl⟩

/-! ## Resolvers -/

namespace Resolver

variable (r : Resolver) (probe : Probe) (settings : Settings) (schema : Option String)
  (table name nativeName : String)

theorem value_describe :
    (r.describe probe settings schema table name nativeName).value =
      (described probe r.cache ⟨settings.schemaOr schema, table, name⟩ nativeName,
        r.store (missing probe r.cache ⟨settings.schemaOr schema, table, name⟩ nativeName)) := by
  unfold describe
  cases hnative : Geometry.Kind.ofNative? nativeName with
  | none =>
    rw [described_of_not_spatial hnative, missing_of_not_spatial hnative]
    rfl
  | some declared =>
    cases hfind : r.cache.find? ⟨settings.schemaOr schema, table, name⟩ with
    | some known =>
      simp only [described, missing, hnative, hfind, Asked.value_pure, Option.map_some,
        Option.getD_some]
      rfl
    | none =>
      simp only [described, missing, hnative, hfind, Asked.value_bind, Asked.value_pure,
        Option.map_some, Option.getD_none]
      rfl

theorem calls_describe :
    (r.describe probe settings schema table name nativeName).calls =
      questions probe r.cache ⟨settings.schemaOr schema, table, name⟩ nativeName := by
  unfold describe
  cases hnative : Geometry.Kind.ofNative? nativeName with
  | none => rw [questions_of_not_spatial hnative, Asked.calls_pure]
  | some declared =>
    cases hfind : r.cache.find? ⟨settings.schemaOr schema, table, name⟩ with
    | some known => simp only [questions, hfind, Asked.calls_pure]
    | none =>
      simp only [questions, hnative, hfind, Asked.calls_bind, Asked.calls_pure, Option.elim_some,
        List.append_nil]

variable {r} {probe} {settings} {schema} {table} {name} {nativeName}

theorem describe_of_find? (hspatial : (Geometry.Kind.ofNative? nativeName).isSome = true)
    (hfind : r.cache.find? ⟨settings.schemaOr schema, table, name⟩ = some column) :
    r.describe probe settings schema table name nativeName = pure (some column, r) := by
  obtain ⟨declared, hdeclared⟩ := Option.isSome_iff_exists.1 hspatial
  simp only [describe, hdeclared, hfind]

theorem calls_describe_of_find?
    (hfind : r.cache.find? ⟨settings.schemaOr schema, table, name⟩ = some column) :
    (r.describe probe settings schema table name nativeName).calls = [] := by
  rw [calls_describe, questions_of_find? hfind]

/-! ### Schemas taken into use -/

theorem fst_setContext (r : Resolver) (schema : String) :
    (r.setContext schema).1 = r.changes schema := by
  unfold setContext
  cases r.changes schema <;> rfl

theorem cache_setContext (r : Resolver) (schema : String) :
    (r.setContext schema).2.cache =
      if (r.setContext schema).1 then r.cache.reset else r.cache := by
  unfold setContext
  cases r.changes schema <;> rfl

theorem context_setContext (r : Resolver) (schema : String) :
    (r.setContext schema).2.context =
      if (r.setContext schema).1 then some schema else r.context := by
  unfold setContext
  cases r.changes schema <;> rfl

theorem changes_eq_false_iff {schema : String} :
    r.changes schema = false ↔
      ∃ current, r.context = some current ∧ Text.eqFolded current schema = true := by
  unfold changes
  cases r.context with
  | none => exact ⟨nofun, nofun⟩
  | some current => simp only [Bool.not_eq_eq_eq_not, Bool.not_false, Option.some.injEq,
      exists_eq_left']

end Resolver

/-! ## Tables -/

theorem value_describeListed (probe : Probe) (cache : Cache) (schema table : String)
    (listed : List ColumnListing) :
    (describeListed probe cache schema table listed).value =
      (listed.filterMap fun l => described probe cache ⟨schema, table, l.name⟩ l.typeName,
        listed.flatMap fun l => missing probe cache ⟨schema, table, l.name⟩ l.typeName) := by
  induction listed with
  | nil => rfl
  | cons l rest ih =>
    rw [List.filterMap_cons, List.flatMap_cons, describeListed]
    cases hnative : Geometry.Kind.ofNative? l.typeName with
    | none =>
      rw [described_of_not_spatial hnative, missing_of_not_spatial hnative]
      exact ih
    | some declared =>
      cases hfind : cache.find? ⟨schema, table, l.name⟩ with
      | some known => simp [described, missing, hnative, hfind, ih]
      | none => simp [described, missing, hnative, hfind, ih]

theorem calls_describeListed (probe : Probe) (cache : Cache) (schema table : String)
    (listed : List ColumnListing) :
    (describeListed probe cache schema table listed).calls =
      listed.flatMap fun l => questions probe cache ⟨schema, table, l.name⟩ l.typeName := by
  induction listed with
  | nil => rfl
  | cons l rest ih =>
    rw [List.flatMap_cons, describeListed]
    cases hnative : Geometry.Kind.ofNative? l.typeName with
    | none =>
      rw [questions_of_not_spatial hnative]
      exact ih
    | some declared =>
      cases hfind : cache.find? ⟨schema, table, l.name⟩ with
      | some known => simp [questions, hfind, ih]
      | none => simp [questions, hnative, hfind, ih]

def listing (probe : Probe) (schema table : String) : List ColumnListing :=
  match probe.columns schema table "%" with
  | .ok listed => listed
  | .error _ => []

theorem Resolver.value_geometryColumns (r : Resolver) (probe : Probe) (settings : Settings)
    (schema : Option String) (table : String) :
    (r.geometryColumns probe settings schema table).value =
      ((listing probe (settings.schemaOr schema) table).filterMap fun l =>
          described probe r.cache ⟨settings.schemaOr schema, table, l.name⟩ l.typeName,
        r.store ((listing probe (settings.schemaOr schema) table).flatMap fun l =>
          missing probe r.cache ⟨settings.schemaOr schema, table, l.name⟩ l.typeName)) := by
  have hasked : (probe.askColumns (settings.schemaOr schema) table "%").value =
      probe.columns (settings.schemaOr schema) table "%" := rfl
  simp only [geometryColumns, listing, Asked.value_bind, hasked]
  cases probe.columns (settings.schemaOr schema) table "%" with
  | error error => rfl
  | ok listed =>
    simp only [Asked.value_bind, Asked.value_pure, value_describeListed]

/-- The listing is asked for every time, and then each column that is not known. -/
theorem Resolver.calls_geometryColumns (r : Resolver) (probe : Probe) (settings : Settings)
    (schema : Option String) (table : String) :
    (r.geometryColumns probe settings schema table).calls =
      .columns (settings.schemaOr schema) table "%" ::
        (listing probe (settings.schemaOr schema) table).flatMap fun l =>
          questions probe r.cache ⟨settings.schemaOr schema, table, l.name⟩ l.typeName := by
  have hasked : probe.askColumns (settings.schemaOr schema) table "%" =
      ⟨probe.columns (settings.schemaOr schema) table "%",
        [.columns (settings.schemaOr schema) table "%"]⟩ := rfl
  simp only [geometryColumns, listing, Asked.calls_bind, hasked, List.singleton_append]
  cases probe.columns (settings.schemaOr schema) table "%" with
  | error error => rfl
  | ok listed =>
    simp only [Asked.calls_bind, Asked.calls_pure, calls_describeListed, List.append_nil]

end Metadata

end SpatialSql
