import Mathlib.Data.List.Nodup
import SpatialSql.Catalog.Memory
import SpatialSql.Proofs.Metadata.Description
/-!
# Tables at once or column by column

A table is described with the cache as it stood before, and what is new is stored in one update.
While no two columns have one name, none of them sees what was stored for another, so that this is
the same as describing them one after another.
-/

namespace SpatialSql.Metadata

open Catalog (Asked ColumnKey ColumnListing Memory Probe)

namespace Resolver

/-- Listed columns one after another, each described by the resolver that the one before left. -/
def describeEach (r : Resolver) (probe : Probe) (settings : Settings) (schema : Option String)
    (table : String) : List ColumnListing → Asked (List GeometryColumn × Resolver)
  | [] => pure ([], r)
  | l :: rest => do
    let (column, next) ← r.describe probe settings schema table l.name l.typeName
    let (columns, last) ← next.describeEach probe settings schema table rest
    return (column.toList ++ columns, last)

variable (r : Resolver) (probe : Probe) (settings : Settings) (schema : Option String)
  (table : String) (l : ColumnListing) (rest : List ColumnListing)

def next : Resolver :=
  r.store (missing probe r.cache ⟨settings.schemaOr schema, table, l.name⟩ l.typeName)

theorem value_describeEach_cons :
    (r.describeEach probe settings schema table (l :: rest)).value =
      let others := (r.next probe settings schema table l).describeEach probe settings schema table
        rest
      ((described probe r.cache ⟨settings.schemaOr schema, table, l.name⟩ l.typeName).toList ++
        others.value.1, others.value.2) := by
  simp only [describeEach, Asked.value_bind, Asked.value_pure, value_describe, next]

theorem calls_describeEach_cons :
    (r.describeEach probe settings schema table (l :: rest)).calls =
      questions probe r.cache ⟨settings.schemaOr schema, table, l.name⟩ l.typeName ++
        ((r.next probe settings schema table l).describeEach probe settings schema table
          rest).calls := by
  simp only [describeEach, Asked.calls_bind, Asked.calls_pure, calls_describe, value_describe, next,
    List.append_nil]

end Resolver

variable {probe : Probe} {cache : Cache}

/-! ## One after another -/

theorem find?_store_missing {key other : ColumnKey} (hne : key ≠ other) (nativeName : String) :
    (cache.store (missing probe cache key nativeName)).find? other = cache.find? other := by
  apply Cache.find?_store_of_forall_ne
  intro entry hentry
  rwa [(mem_missing_iff.1 hentry).2.1]

def addition (probe : Probe) (cache : Cache) (schema table : String)
    (listed : List ColumnListing) : List (ColumnKey × GeometryColumn) :=
  listed.flatMap fun l => missing probe cache ⟨schema, table, l.name⟩ l.typeName

/-- A resolver that knows the listed columns as some cache does describes them as with that cache,
and stores what is missing there. -/
theorem describeEach_eq (r : Resolver) (probe : Probe) (cache : Cache) (settings : Settings)
    (schema : Option String) (table : String) {listed : List ColumnListing}
    (hdistinct : (listed.map ColumnListing.name).Nodup)
    (hsame : ∀ l ∈ listed, r.cache.find? ⟨settings.schemaOr schema, table, l.name⟩ =
      cache.find? ⟨settings.schemaOr schema, table, l.name⟩) :
    let each := r.describeEach probe settings schema table listed
    (each.value.1 = listed.filterMap fun l =>
        described probe cache ⟨settings.schemaOr schema, table, l.name⟩ l.typeName) ∧
      each.value.2.cache.entries =
        (r.cache.store (addition probe cache (settings.schemaOr schema) table listed)).entries ∧
      each.calls = listed.flatMap fun l =>
        questions probe cache ⟨settings.schemaOr schema, table, l.name⟩ l.typeName := by
  intro each
  induction listed generalizing r with
  | nil => exact ⟨rfl, rfl, rfl⟩
  | cons l rest ih =>
    rw [List.map_cons, List.nodup_cons] at hdistinct
    rw [List.forall_mem_cons] at hsame
    obtain ⟨hsame, hothers⟩ := hsame
    -- what the first column stores is not seen by the others
    have hnext : ∀ l' ∈ rest,
        (r.next probe settings schema table l).cache.find?
            ⟨settings.schemaOr schema, table, l'.name⟩ =
          cache.find? ⟨settings.schemaOr schema, table, l'.name⟩ := by
      intro l' hl'
      rw [← hothers l' hl']
      apply find?_store_missing
      intro hkey
      exact hdistinct.1 (List.mem_map.2 ⟨l', hl', (congrArg ColumnKey.column hkey).symm⟩)
    obtain ⟨hcolumns, hentries, hcalls⟩ := ih _ hdistinct.2 hnext
    refine ⟨?_, ?_, ?_⟩
    · simp only [each, Resolver.value_describeEach_cons, described_congr hsame, hcolumns,
        List.filterMap_cons]
      cases described probe cache ⟨settings.schemaOr schema, table, l.name⟩ l.typeName <;> rfl
    · simp only [each, Resolver.value_describeEach_cons, hentries]
      simp only [Resolver.next, Resolver.store, missing_congr hsame, Cache.entries_store_store,
        addition, List.flatMap_cons]
    · simp only [each, Resolver.calls_describeEach_cons, questions_congr hsame, hcalls,
        List.flatMap_cons]

/-! ## Once more -/

section

variable {listed : List ColumnListing}
  (hdistinct : (listed.map ColumnListing.name).Nodup) {l : ColumnListing} (hl : l ∈ listed)

include hdistinct hl

theorem find?_store_addition {schema table : String} {column : GeometryColumn}
    (hdescribed : described probe cache ⟨schema, table, l.name⟩ l.typeName = some column) :
    (cache.store (addition probe cache schema table listed)).find? ⟨schema, table, l.name⟩ =
      some column := by
  cases hfind : cache.find? ⟨schema, table, l.name⟩ with
  | some known =>
    have hknown : described probe cache ⟨schema, table, l.name⟩ l.typeName = some known :=
      described_of_find? hfind (isSome_of_described hdescribed)
    rw [← hdescribed, hknown]
    refine Cache.find?_store_of_find? (fun entry hentry => ?_) hfind
    obtain ⟨l', -, hmissing⟩ := List.mem_flatMap.1 hentry
    obtain ⟨hnone, hkey, -⟩ := mem_missing_iff.1 hmissing
    rwa [hkey]
  | none =>
    rw [described_of_find?_eq_none hfind] at hdescribed
    have hmem : (⟨schema, table, l.name⟩, column) ∈ addition probe cache schema table listed :=
      List.mem_flatMap.2 ⟨l, hl, mem_missing_iff.2 ⟨hfind, rfl, hdescribed⟩⟩
    obtain ⟨last, hlast, hstored⟩ :
        ∃ last, (_, last) ∈ addition probe cache schema table listed ∧
          (cache.store _).find? _ = some last := Cache.exists_find?_store hmem
    obtain ⟨l', hl', hmissing⟩ := List.mem_flatMap.1 hlast
    obtain ⟨-, hkey, hlast⟩ := mem_missing_iff.1 hmissing
    -- no other column has this name, so the entry found is its own
    have hname : l'.name = l.name := (congrArg ColumnKey.column hkey).symm
    have heq : l' = l := List.inj_on_of_nodup_map hdistinct hl' hl hname
    rw [heq, hdescribed] at hlast
    rw [hstored, hlast]

theorem described_again (probe : Probe) (cache : Cache) (schema table : String) :
    let stored := cache.store (addition probe cache schema table listed)
    described probe stored ⟨schema, table, l.name⟩ l.typeName =
        described probe cache ⟨schema, table, l.name⟩ l.typeName ∧
      missing probe stored ⟨schema, table, l.name⟩ l.typeName = [] ∧
      questions probe stored ⟨schema, table, l.name⟩ l.typeName = [] := by
  intro stored
  cases hnative : Geometry.Kind.ofNative? l.typeName with
  | none =>
    rw [described_of_not_spatial hnative, described_of_not_spatial hnative]
    exact ⟨rfl, missing_of_not_spatial hnative, questions_of_not_spatial hnative⟩
  | some declared =>
    have hspatial := Option.isSome_of_eq_some hnative
    obtain ⟨column, hdescribed⟩ : ∃ column,
        described probe cache ⟨schema, table, l.name⟩ l.typeName = some column :=
      Option.isSome_iff_exists.1 (by rw [described, Option.isSome_map, hspatial])
    have hfind := find?_store_addition hdistinct hl hdescribed
    rw [hdescribed]
    exact ⟨described_of_find? hfind hspatial, missing_of_find? hfind, questions_of_find? hfind⟩

end

/-- While the catalog answers as a function of the call and the columns of a table have distinct
names, the table is described as its columns are one after another: with the same descriptions in
the order of the listing, the same entries in the cache and, behind the listing, the same calls.
Once more it is described alike, from the cache alone. -/
theorem geometryColumns_eq_describeEach (r : Resolver) (probe : Probe) (settings : Settings)
    (schema : Option String) (table : String) (listed : List ColumnListing)
    (hlisted : probe.columns (settings.schemaOr schema) table "%" = .ok listed)
    (hdistinct : (listed.map ColumnListing.name).Nodup) :
    let atOnce := r.geometryColumns probe settings schema table
    let each := r.describeEach probe settings schema table listed
    let again := atOnce.value.2.geometryColumns probe settings schema table
    (atOnce.value.1 = each.value.1 ∧
      atOnce.value.2.cache.entries = each.value.2.cache.entries ∧
      atOnce.calls = .columns (settings.schemaOr schema) table "%" :: each.calls) ∧
    again.value = atOnce.value ∧
    again.calls = [.columns (settings.schemaOr schema) table "%"] := by
  intro atOnce each again
  have hlisting : listing probe (settings.schemaOr schema) table = listed := by
    rw [listing, hlisted]
  have hvalue : atOnce.value =
      (listed.filterMap fun l =>
          described probe r.cache ⟨settings.schemaOr schema, table, l.name⟩ l.typeName,
        r.store (addition probe r.cache (settings.schemaOr schema) table listed)) := by
    simp only [atOnce, Resolver.value_geometryColumns, hlisting, addition]
  obtain ⟨hcolumns, hentries, hcalls⟩ :=
    describeEach_eq r probe r.cache settings schema table hdistinct fun _ _ => rfl
  have hagain (l : ColumnListing) (hl : l ∈ listed) :=
    described_again hdistinct hl probe r.cache (settings.schemaOr schema) table
  refine ⟨⟨?_, ?_, ?_⟩, ?_, ?_⟩
  · simp only [hvalue, each, hcolumns]
  · simp only [hvalue, each, hentries, Resolver.store]
  · simp only [atOnce, each, Resolver.calls_geometryColumns, hlisting, hcalls]
  · have hsame := List.filterMap_congr fun l hl => (hagain l hl).1
    have hnothing := List.flatMap_eq_nil_iff.2 fun l hl => (hagain l hl).2.1
    simp only [again, Resolver.value_geometryColumns, hlisting, hvalue, Resolver.store, hsame,
      hnothing]
    rfl
  · have hnothing := List.flatMap_eq_nil_iff.2 fun l hl => (hagain l hl).2.2
    simp only [again, Resolver.calls_geometryColumns, hlisting, hvalue, Resolver.store, hnothing]

/-! ## A sample -/

def landCatalog : Memory :=
  (Memory.empty.addTable ⟨"GIS", "LAND", [("ID", "BIGINT"), ("AREA", "ST_POLYGON"),
    ("ROUTE", " st_geometry "), ("NAME", "NVARCHAR"), ("CURVE", "ST_CIRCULARSTRING")]⟩).register
      ⟨"GIS", "LAND", "ROUTE"⟩ ⟨"ST_LINESTRING", 1000003857⟩

def landListing : List ColumnListing :=
  [.of "GIS" "LAND" "ID" "BIGINT", .of "GIS" "LAND" "AREA" "ST_POLYGON",
    .of "GIS" "LAND" "ROUTE" " st_geometry ", .of "GIS" "LAND" "NAME" "NVARCHAR",
    .of "GIS" "LAND" "CURVE" "ST_CIRCULARSTRING"]

/-- A resolver that already knows one of the columns, and not as the catalog would tell it. -/
def landResolver : Resolver :=
  Resolver.empty.store [(⟨"GIS", "LAND", "AREA"⟩, ⟨"AREA", .multiPolygon, 31466, "ST_GEOMETRY"⟩)]

theorem geometryColumns_eq_describeEach_land :
    landCatalog.probe.columns (Memory.sampleSettings.schemaOr none) "LAND" "%" = .ok landListing ∧
      (landListing.map ColumnListing.name).Nodup ∧
      (landResolver.geometryColumns landCatalog.probe Memory.sampleSettings none "LAND").value.1 =
        [⟨"AREA", .multiPolygon, 31466, "ST_GEOMETRY"⟩,
          ⟨"ROUTE", .lineString, 3857, " st_geometry "⟩,
          ⟨"CURVE", .generic, 4326, "ST_CIRCULARSTRING"⟩] ∧
      (landResolver.geometryColumns landCatalog.probe Memory.sampleSettings none "LAND").value.1 =
        (landResolver.describeEach landCatalog.probe Memory.sampleSettings none "LAND"
          landListing).value.1 := by
  have hlisted : landCatalog.probe.columns (Memory.sampleSettings.schemaOr none) "LAND" "%" =
      .ok landListing := by cbv
  have hdistinct : (landListing.map ColumnListing.name).Nodup := by decide
  refine ⟨hlisted, hdistinct, by decide +kernel, ?_⟩
  exact (geometryColumns_eq_describeEach landResolver landCatalog.probe Memory.sampleSettings none
    "LAND" landListing hlisted hdistinct).1.1

end SpatialSql.Metadata
