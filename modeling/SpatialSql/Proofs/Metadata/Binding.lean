import SpatialSql.Catalog.Memory
import SpatialSql.Proofs.Metadata.Session
import SpatialSql.Proofs.Text.LetterCase
/-!
# Bindings and descriptions

The values of a column are read into geometries of the kind that the column is described with.  Both
answers tell the kind from the name of the database type, and for a generic column from the same
question to the catalog.  A binding stores nothing.
-/

namespace SpatialSql

/-! ## Names of types -/

theorem Geometry.Kind.ofNative?_lower (typeName : String) :
    ofNative? (Text.lower typeName) = ofNative? typeName := by
  have htrim : String.ofList (Text.trim (Text.lower typeName).toList) =
      Text.lower (String.ofList (Text.trim typeName.toList)) := by
    rw [Text.toList_lower, Text.trim_lower, Text.lower, String.toList_ofList]
  rw [ofNative?, ofNative?, htrim, Text.upper_lower]

theorem Geometry.Kind.ofNative?_of_eqFolded {a b : String} (h : Text.eqFolded a b = true) :
    ofNative? a = ofNative? b := by
  rw [← ofNative?_lower a, Text.eqFolded_iff.1 h, ofNative?_lower]

/-- The kind of a column that can hold what is of some kind; no type is for collections alone. -/
def Geometry.Kind.declared : Kind → Kind
  | .collection => .generic
  | kind => kind

theorem Geometry.Kind.nativeName_eq (kind : Kind) :
    kind.nativeName = "ST_" ++ kind.declared.name := by
  cases kind <;> rfl

theorem Geometry.Kind.ofNative?_nativeName (kind : Kind) :
    ofNative? kind.nativeName = some kind.declared := by
  cases kind <;> decide +kernel

namespace Dialect

open Catalog (Asked ColumnKey ColumnListing Memory Probe)
open Metadata (Cache Resolver described_of_find?_eq_none described_of_not_spatial probeColumn
  questions refine sridStatement)

/-! ## Bindings -/

variable {d : Dialect} {probe : Probe} {schema : Option String} {table name typeName : String}

theorem binding_of_native {declared : Geometry.Kind}
    (hnative : Geometry.Kind.ofNative? typeName = some declared) :
    d.binding probe schema table name typeName = do
      return (some (.geometry (← refine probe (d.keyOf schema table name) declared)), d) := by
  have hother : Text.eqFolded typeName "uuid" = false := by
    rw [Bool.eq_false_iff]
    intro huuid
    have hnone : Geometry.Kind.ofNative? "uuid" = none := by decide +kernel
    rw [Geometry.Kind.ofNative?_of_eqFolded huuid, hnone] at hnative
    cases hnative
  rw [binding, if_neg (Bool.eq_false_iff.1 hother)]
  simp only [hnative]
  cases declared <;> rfl

theorem binding_ne_geometry (hnative : Geometry.Kind.ofNative? typeName = none)
    (kind : Geometry.Kind) :
    (d.binding probe schema table name typeName).value.1 ≠ some (.geometry kind) := by
  rw [binding]
  split
  · nofun
  · simp only [hnative, Asked.value_pure]
    cases scalarTypes.lookup (Text.upper typeName) <;> nofun

/-- A column of the type that a kind is stored as holds that kind, and unless it may hold others as
well, the catalog is not asked. -/
theorem binding_nativeName {kind : Geometry.Kind} (hkind : kind.declared ≠ .generic) :
    d.binding probe schema table name kind.nativeName =
      pure (some (.geometry kind.declared), d) := by
  rw [binding_of_native (Geometry.Kind.ofNative?_nativeName kind)]
  cases hdeclared : kind.declared with
  | generic => exact absurd hdeclared hkind
  | _ => rfl

theorem state_binding (d : Dialect) (probe : Probe) (schema : Option String)
    (table name typeName : String) : (d.binding probe schema table name typeName).value.2 = d := by
  cases hnative : Geometry.Kind.ofNative? typeName with
  | some declared =>
    rw [binding_of_native hnative]
    rfl
  | none =>
    rw [binding]
    split
    · rfl
    · simp only [hnative, Asked.value_pure]

/-! ## Descriptions -/

theorem kind_probeColumn (probe : Probe) (key : ColumnKey) (nativeName : String)
    (declared : Geometry.Kind) :
    (probeColumn probe key nativeName declared).value.kind = (refine probe key declared).value :=
  rfl

/-- A description asks for the kind where a binding does, and then for the reference system. -/
theorem calls_probeColumn (probe : Probe) (key : ColumnKey) (nativeName : String)
    (declared : Geometry.Kind) :
    (probeColumn probe key nativeName declared).calls =
      (refine probe key declared).calls ++ [.query (sridStatement key)] := by
  have hsrid : (Metadata.srid probe key).calls = [.query (sridStatement key)] := rfl
  simp only [probeColumn, Asked.calls_bind, Asked.calls_pure, hsrid, List.append_nil]

/-- A column that is not known is bound to the kind that it would be described with, and if it is
described as no geometry it is bound to none.  A binding asks what a description asks first, and
leaves the state as it is. -/
theorem binding_agrees_with_description (d : Dialect) (probe : Probe) (listed : ColumnListing)
    (hnew : d.resolver.cache.find? (d.keyOf listed.schema listed.table listed.name) = none) :
    let bound := d.binding probe listed.schema listed.table listed.name listed.typeName
    let described := d.resolver.describe probe d.settings listed.schema listed.table listed.name
      listed.typeName
    (∀ kind, bound.value.1 = some (.geometry kind) ↔
      ∃ column, described.value.1 = some column ∧ column.kind = kind) ∧
    bound.value.2 = d ∧
    (∀ column, described.value.1 = some column → described.calls = bound.calls ++
      [.query (sridStatement (d.keyOf listed.schema listed.table listed.name))]) := by
  intro bound described
  have hstate : bound.value.2 = d := state_binding ..
  have hvalue : described.value.1 = Metadata.described probe .empty
      (d.keyOf listed.schema listed.table listed.name) listed.typeName := by
    simp only [described, Resolver.value_describe]
    exact described_of_find?_eq_none hnew
  have hcalls : described.calls = questions probe d.resolver.cache
      (d.keyOf listed.schema listed.table listed.name) listed.typeName := Resolver.calls_describe ..
  cases hnative : Geometry.Kind.ofNative? listed.typeName with
  | none =>
    rw [described_of_not_spatial hnative] at hvalue
    rw [hvalue]
    exact ⟨fun kind => iff_of_false (binding_ne_geometry hnative kind) nofun, hstate, nofun⟩
  | some declared =>
    rw [Metadata.described, hnative, Option.map_some, Cache.find?_empty, Option.getD_none] at hvalue
    refine ⟨fun kind => ?_, hstate, fun column _ => ?_⟩
    · simp only [hvalue, bound, binding_of_native hnative, Asked.value_bind, Asked.value_pure,
        Option.some.injEq, Binding.geometry.injEq, exists_eq_left', kind_probeColumn]
    · rw [hcalls, questions, hnew, hnative]
      simp only [bound, binding_of_native hnative, Asked.calls_bind, Asked.calls_pure,
        List.append_nil, Option.elim_some, calls_probeColumn]

/-- The roads of the sample, in a blank schema and with the name of a type between blanks. -/
def paddedRoads : ColumnListing := ⟨some " ", "ROADS", "SHAPE", " st_Geometry ", 0, true⟩

theorem binding_agrees_with_description_roads :
    let d := ofSettings Memory.sampleSettings
    let key := d.keyOf paddedRoads.schema paddedRoads.table paddedRoads.name
    d.resolver.cache.find? key = none ∧
      (d.binding Memory.sample.probe paddedRoads.schema paddedRoads.table paddedRoads.name
        paddedRoads.typeName).value = (some (.geometry .lineString), d) ∧
      ∃ column, (d.resolver.describe Memory.sample.probe d.settings paddedRoads.schema
        paddedRoads.table paddedRoads.name paddedRoads.typeName).value.1 = some column ∧
          column.kind = .lineString := by
  intro d key
  have hbound : (d.binding Memory.sample.probe paddedRoads.schema paddedRoads.table
      paddedRoads.name paddedRoads.typeName).value.1 = some (.geometry .lineString) := by
    decide +kernel
  obtain ⟨hkind, hstate, -⟩ :=
    binding_agrees_with_description d Memory.sample.probe paddedRoads rfl
  exact ⟨rfl, Prod.ext hbound hstate, (hkind .lineString).1 hbound⟩

end Dialect

end SpatialSql
