import SpatialSql.Dialect
import SpatialSql.Proofs.Metadata.Description
/-!
# The schema that is asked about

A schema may be given with a question about a table, and where none is given the settings have one.
Whatever a resolver then looks up in its cache and asks of the catalog is about that schema alone.
-/

namespace SpatialSql.Metadata

open Catalog (Asked Call ColumnKey Probe)

inductive IsAbout (schema : String) : Call → Prop
  | listing (table pattern : String) : IsAbout schema (.columns schema table pattern)
  | field (field table column : String) :
    IsAbout schema (.query (fieldStatement field ⟨schema, table, column⟩))
  | extent (table column : String) :
    IsAbout schema (.query (extentStatement ⟨schema, table, column⟩))

variable {probe : Probe} {key : ColumnKey} {call : Call}

theorem isAbout_kindStatement (key : ColumnKey) : IsAbout key.schema (.query (kindStatement key)) :=
  .field "DATA_TYPE_NAME" key.table key.column

theorem isAbout_sridStatement (key : ColumnKey) : IsAbout key.schema (.query (sridStatement key)) :=
  .field "SRS_ID" key.table key.column

/-- Only of a generic column the catalog is asked for the kind. -/
theorem isAbout_refine {declared : Geometry.Kind} (h : call ∈ (refine probe key declared).calls) :
    IsAbout key.schema call := by
  cases declared with
  | generic =>
    have hcall : call ∈ [Call.query (kindStatement key)] := h
    rw [List.mem_singleton.1 hcall]
    exact isAbout_kindStatement key
  | _ => cases h

theorem isAbout_probeColumn {nativeName : String} {declared : Geometry.Kind}
    (h : call ∈ (probeColumn probe key nativeName declared).calls) : IsAbout key.schema call := by
  simp only [probeColumn, Asked.calls_bind, Asked.calls_pure, List.append_nil,
    List.mem_append] at h
  obtain hkind | hsrid := h
  · exact isAbout_refine hkind
  · have hcall : call ∈ [Call.query (sridStatement key)] := hsrid
    rw [List.mem_singleton.1 hcall]
    exact isAbout_sridStatement key

theorem isAbout_questions {cache : Cache} {nativeName : String}
    (h : call ∈ questions probe cache key nativeName) : IsAbout key.schema call := by
  unfold questions at h
  cases hfind : cache.find? key with
  | some known =>
    rw [hfind] at h
    cases h
  | none =>
    rw [hfind] at h
    cases hnative : Geometry.Kind.ofNative? nativeName with
    | none =>
      rw [hnative] at h
      cases h
    | some declared =>
      rw [hnative] at h
      exact isAbout_probeColumn h

theorem isAbout_estimateFrom {schema table : String} {extent : Envelope} {columns : List String}
    (h : call ∈ (estimateFrom probe schema table extent columns).calls) : IsAbout schema call := by
  induction columns generalizing extent with
  | nil => cases h
  | cons column rest ih =>
    simp only [estimateFrom, Asked.calls_bind, List.mem_append] at h
    obtain hfirst | hrest := h
    · have hcall : call ∈ [Call.query (extentStatement ⟨schema, table, column⟩)] := hfirst
      rw [List.mem_singleton.1 hcall]
      exact .extent table column
    · -- a failure asks no more, and otherwise the rest is asked about with some extent
      split at hrest
      · cases hrest
      · exact ih hrest
      · exact ih hrest

structure ResolvesIn (settings : Settings) (given : Option String) (schema : String) : Prop where
  cached : ∀ (r : Resolver) table column,
    r.cached settings given table column = r.cache.find? ⟨schema, table, column⟩
  describe : ∀ (r : Resolver) probe table column nativeName,
    ∀ call ∈ (r.describe probe settings given table column nativeName).calls, IsAbout schema call
  geometryColumns : ∀ (r : Resolver) probe table,
    ∀ call ∈ (r.geometryColumns probe settings given table).calls, IsAbout schema call
  estimate : ∀ probe table columns,
    ∀ call ∈ (estimate probe settings given table columns).calls, IsAbout schema call
  binding : ∀ (d : Dialect) probe table column typeName, d.settings = settings →
    ∀ call ∈ (d.binding probe given table column typeName).calls, IsAbout schema call

theorem resolvesIn_schemaOr (settings : Settings) (given : Option String) :
    ResolvesIn settings given (settings.schemaOr given) where
  cached _ _ _ := rfl
  describe r probe table column nativeName call hcall := by
    rw [Resolver.calls_describe] at hcall
    exact isAbout_questions hcall
  geometryColumns r probe table call hcall := by
    rw [Resolver.calls_geometryColumns] at hcall
    obtain rfl | hlisted := List.mem_cons.1 hcall
    · exact .listing table "%"
    · obtain ⟨l, -, hcall⟩ := List.mem_flatMap.1 hlisted
      exact isAbout_questions hcall
  estimate probe table columns call hcall := by
    unfold Metadata.estimate at hcall
    split at hcall
    · exact isAbout_estimateFrom hcall
    · cases hcall
  binding d probe table column typeName hsettings call hcall := by
    subst hsettings
    unfold Dialect.binding at hcall
    split at hcall
    · cases hcall
    · split at hcall
      · let key : ColumnKey := ⟨d.settings.schemaOr given, table, column⟩
        have hasked : call ∈ (refine probe key .generic).calls := hcall
        exact isAbout_refine hasked
      · cases hcall
      · cases hcall

end SpatialSql.Metadata
