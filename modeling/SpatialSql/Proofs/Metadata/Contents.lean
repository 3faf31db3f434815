import Mathlib.Data.List.Induction
import SpatialSql.Proofs.Metadata.Transparency
/-!
# What a cache holds

After any operations on a new dialect its cache holds the columns that were described since it was
reset last, each once and under its own name.  It is reset by taking a schema into use that is not
the one taken before.  The schema that is stored may be an earlier one, since a schema that differs
in case alone is not stored; but then it is the same one without regard to case.
-/

namespace SpatialSql.Dialect

open Catalog (Asked ColumnKey Memory Probe)
open Metadata (Resolver)

/-! ## Each column once -/

variable {d : Dialect} {turn : Turn}

theorem nodup_keys_after (h : d.resolver.cache.keys.Nodup) (turn : Turn) :
    (d.after turn).resolver.cache.keys.Nodup := by
  rw [cache_after]
  split
  · exact List.nodup_nil
  · exact Metadata.Cache.nodup_keys_store h _

theorem nodup_keys_run (h : d.resolver.cache.keys.Nodup) (turns : List Turn) :
    (d.run turns).resolver.cache.keys.Nodup := by
  induction turns generalizing d with
  | nil => exact h
  | cons turn rest ih => exact ih (nodup_keys_after h turn)

/-! ## The schema in use -/

def Operation.context? : Operation → Option String
  | .setContext schema => some schema
  | .describe _ _ _ _ | .geometryColumns _ _ | .cached _ _ _ | .srid _ _ _ | .change _ => none

/-- The schemas taken into use during some turns, whether or not they were another one. -/
def contexts (turns : List Turn) : List String :=
  turns.filterMap fun turn => turn.operation.context?

theorem getLast?_contexts_concat (turns : List Turn) (turn : Turn) :
    (contexts (turns ++ [turn])).getLast? =
      turn.operation.context?.or (contexts turns).getLast? := by
  have hturn : contexts [turn] = turn.operation.context?.toList := by
    cases hcontext : turn.operation.context? with
    | none => exact List.filterMap_cons_none hcontext
    | some schema => exact List.filterMap_cons_some hcontext
  rw [contexts, List.filterMap_append, ← contexts, ← contexts, List.getLast?_append, hturn]
  cases turn.operation.context? <;> rfl

theorem context_after (d : Dialect) (turn : Turn) :
    (d.after turn).resolver.context =
      match turn.operation.context? with
      | some schema => if d.resolver.changes schema then some schema else d.resolver.context
      | none => d.resolver.context := by
  obtain ⟨probe, operation⟩ := turn
  cases operation with
  | describe schema table name nativeName =>
    simp only [after, perform, Asked.value_bind, Asked.value_pure, Resolver.value_describe]
    rfl
  | geometryColumns schema table =>
    simp only [after, perform, Asked.value_bind, Asked.value_pure, Resolver.value_geometryColumns]
    rfl
  | setContext schema =>
    simp only [← Resolver.fst_setContext]
    exact d.resolver.context_setContext schema
  | cached _ _ _ | srid _ _ _ | change _ => rfl

theorem answer_setContext (d : Dialect) (probe : Probe) (schema : String) :
    d.answer ⟨probe, .setContext schema⟩ = .context (d.resolver.changes schema) :=
  congrArg Answer.context (d.resolver.fst_setContext schema)

def Follows (d : Dialect) (schemas : List String) : Prop :=
  Option.Rel (fun current last => Text.eqFolded current last = true) d.resolver.context
    schemas.getLast?

theorem Follows.changes_iff {schemas : List String} (h : d.Follows schemas) (schema : String) :
    d.resolver.changes schema = true ↔
      schemas = [] ∨ ∃ last, schemas.getLast? = some last ∧ Text.eqFolded last schema = false := by
  unfold Follows at h
  unfold Resolver.changes
  generalize hlast : schemas.getLast? = last at h ⊢
  generalize d.resolver.context = current at h ⊢
  cases h with
  | none => exact iff_of_true rfl (.inl (List.getLast?_eq_none_iff.1 hlast))
  | @some current last hsame =>
    have hne : schemas ≠ [] := by
      rintro rfl
      cases hlast
    simp only [Text.eqFolded_congr hsame, hne, false_or, Option.some.injEq, exists_eq_left',
      Bool.not_eq_true']

/-- A schema that is no other one than that in use is not stored, but it is the last one taken and
equal to that in use. -/
theorem Follows.after {turns : List Turn} (h : d.Follows (contexts turns)) (turn : Turn) :
    (d.after turn).Follows (contexts (turns ++ [turn])) := by
  rw [Follows, context_after, getLast?_contexts_concat]
  cases turn.operation.context? with
  | none => exact h
  | some schema =>
    rw [Option.some_or]
    show Option.Rel _ (if d.resolver.changes schema then some schema else d.resolver.context) _
    cases hchanges : d.resolver.changes schema with
    | true => exact .some (Text.eqFolded_self schema)
    | false =>
      obtain ⟨current, hcurrent, hsame⟩ := Resolver.changes_eq_false_iff.1 hchanges
      rw [if_neg Bool.false_ne_true, hcurrent]
      exact .some hsame

theorem follows_run (settings : Settings) (turns : List Turn) :
    ((ofSettings settings).run turns).Follows (contexts turns) := by
  induction turns using List.reverseRecOn with
  | nil => exact .none
  | append_singleton turns turn ih =>
    rw [run_append]
    exact ih.after turn

/-- After any operations on a new dialect, whatever the catalog answered and however the settings
changed, its cache holds the columns that were described since it was reset last, each once and
under its own name.  To take a schema into use answers that the cache has been reset if it is the
first one at all, or differs from the last one taken, without regard to case, and only then. -/
theorem cache_holds_what_was_described (settings : Settings) (turns : List Turn) (schema : String) :
    let d := (ofSettings settings).run turns
    (∀ key, (d.resolver.cache.find? key).isSome = true ↔
      (ofSettings settings).ProducedIn turns key) ∧
    (∀ key column, d.resolver.cache.find? key = some column → column.name = key.column) ∧
    (∃ keys : List ColumnKey, keys.Nodup ∧
      (∀ key, key ∈ keys ↔ (ofSettings settings).ProducedIn turns key) ∧
      d.resolver.cache.size = keys.length) ∧
    ∀ probe, ∃ reset, d.answer ⟨probe, .setContext schema⟩ = .context reset ∧
      (reset = true ↔ contexts turns = [] ∨
        ∃ last, (contexts turns).getLast? = some last ∧ Text.eqFolded last schema = false) := by
  intro d
  refine ⟨isSome_find?_run_iff_producedIn settings turns,
    (isNamed_ofSettings settings).run turns, ⟨d.resolver.cache.keys, ?_, fun key => ?_, ?_⟩,
    fun probe => ⟨d.resolver.changes schema, answer_setContext d probe schema,
      (follows_run settings turns).changes_iff schema⟩⟩
  · exact nodup_keys_run (d := ofSettings settings) List.nodup_nil turns
  · rw [Metadata.Cache.mem_keys_iff]
    exact isSome_find?_run_iff_producedIn settings turns key
  · exact d.resolver.cache.size_eq_length_keys

theorem cache_holds_what_was_described_roads :
    let turns := roadOperations.map (Turn.mk Memory.sample.probe)
    (roadDialect.resolver.cache.find? roadKey = some roadColumn ∧
      roadColumn.name = roadKey.column) ∧
    (ofSettings Memory.sampleSettings).ProducedIn turns roadKey ∧
    roadDialect.resolver.cache.size = 2 ∧
    (contexts turns = ["GIS", "gis"] ∧ roadDialect.resolver.context = some "GIS" ∧
      roadDialect.answer ⟨Memory.sample.probe, .setContext "Gis"⟩ = .context false ∧
      roadDialect.answer ⟨Memory.sample.probe, .setContext "SALES"⟩ = .context true) := by
  intro turns
  have hfind : roadDialect.resolver.cache.find? roadKey = some roadColumn := by decide +kernel
  have hstate : roadDialect.resolver.cache.size = 2 ∧ contexts turns = ["GIS", "gis"] ∧
      roadDialect.resolver.context = some "GIS" ∧
      roadDialect.answer ⟨Memory.sample.probe, .setContext "Gis"⟩ = .context false := by
    decide +kernel
  obtain ⟨hkeys, hnames, -, hcontext⟩ :=
    cache_holds_what_was_described Memory.sampleSettings turns "SALES"
  obtain ⟨reset, hanswer, hreset⟩ := hcontext Memory.sample.probe
  have hother : reset = true := by
    refine hreset.2 (.inr ⟨"gis", ?_, by decide +kernel⟩)
    rw [hstate.2.1]
    rfl
  rw [hother] at hanswer
  exact ⟨⟨hfind, hnames roadKey roadColumn hfind⟩,
    (hkeys roadKey).1 (Option.isSome_of_eq_some hfind), hstate.1, hstate.2.1, hstate.2.2.1,
    hstate.2.2.2, hanswer⟩

end SpatialSql.Dialect
