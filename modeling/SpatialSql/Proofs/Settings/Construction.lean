import SpatialSql.Proofs.Outcome
import SpatialSql.Settings.Basic
/-!
# Putting settings together

Settings come to be as the default, from the parameters of a data store or step by step from the
default.  Parameters are refused for another database and for a text where a flag is expected, a
change for a blank schema alone.  A blank schema is never set: where settings are put together it is
passed over.
-/

namespace SpatialSql.Settings

variable {s before after : Settings} {c : Change} {fault : Fault}

/-! ## Single settings -/

inductive Setting where
  | schema
  | looseBoundingBox
  | estimatedExtents
  | simplify
  deriving DecidableEq

def Change.setting : Change → Setting
  | .schema _ => .schema
  | .looseBoundingBox _ => .looseBoundingBox
  | .estimatedExtents _ => .estimatedExtents
  | .simplify _ => .simplify

/-- What a setting is, as the change that makes it so. -/
def held (s : Settings) : Setting → Change
  | .schema => .schema s.schema
  | .looseBoundingBox => .looseBoundingBox s.looseBoundingBox
  | .estimatedExtents => .estimatedExtents s.estimatedExtents
  | .simplify => .simplify s.simplify

/-- One setting has become what a change says, and the others are as they were. -/
structure Sets (c : Change) (before after : Settings) : Prop where
  changed : after.held c.setting = c
  kept : ∀ other, other ≠ c.setting → after.held other = before.held other

def put (s : Settings) : Change → Settings
  | .schema name => { s with schema := name }
  | .looseBoundingBox enabled => { s with looseBoundingBox := enabled }
  | .estimatedExtents enabled => { s with estimatedExtents := enabled }
  | .simplify enabled => { s with simplify := enabled }

theorem held_put (s : Settings) (c : Change) (setting : Setting) :
    (s.put c).held setting = if setting = c.setting then c else s.held setting := by
  cases c <;> cases setting <;> rfl

theorem sets_put (s : Settings) (c : Change) : Sets c s (s.put c) where
  changed := by rw [held_put, if_pos rfl]
  kept other hother := by rw [held_put, if_neg hother]

def Change.IsBlank (c : Change) : Prop := ∃ name, c = .schema name ∧ Text.isBlank name = true

theorem change_of_isBlank (h : c.IsBlank) (s : Settings) : s.change c = .error .blankSchema := by
  obtain ⟨name, rfl, hblank⟩ := h
  exact if_pos hblank

theorem change_of_not_isBlank (h : ¬ c.IsBlank) (s : Settings) : s.change c = .ok (s.put c) := by
  cases c with
  | schema name => exact if_neg fun hblank => h ⟨name, rfl, hblank⟩
  | _ => rfl

theorem sets_of_change (h : before.change c = .ok after) : ¬ c.IsBlank ∧ Sets c before after := by
  by_cases hblank : c.IsBlank
  · rw [change_of_isBlank hblank] at h
    cases h
  · rw [change_of_not_isBlank hblank] at h
    cases h
    exact ⟨hblank, sets_put before c⟩

theorem isBlank_of_change (h : s.change c = .error fault) : c.IsBlank ∧ fault = .blankSchema := by
  by_cases hblank : c.IsBlank
  · rw [change_of_isBlank hblank] at h
    cases h
    exact ⟨hblank, rfl⟩
  · rw [change_of_not_isBlank hblank] at h
    cases h

/-! ## Schemas -/

def HasSchema (s : Settings) : Prop := Text.isBlank s.schema = false

theorem hasSchema_default : default.HasSchema := by
  unfold HasSchema
  decide

theorem HasSchema.withSchema (h : s.HasSchema) (schema : String) :
    (s.withSchema schema).HasSchema := by
  unfold Settings.withSchema
  split
  · exact h
  next hnamed => exact Bool.eq_false_iff.2 hnamed

theorem HasSchema.sets (h : before.HasSchema) (hnamed : ¬ c.IsBlank) (hsets : Sets c before after) :
    after.HasSchema := by
  by_cases hschema : Setting.schema = c.setting
  · have hheld : after.held .schema = c := hschema ▸ hsets.changed
    rw [HasSchema, Bool.eq_false_iff]
    exact fun hblank => hnamed ⟨after.schema, hheld.symm, hblank⟩
  · have hheld : after.held .schema = before.held .schema := hsets.kept .schema hschema
    rw [HasSchema, Change.schema.inj hheld]
    exact h

theorem HasSchema.build (h : s.HasSchema) (step : Change) : (s.build step).HasSchema := by
  unfold Settings.build
  split
  next hchange =>
    obtain ⟨hnamed, hsets⟩ := sets_of_change hchange
    exact h.sets hnamed hsets
  · exact h

theorem HasSchema.foldl_build (h : s.HasSchema) (steps : List Change) :
    (steps.foldl Settings.build s).HasSchema := by
  induction steps generalizing s with
  | nil => exact h
  | cons step rest ih => exact ih (h.build step)

theorem schemaOr_eq (s : Settings) (given : Option String) :
    s.schemaOr given = (given.filter fun schema => !Text.isBlank schema).getD s.schema := by
  cases given with
  | none => rfl
  | some schema =>
    rw [Settings.schemaOr, Option.filter_some]
    cases Text.isBlank schema <;> rfl

theorem HasSchema.schemaOr (h : s.HasSchema) (given : Option String) :
    Text.isBlank (s.schemaOr given) = false := by
  rw [schemaOr_eq]
  cases hmeant : given.filter fun schema => !Text.isBlank schema with
  | none => exact h
  | some schema =>
    obtain ⟨-, hnamed⟩ := Option.filter_eq_some_iff.1 hmeant
    exact Bool.not_eq_eq_eq_not.1 hnamed

/-! ## Parameters -/

variable {parameters : List (String × String)}

def flagKeys : List String := [looseBoundingBoxKey, estimatedExtentsKey, simplifyKey]

/-- What parameters are refused for. -/
inductive Refuses (parameters : List (String × String)) : Fault → Prop
  | database {name : String} (hname : parameters.lookup databaseKey = some name)
      (hother : Text.eqFolded name databaseName = false) :
    Refuses parameters (.foreignDatabase name)
  | flag {key text : String} (hkey : key ∈ flagKeys) (htext : parameters.lookup key = some text)
      (hflag : flag? text = none) :
    Refuses parameters (.notAFlag key text)

theorem refuses_of_flagParameter {key : String} (hkey : key ∈ flagKeys) {present : Bool}
    (h : flagParameter parameters key present = .error fault) : Refuses parameters fault := by
  unfold flagParameter at h
  split at h
  · cases h
  next text htext =>
    split at h
    · cases h
    next hflag =>
      cases h
      exact .flag hkey htext hflag

theorem flag?_of_flagParameter {key text : String} {present flag : Bool}
    (h : flagParameter parameters key present = .ok flag)
    (htext : parameters.lookup key = some text) : flag? text = some flag := by
  simp only [flagParameter, htext] at h
  split at h
  next hflag =>
    cases h
    exact hflag
  · cases h

def withFlags (s : Settings) (parameters : List (String × String)) : Except Fault Settings := do
  return { schema := s.schema
           looseBoundingBox := ← flagParameter parameters looseBoundingBoxKey s.looseBoundingBox
           estimatedExtents := ← flagParameter parameters estimatedExtentsKey s.estimatedExtents
           simplify := ← flagParameter parameters simplifyKey s.simplify }

theorem schema_of_withFlags (h : before.withFlags parameters = .ok after) :
    after.schema = before.schema := by
  obtain ⟨loose, -, h⟩ := bind_eq_ok.1 h
  obtain ⟨estimated, -, h⟩ := bind_eq_ok.1 h
  obtain ⟨simplify, -, h⟩ := bind_eq_ok.1 h
  cases h
  rfl

theorem refuses_of_withFlags (h : s.withFlags parameters = .error fault) :
    Refuses parameters fault := by
  unfold withFlags at h
  obtain hloose | ⟨loose, -, h⟩ := bind_eq_error.1 h
  · exact refuses_of_flagParameter (by simp [flagKeys]) hloose
  obtain hestimated | ⟨estimated, -, h⟩ := bind_eq_error.1 h
  · exact refuses_of_flagParameter (by simp [flagKeys]) hestimated
  obtain hsimplify | ⟨simplify, -, h⟩ := bind_eq_error.1 h
  · exact refuses_of_flagParameter (by simp [flagKeys]) hsimplify
  · cases h

theorem isSome_flag?_of_withFlags (h : before.withFlags parameters = .ok after) {key text : String}
    (hkey : key ∈ flagKeys) (htext : parameters.lookup key = some text) :
    (flag? text).isSome = true := by
  obtain ⟨loose, hloose, h⟩ := bind_eq_ok.1 h
  obtain ⟨estimated, hestimated, h⟩ := bind_eq_ok.1 h
  obtain ⟨simplify, hsimplify, -⟩ := bind_eq_ok.1 h
  simp only [flagKeys, List.mem_cons, List.not_mem_nil, or_false] at hkey
  obtain rfl | rfl | rfl := hkey
  · exact Option.isSome_of_eq_some (flag?_of_flagParameter hloose htext)
  · exact Option.isSome_of_eq_some (flag?_of_flagParameter hestimated htext)
  · exact Option.isSome_of_eq_some (flag?_of_flagParameter hsimplify htext)

def ofSchemaParameter (parameters : List (String × String)) : Settings :=
  (parameters.lookup schemaKey).elim default default.withSchema

theorem hasSchema_ofSchemaParameter (parameters : List (String × String)) :
    (ofSchemaParameter parameters).HasSchema := by
  unfold ofSchemaParameter
  cases parameters.lookup schemaKey with
  | none => exact hasSchema_default
  | some schema => exact hasSchema_default.withSchema schema

theorem ofParameters_of_foreign {name : String} (hname : parameters.lookup databaseKey = some name)
    (hother : Text.eqFolded name databaseName = false) :
    ofParameters parameters = .error (.foreignDatabase name) := by
  simp only [ofParameters, hname, hother]
  rfl

theorem ofParameters_of_not_foreign
    (hown : ∀ name, parameters.lookup databaseKey = some name →
      Text.eqFolded name databaseName = true) :
    ofParameters parameters = (ofSchemaParameter parameters).withFlags parameters := by
  cases hname : parameters.lookup databaseKey with
  | none =>
    simp only [ofParameters, hname]
    rfl
  | some name =>
    simp only [ofParameters, hname, hown name hname]
    rfl

theorem foreign_or_not (parameters : List (String × String)) :
    (∃ name, parameters.lookup databaseKey = some name ∧
      Text.eqFolded name databaseName = false) ∨
    ∀ name, parameters.lookup databaseKey = some name → Text.eqFolded name databaseName = true := by
  by_cases hforeign : ∃ name, parameters.lookup databaseKey = some name ∧
      Text.eqFolded name databaseName = false
  · exact .inl hforeign
  · refine .inr fun name hname => ?_
    rw [← Bool.not_eq_false]
    exact fun hother => hforeign ⟨name, hname, hother⟩

theorem refuses_of_ofParameters (h : ofParameters parameters = .error fault) :
    Refuses parameters fault := by
  obtain ⟨name, hname, hother⟩ | hown := foreign_or_not parameters
  · rw [ofParameters_of_foreign hname hother] at h
    cases h
    exact .database hname hother
  · rw [ofParameters_of_not_foreign hown] at h
    exact refuses_of_withFlags h

/-- Parameters with something to refuse are refused, for that or for what is looked at before. -/
theorem exists_ofParameters_eq_error (h : Refuses parameters fault) :
    ∃ fault, ofParameters parameters = .error fault := by
  cases h with
  | database hname hother => exact ⟨_, ofParameters_of_foreign hname hother⟩
  | @flag key text hkey htext hflag =>
    obtain ⟨name, hname, hother⟩ | hown := foreign_or_not parameters
    · exact ⟨_, ofParameters_of_foreign hname hother⟩
    · rw [ofParameters_of_not_foreign hown]
      cases hresult : (ofSchemaParameter parameters).withFlags parameters with
      | error fault => exact ⟨fault, rfl⟩
      | ok s =>
        have hsome := isSome_flag?_of_withFlags hresult hkey htext
        rw [hflag] at hsome
        cases hsome

theorem hasSchema_of_ofParameters (h : ofParameters parameters = .ok s) : s.HasSchema := by
  obtain ⟨name, hname, hother⟩ | hown := foreign_or_not parameters
  · rw [ofParameters_of_foreign hname hother] at h
    cases h
  · rw [ofParameters_of_not_foreign hown] at h
    rw [HasSchema, schema_of_withFlags h]
    exact hasSchema_ofSchemaParameter parameters

/-! ## Constructions -/

inductive Construction where
  | standard
  | ofParameters (parameters : List (String × String))
  | built (steps : List Change)

def Construction.settings : Construction → Except Fault Settings
  | .standard => .ok default
  | .ofParameters parameters => Settings.ofParameters parameters
  | .built steps => .ok (steps.foldl build default)

variable {construction : Construction}

theorem HasSchema.constructed (h : construction.settings = .ok s) : s.HasSchema := by
  cases construction with
  | standard =>
    cases h
    exact hasSchema_default
  | ofParameters parameters => exact hasSchema_of_ofParameters h
  | built steps =>
    cases h
    exact hasSchema_default.foldl_build steps

theorem refuses_of_settings (h : construction.settings = .error fault) :
    ∃ parameters, construction = .ofParameters parameters ∧ Refuses parameters fault := by
  cases construction with
  | standard => cases h
  | ofParameters parameters => exact ⟨parameters, rfl, refuses_of_ofParameters h⟩
  | built steps => cases h

end SpatialSql.Settings
