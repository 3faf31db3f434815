import Mathlib.Control.Monad.Basic
import Mathlib.Logic.ExistsUnique
import SpatialSql.Proofs.Metadata.Schema
import SpatialSql.Proofs.Settings.Session
/-!
# Shared settings

Whatever was constructed, copied and changed before, the handles that come from one construction
hold the same settings, and these name a schema.  A change that is accepted reaches the handles that
come from the same construction and no others, and a step that is refused changes nothing.  So
no resolver ever looks for a blank schema.
-/

namespace SpatialSql.Settings.Session

open Metadata (ResolvesIn resolvesIn_schemaOr)

variable {session next : Session} {steps : List Step} {step : Step} {handle other : Nat}
  {c : Change} {fault : Fault} {result : Except Fault Unit}

/-! ## New handles -/

theorem Performs.get?_eq (h : session.Performs step result next) (hsound : session.IsSound)
    (hhas : session.Has handle) (hstep : ∀ handle c, step ≠ .change handle c) :
    next.get? handle = session.get? handle := by
  have hkept := h.cell_eq hhas
  cases h with
  | @opens construction settings h =>
    obtain ⟨cell, hcell, hlt⟩ := hsound.exists_cell hhas
    rw [get?, get?, hkept, hcell]
    exact List.getElem?_append_left hlt
  | copies h => rw [get?, get?, hkept]
  | changes _ _ _ => exact absurd rfl (hstep _ _)
  | _ => rfl

/-- What a session does when it gets a handle: those that there were hold what they held, and the
new one holds what was constructed, or what the copied one holds. -/
structure IsExtensible (session : Session) : Prop where
  kept : ∀ step, (∀ handle c, step ≠ .change handle c) → ∀ handle, session.Has handle →
    (session.after step).get? handle = session.get? handle
  constructed : ∀ construction s, construction.settings = .ok s →
    (session.after (.construct construction)).get? session.count = some s
  copied : ∀ handle, session.Has handle →
    (session.after (.copy handle)).get? session.count = session.get? handle

theorem IsSound.isExtensible (hsound : session.IsSound) : session.IsExtensible where
  kept step hstep handle hhas := (performs_after session step).get?_eq hsound hhas hstep
  constructed construction s hsettings := by
    have hopens : Opens session.count session (.construct construction) :=
      ⟨rfl, construction, s, rfl, hsettings⟩
    refine get?_eq_some_iff.2 ⟨session.cells.length, hopens.cell_eq, ?_⟩
    simp only [after, perform, hsettings]
    exact List.getElem?_concat_length
  copied handle hhas := by
    have hcopies : Copies handle session.count session (.copy handle) := ⟨rfl, hhas, rfl⟩
    have hcopy : ∀ other c, Step.copy handle ≠ .change other c := by
      intro other c h
      cases h
    calc (session.after (.copy handle)).get? session.count
      _ = (session.after (.copy handle)).get? handle := by rw [get?, get?, hcopies.cell_eq]
      _ = session.get? handle := (performs_after session _).get?_eq hsound hhas hcopy

/-! ## Accepted changes -/

theorem get?_set {cell : Nat} (hcell : cell < session.cells.length) (s : Settings) (other : Nat) :
    get? { session with cells := session.cells.set cell s } other =
      if session.handles[other]? = some cell then some s else session.get? other := by
  simp only [get?]
  cases hother : session.handles[other]? with
  | none => rfl
  | some cell' =>
    show (session.cells.set cell s)[cell']? = _
    by_cases h : cell' = cell
    · rw [h, List.getElem?_set_self hcell, if_pos rfl]
    · rw [List.getElem?_set_ne (Ne.symm h), if_neg (fun heq => h (Option.some_inj.1 heq))]
      rfl

/-- What a change through a handle does to the handles there are: those that come from the same
construction hold the changed settings, and the others what they held. -/
structure Reaches (steps : List Step) (handle : Nat) (c : Change) (session next : Session) :
    Prop where
  count : next.count = session.count
  kin : ∀ other, AreKin steps handle other → ∃ before after,
    session.get? other = some before ∧ next.get? other = some after ∧ Sets c before after
  others : ∀ other, ¬ AreKin steps handle other → next.get? other = session.get? other

theorem perform_change_of_isBlank (hsound : session.IsSound) (hhas : session.Has handle)
    (hblank : c.IsBlank) : session.perform (.change handle c) = (.error .blankSchema, session) := by
  obtain ⟨s, hget, -⟩ := hsound.exists_get? hhas
  obtain ⟨cell, hcell, -⟩ := get?_eq_some_iff.1 hget
  simp only [perform, Session.change, hcell, hget, change_of_isBlank hblank s]

theorem perform_change_of_not_isBlank (hhas : (run steps).Has handle) (hnamed : ¬ c.IsBlank) :
    ∃ next, (run steps).perform (.change handle c) = (.ok (), next) ∧
      Reaches steps handle c (run steps) next := by
  obtain ⟨before, hget, -⟩ := (isSound_run steps).exists_get? hhas
  obtain ⟨cell, hcell, hbefore⟩ := get?_eq_some_iff.1 hget
  have hlt : cell < (run steps).cells.length := (List.getElem?_eq_some_iff.1 hbefore).1
  refine ⟨{ run steps with cells := (run steps).cells.set cell (before.put c) }, ?_, rfl,
    fun other hkin => ⟨before, before.put c, ?_, ?_, sets_put before c⟩, fun other hkin => ?_⟩
  · simp only [perform, Session.change, hcell, hget, change_of_not_isBlank hnamed]
  · rw [← hkin.get?_eq, hget]
  · rw [get?_set hlt, if_pos (hkin.cell_eq.symm.trans hcell)]
  · -- another handle on the same settings would come from the same construction
    rw [get?_set hlt]
    split
    next hsame =>
      have hother : (run steps).Has other := has_iff.2 ⟨cell, hsame⟩
      exact absurd ((areKin_iff hhas hother).2 (hcell.trans hsame.symm)) hkin
    · rfl

/-! ## Refused steps -/

/-- What a step is refused for. -/
inductive IsRefusedFor : Step → Fault → Prop
  | blank {handle : Nat} {c : Change} (h : c.IsBlank) :
    IsRefusedFor (.change handle c) .blankSchema
  | parameters {parameters : List (String × String)} {fault : Fault}
      (h : Refuses parameters fault) :
    IsRefusedFor (.construct (.ofParameters parameters)) fault

theorem Performs.isRefusedFor (h : session.Performs step (.error fault) next) :
    next = session ∧ IsRefusedFor step fault := by
  cases h with
  | declines h =>
    obtain ⟨parameters, rfl, hrefuses⟩ := refuses_of_settings h
    exact ⟨rfl, .parameters hrefuses⟩
  | refuses _ h =>
    obtain ⟨hblank, rfl⟩ := isBlank_of_change h
    exact ⟨rfl, .blank hblank⟩

/-! ## All handles -/

/-- What is true of all handles behind some steps. -/
structure IsShared (steps : List Step) (session : Session) : Prop where
  origin : ∀ handle, session.Has handle → ∃! opened, ComesFrom steps opened handle
  named : ∀ handle, session.Has handle →
    ∃ s, session.get? handle = some s ∧ Text.isBlank s.schema = false
  kin : ∀ handle other, AreKin steps handle other → session.get? handle = session.get? other

theorem isShared_run (steps : List Step) : IsShared steps (run steps) where
  origin handle hhas := by
    obtain ⟨opened, hopened⟩ := exists_comesFrom hhas
    exact ⟨opened, hopened, fun _ hother => hother.unique hopened⟩
  named _ hhas := (isSound_run steps).exists_get? hhas
  kin _ _ hkin := hkin.get?_eq

/-- Blank schemas and bad parameters are refused and nothing else, and what is refused changes
nothing. -/
structure IsGuarded (session : Session) : Prop where
  unchanged : ∀ step fault, (session.perform step).1 = .error fault →
    session.after step = session ∧ IsRefusedFor step fault
  blank : ∀ handle c, session.Has handle → c.IsBlank →
    (session.perform (.change handle c)).1 = .error .blankSchema
  parameters : ∀ parameters, (∃ fault, Refuses parameters fault) →
    ∃ fault, (session.perform (.construct (.ofParameters parameters))).1 = .error fault

theorem IsSound.isGuarded (hsound : session.IsSound) : session.IsGuarded where
  unchanged step fault h := (h ▸ performs_after session step).isRefusedFor
  blank handle c hhas hblank := by
    rw [perform_change_of_isBlank hsound hhas hblank]
  parameters parameters h := by
    obtain ⟨fault, hrefuses⟩ := h
    obtain ⟨fault, herror⟩ := exists_ofParameters_eq_error hrefuses
    refine ⟨fault, ?_⟩
    simp only [perform, Construction.settings, herror]

/-- After any steps every handle comes from one construction, the handles that come from the same
one hold the same settings, and the schema of none is blank.  A change is accepted unless it is to a
blank schema, and then sets that one setting for exactly those handles; a construction or a copy
does nothing to what a handle holds that there was.  A step is refused for a blank schema, for
another database or for a text that is no flag, and then changes nothing.  The schema that a
resolver looks for is the one that is given or else that of the settings, and never blank. -/
theorem handles_share_by_construction (steps : List Step) :
    let session := run steps
    IsShared steps session ∧
    (∀ handle c, session.Has handle → ¬ c.IsBlank →
      (session.perform (.change handle c)).1 = .ok () ∧
        Reaches steps handle c session (session.after (.change handle c))) ∧
    session.IsExtensible ∧ session.IsGuarded ∧
    ∀ handle s, session.get? handle = some s → ∀ given,
      Text.isBlank (s.schemaOr given) = false ∧ ResolvesIn s given (s.schemaOr given) ∧
        s.schemaOr given = (given.filter fun schema => !Text.isBlank schema).getD s.schema := by
  intro session
  have hsound : session.IsSound := isSound_run steps
  refine ⟨isShared_run steps, fun handle c hhas hnamed => ?_, hsound.isExtensible,
    hsound.isGuarded, fun handle s hget given =>
      ⟨?_, resolvesIn_schemaOr s given, schemaOr_eq s given⟩⟩
  · obtain ⟨next, hperform, hreaches⟩ := perform_change_of_not_isBlank hhas hnamed
    rw [after, hperform]
    exact ⟨rfl, hreaches⟩
  · obtain ⟨cell, -, hcell⟩ := get?_eq_some_iff.1 hget
    exact (hsound.named s (List.mem_of_getElem? hcell)).schemaOr given

/-! ## A sample -/

def storeParameters : List (String × String) :=
  [(databaseKey, "Hana"), (schemaKey, " "), (looseBoundingBoxKey, " NO ")]

/-- The default, changed later, and a data store, copied and copied again. -/
def storeSteps : List Step :=
  [.construct .standard, .construct (.ofParameters storeParameters), .copy 1,
    .change 0 (.schema "SALES"), .copy 2, .construct (.built [.schema "GIS", .schema ""])]

theorem comesFrom_storeSteps : ComesFrom storeSteps 1 1 ∧ ComesFrom storeSteps 1 3 := by
  have hopens : Opens 1 (run (storeSteps.take 1)) (.construct (.ofParameters storeParameters)) :=
    ⟨by decide, _, ⟨"public", false, true, false⟩, rfl, by decide +kernel⟩
  have hopened : ComesFrom storeSteps 1 1 :=
    .opened ⟨storeSteps.take 1, _, storeSteps.drop 2, rfl, hopens⟩
  have hfirst : Copies 1 2 (run (storeSteps.take 2)) (.copy 1) :=
    ⟨by decide +kernel, by decide +kernel, rfl⟩
  have hsecond : Copies 2 3 (run (storeSteps.take 4)) (.copy 2) :=
    ⟨by decide +kernel, by decide +kernel, rfl⟩
  have hcopied : ComesFrom storeSteps 1 2 :=
    hopened.copied ⟨storeSteps.take 2, _, storeSteps.drop 3, rfl, hfirst⟩
  exact ⟨hopened, hcopied.copied ⟨storeSteps.take 4, _, storeSteps.drop 5, rfl, hsecond⟩⟩

theorem handles_share_by_construction_store :
    let session := run storeSteps
    let next := session.after (.change 3 (.schema "GIS"))
    (session.Has 3 ∧ ¬ (Change.schema "GIS").IsBlank) ∧
      (∃ before after, session.get? 1 = some before ∧ next.get? 1 = some after ∧
        Sets (.schema "GIS") before after) ∧
      next.get? 0 = session.get? 0 ∧
      (Change.schema "\t").IsBlank ∧ session.after (.change 0 (.schema "\t")) = session ∧
      ∃ s, session.get? 3 = some s ∧ Text.isBlank (s.schemaOr (some "\t")) = false := by
  intro session next
  obtain ⟨hshared, hchanges, -, hrefuses, hresolves⟩ := handles_share_by_construction storeSteps
  have hhas : session.Has 3 := by decide +kernel
  have hnamed : ¬ (Change.schema "GIS").IsBlank := by
    rintro ⟨name, hname, hblank⟩
    cases hname
    revert hblank
    decide
  obtain ⟨-, hreaches⟩ := hchanges 3 _ hhas hnamed
  have hkin : AreKin storeSteps 3 1 := ⟨1, comesFrom_storeSteps.2, comesFrom_storeSteps.1⟩
  have hother : ¬ AreKin storeSteps 3 0 := by
    intro h
    have hsame := hshared.kin 3 0 h
    revert hsame
    decide +kernel
  have hblank : (Change.schema "\t").IsBlank := ⟨"\t", rfl, by decide⟩
  obtain ⟨hunchanged, -⟩ := hrefuses.unchanged _ _ (hrefuses.blank 0 _ (by decide +kernel) hblank)
  obtain ⟨s, hget, -⟩ := hshared.named 3 hhas
  exact ⟨⟨hhas, hnamed⟩, hreaches.kin 1 hkin, hreaches.others 0 hother, hblank, hunchanged, s, hget,
    (hresolves 3 s hget (some "\t")).1⟩

end SpatialSql.Settings.Session
