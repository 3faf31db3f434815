import Mathlib.Data.List.Induction
import SpatialSql.Proofs.Settings.Construction
import SpatialSql.Settings.Session
/-!
# Sessions of handles

Settings are constructed, handles on them are copied, and changes are made through handles, in any
order.  A step opens a handle, copies one, changes what one holds, or leaves all as it is.  A handle
comes from the construction that it was copied from, directly or through copies, and two handles are
on the same settings exactly if they come from the same one.
-/

namespace SpatialSql.Settings.Session

/-! ## Steps -/

inductive Step where
  | construct (construction : Construction)
  | copy (handle : Nat)
  | change (handle : Nat) (change : Change)

/-- What a step answers, and the session behind it.  A construction that is refused opens no
handle. -/
def perform (session : Session) : Step → Except Fault Unit × Session
  | .construct construction =>
    match construction.settings with
    | .ok settings => (.ok (), session.add settings)
    | .error fault => (.error fault, session)
  | .copy handle => (.ok (), session.copy handle)
  | .change handle change => session.change handle change

def after (session : Session) (step : Step) : Session := (session.perform step).2

def run (steps : List Step) : Session := steps.foldl after empty

theorem run_concat (steps : List Step) (step : Step) :
    run (steps ++ [step]) = (run steps).after step := by
  rw [run, run, List.foldl_append, List.foldl_cons, List.foldl_nil]

/-- The handles are numbered from zero; the next one has this number. -/
def count (session : Session) : Nat := session.handles.length

def Has (session : Session) (handle : Nat) : Prop := handle < session.count

instance (session : Session) (handle : Nat) : Decidable (session.Has handle) :=
  inferInstanceAs (Decidable (handle < session.count))

/-- All that a step can do, with what it answers and the session behind it.  A step through a
handle that there is not does nothing. -/
inductive Performs (session : Session) : Step → Except Fault Unit → Session → Prop
  | opens {construction : Construction} {settings : Settings}
      (h : construction.settings = .ok settings) :
    Performs session (.construct construction) (.ok ()) (session.add settings)
  | declines {construction : Construction} {fault : Fault}
      (h : construction.settings = .error fault) :
    Performs session (.construct construction) (.error fault) session
  | copies {handle cell : Nat} (h : session.handles[handle]? = some cell) :
    Performs session (.copy handle) (.ok ())
      { session with handles := session.handles ++ [cell] }
  | copiesNone {handle : Nat} (h : session.handles[handle]? = none) :
    Performs session (.copy handle) (.ok ()) session
  | changes {handle cell : Nat} {c : Change} {before after : Settings}
      (hhandle : session.handles[handle]? = some cell)
      (hbefore : session.cells[cell]? = some before) (h : before.change c = .ok after) :
    Performs session (.change handle c) (.ok ())
      { session with cells := session.cells.set cell after }
  | refuses {handle : Nat} {c : Change} {before : Settings} {fault : Fault}
      (hbefore : session.get? handle = some before) (h : before.change c = .error fault) :
    Performs session (.change handle c) (.error fault) session
  | changesNone {handle : Nat} {c : Change} (h : session.get? handle = none) :
    Performs session (.change handle c) (.ok ()) session

variable {session next : Session} {steps : List Step} {step : Step} {handle other : Nat}
  {result : Except Fault Unit}

theorem get?_eq_some_iff {s : Settings} :
    session.get? handle = some s ↔
      ∃ cell, session.handles[handle]? = some cell ∧ session.cells[cell]? = some s := by
  rw [get?]
  exact Option.bind_eq_some_iff

theorem performs_after (session : Session) (step : Step) :
    session.Performs step (session.perform step).1 (session.after step) := by
  cases step with
  | construct construction =>
    simp only [after, perform]
    split
    next settings h => exact .opens h
    next fault h => exact .declines h
  | copy handle =>
    simp only [after, perform, copy]
    split
    next cell h => exact .copies h
    next h => exact .copiesNone h
  | change handle c =>
    cases hget : session.get? handle with
    | none =>
      have hnone : session.change handle c = (.ok (), session) := by
        unfold Session.change
        rw [hget]
        split
        next heq => cases heq
        · rfl
      rw [after, perform, hnone]
      exact .changesNone hget
    | some before =>
      obtain ⟨cell, hhandle, hbefore⟩ := get?_eq_some_iff.1 hget
      simp only [after, perform, Session.change, hhandle, hget]
      split
      next after h => exact .changes hhandle hbefore h
      next fault h => exact .refuses hget h

theorem has_iff : session.Has handle ↔ ∃ cell, session.handles[handle]? = some cell := by
  constructor
  · exact fun hhas => ⟨session.handles[handle], List.getElem?_eq_getElem hhas⟩
  · rintro ⟨cell, hcell⟩
    exact (List.getElem?_eq_some_iff.1 hcell).1

theorem has_concat_iff {cell : Nat} :
    handle < (session.handles ++ [cell]).length ↔ session.Has handle ∨ handle = session.count := by
  rw [List.length_append, List.length_singleton]
  exact Nat.lt_succ_iff_lt_or_eq

/-! ## What a step keeps -/

theorem Performs.cell_eq (h : session.Performs step result next) (hhas : session.Has handle) :
    next.handles[handle]? = session.handles[handle]? := by
  cases h with
  | opens _ => exact List.getElem?_append_left hhas
  | copies _ => exact List.getElem?_append_left hhas
  | _ => rfl

theorem Performs.has (h : session.Performs step result next) (hhas : session.Has handle) :
    next.Has handle := by
  obtain ⟨cell, hcell⟩ := has_iff.1 hhas
  exact has_iff.2 ⟨cell, (h.cell_eq hhas).trans hcell⟩

/-- Every handle holds settings, and they name a schema. -/
structure IsSound (session : Session) : Prop where
  holds : ∀ cell ∈ session.handles, cell < session.cells.length
  named : ∀ s ∈ session.cells, s.HasSchema

theorem isSound_empty : empty.IsSound := ⟨nofun, nofun⟩

theorem IsSound.performs (hsound : session.IsSound) (h : session.Performs step result next) :
    next.IsSound := by
  cases h with
  | @opens construction settings hsettings =>
    constructor
    · show ∀ cell ∈ session.handles ++ [session.cells.length],
        cell < (session.cells ++ [settings]).length
      rw [List.length_append, List.length_singleton]
      refine List.forall_mem_append.2 ⟨fun cell hcell => ?_, List.forall_mem_singleton.2 ?_⟩
      · exact Nat.lt_succ_of_lt (hsound.holds cell hcell)
      · exact Nat.lt_succ_self _
    · exact List.forall_mem_append.2
        ⟨hsound.named, List.forall_mem_singleton.2 (.constructed hsettings)⟩
  | @copies handle cell hcell =>
    refine ⟨List.forall_mem_append.2 ⟨hsound.holds, List.forall_mem_singleton.2 ?_⟩, hsound.named⟩
    exact hsound.holds cell (List.mem_of_getElem? hcell)
  | @changes handle cell c before after hhandle hbefore hchange =>
    refine ⟨fun other hother => ?_, fun s hs => ?_⟩
    · show other < (session.cells.set cell after).length
      rw [List.length_set]
      exact hsound.holds other hother
    · obtain hkept | rfl := List.mem_or_eq_of_mem_set hs
      · exact hsound.named s hkept
      · obtain ⟨hnamed, hsets⟩ := sets_of_change hchange
        exact (hsound.named before (List.mem_of_getElem? hbefore)).sets hnamed hsets
  | _ => exact hsound

theorem isSound_run (steps : List Step) : (run steps).IsSound := by
  induction steps using List.reverseRecOn with
  | nil => exact isSound_empty
  | append_singleton steps step ih =>
    rw [run_concat]
    exact ih.performs (performs_after _ step)

theorem IsSound.exists_cell (hsound : session.IsSound) (hhas : session.Has handle) :
    ∃ cell, session.handles[handle]? = some cell ∧ cell < session.cells.length := by
  obtain ⟨cell, hcell⟩ := has_iff.1 hhas
  exact ⟨cell, hcell, hsound.holds cell (List.mem_of_getElem? hcell)⟩

theorem IsSound.exists_get? (hsound : session.IsSound) (hhas : session.Has handle) :
    ∃ s, session.get? handle = some s ∧ s.HasSchema := by
  obtain ⟨cell, hcell, hlt⟩ := hsound.exists_cell hhas
  refine ⟨session.cells[cell], ?_, hsound.named _ (List.getElem_mem hlt)⟩
  exact get?_eq_some_iff.2 ⟨cell, hcell, List.getElem?_eq_getElem hlt⟩

/-! ## What has happened -/

/-- Some step has done this. -/
def Happened (steps : List Step) (did : Session → Step → Prop) : Prop :=
  ∃ before step later, steps = before ++ step :: later ∧ did (run before) step

variable {did : Session → Step → Prop}

theorem not_happened_nil : ¬ Happened [] did := by
  rintro ⟨before, step, later, hnil, -⟩
  exact List.append_ne_nil_of_right_ne_nil before (List.cons_ne_nil step later) hnil.symm

theorem happened_concat_iff :
    Happened (steps ++ [step]) did ↔ Happened steps did ∨ did (run steps) step := by
  constructor
  · rintro ⟨before, first, later, heq, hdid⟩
    -- the step is the last one of all if nothing is behind it
    obtain rfl | ⟨later, last, rfl⟩ := List.eq_nil_or_concat later
    · obtain ⟨rfl, hstep⟩ := List.append_inj' heq rfl
      rw [List.singleton_inj.1 hstep]
      exact .inr hdid
    · rw [List.concat_eq_append, ← List.cons_append, ← List.append_assoc] at heq
      obtain ⟨hsteps, -⟩ := List.append_inj' heq rfl
      exact .inl ⟨before, first, later, hsteps, hdid⟩
  · rintro (⟨before, first, later, rfl, hdid⟩ | hdid)
    · exact ⟨before, first, later ++ [step], by simp, hdid⟩
    · exact ⟨steps, step, [], rfl, hdid⟩

theorem Happened.holds (h : Happened steps did) (so : Session → Prop)
    (hdid : ∀ session step, did session step → so (session.after step))
    (hkept : ∀ session step, so session → so (session.after step)) : so (run steps) := by
  induction steps using List.reverseRecOn with
  | nil => exact absurd h not_happened_nil
  | append_singleton steps step ih =>
    rw [run_concat]
    obtain hbefore | hnow := happened_concat_iff.1 h
    · exact hkept _ step (ih hbefore)
    · exact hdid _ step hnow

/-! ## Where a handle comes from -/

def Opens (handle : Nat) (session : Session) (step : Step) : Prop :=
  handle = session.count ∧
    ∃ construction settings, step = .construct construction ∧ construction.settings = .ok settings

def Copies (handle copy : Nat) (session : Session) (step : Step) : Prop :=
  copy = session.count ∧ session.Has handle ∧ step = .copy handle

/-- A handle is the one that a construction has opened, or a copy of one that comes from there. -/
inductive ComesFrom (steps : List Step) (opened : Nat) : Nat → Prop
  | opened (h : Happened steps (Opens opened)) : ComesFrom steps opened opened
  | copied {handle copy : Nat} (hhandle : ComesFrom steps opened handle)
      (h : Happened steps (Copies handle copy)) : ComesFrom steps opened copy

/-- Two handles come from one construction. -/
def AreKin (steps : List Step) (handle other : Nat) : Prop :=
  ∃ opened, ComesFrom steps opened handle ∧ ComesFrom steps opened other

variable {opened copy : Nat}

theorem Opens.cell_eq (h : Opens opened session step) :
    (session.after step).handles[opened]? = some session.cells.length := by
  obtain ⟨rfl, construction, settings, rfl, hsettings⟩ := h
  simp only [after, perform, hsettings]
  exact List.getElem?_concat_length

theorem Copies.cell_eq (h : Copies handle copy session step) :
    (session.after step).handles[copy]? = (session.after step).handles[handle]? := by
  have hkept := (performs_after session step).cell_eq h.2.1
  obtain ⟨rfl, hhas, rfl⟩ := h
  obtain ⟨cell, hcell⟩ := has_iff.1 hhas
  rw [hkept, hcell]
  simp only [after, perform, Session.copy, hcell]
  exact List.getElem?_concat_length

theorem has_of_opens (h : Happened steps (Opens opened)) : (run steps).Has opened :=
  h.holds (fun session => session.Has opened)
    (fun _ _ hopens => has_iff.2 ⟨_, hopens.cell_eq⟩)
    (fun session step hhas => (performs_after session step).has hhas)

theorem cell_eq_of_copies (h : Happened steps (Copies handle copy)) :
    (run steps).Has handle ∧ (run steps).Has copy ∧
      (run steps).handles[copy]? = (run steps).handles[handle]? := by
  apply h.holds fun session => session.Has handle ∧ session.Has copy ∧
    session.handles[copy]? = session.handles[handle]?
  · intro session step hcopies
    have hhandle := (performs_after session step).has hcopies.2.1
    obtain ⟨cell, hcell⟩ := has_iff.1 hhandle
    exact ⟨hhandle, has_iff.2 ⟨cell, hcopies.cell_eq.trans hcell⟩, hcopies.cell_eq⟩
  · rintro session step ⟨hhandle, hcopy, hsame⟩
    have hstep := performs_after session step
    refine ⟨hstep.has hhandle, hstep.has hcopy, ?_⟩
    rw [hstep.cell_eq hhandle, hstep.cell_eq hcopy, hsame]

theorem cell_ne_of_opens (hsound : session.IsSound) (hhas : session.Has handle)
    (h : Opens opened session step) :
    (session.after step).handles[handle]? ≠ (session.after step).handles[opened]? := by
  obtain ⟨cell, hcell, hlt⟩ := hsound.exists_cell hhas
  rw [(performs_after session step).cell_eq hhas, h.cell_eq, hcell, Ne, Option.some_inj]
  exact Nat.ne_of_lt hlt

theorem opened_unique {opened opened' : Nat} (h : Happened steps (Opens opened))
    (h' : Happened steps (Opens opened'))
    (hsame : (run steps).handles[opened]? = (run steps).handles[opened']?) : opened = opened' := by
  induction steps using List.reverseRecOn with
  | nil => exact absurd h not_happened_nil
  | append_singleton steps step ih =>
    have hsound := isSound_run steps
    rw [run_concat] at hsame
    -- of two handles that were opened before, the last step changes nothing; a handle that it
    -- opens is on settings of its own; and it opens no more than one
    obtain hbefore | hnow := happened_concat_iff.1 h
    · have hhas := has_of_opens hbefore
      obtain hbefore' | hnow' := happened_concat_iff.1 h'
      · have hstep := performs_after (run steps) step
        rw [hstep.cell_eq hhas, hstep.cell_eq (has_of_opens hbefore')] at hsame
        exact ih hbefore hbefore' hsame
      · exact absurd hsame (cell_ne_of_opens hsound hhas hnow')
    · obtain hbefore' | hnow' := happened_concat_iff.1 h'
      · exact absurd hsame.symm (cell_ne_of_opens hsound (has_of_opens hbefore') hnow)
      · exact hnow.1.trans hnow'.1.symm

theorem ComesFrom.concat (h : ComesFrom steps opened handle) (step : Step) :
    ComesFrom (steps ++ [step]) opened handle := by
  induction h with
  | opened h => exact .opened (happened_concat_iff.2 (.inl h))
  | copied _ h ih => exact .copied ih (happened_concat_iff.2 (.inl h))

theorem ComesFrom.happened (h : ComesFrom steps opened handle) : Happened steps (Opens opened) := by
  induction h with
  | opened h => exact h
  | copied _ _ ih => exact ih

theorem ComesFrom.cell_eq (h : ComesFrom steps opened handle) :
    (run steps).Has handle ∧ (run steps).handles[handle]? = (run steps).handles[opened]? := by
  induction h with
  | opened h => exact ⟨has_of_opens h, rfl⟩
  | copied _ h ih =>
    obtain ⟨-, hcopy, hsame⟩ := cell_eq_of_copies h
    exact ⟨hcopy, hsame.trans ih.2⟩

theorem exists_comesFrom_of_performs (h : (run steps).Performs step result next)
    (hnew : ¬ (run steps).Has handle) (hhas : next.Has handle)
    (ih : ∀ handle, (run steps).Has handle → ∃ opened, ComesFrom steps opened handle) :
    ∃ opened, ComesFrom (steps ++ [step]) opened handle := by
  cases h with
  | @opens construction settings hsettings =>
    have hlast := (has_concat_iff.1 hhas).resolve_left hnew
    have hopens : Opens handle (run steps) (.construct construction) :=
      ⟨hlast, construction, settings, rfl, hsettings⟩
    exact ⟨handle, .opened (happened_concat_iff.2 (.inr hopens))⟩
  | @copies source cell hcell =>
    have hlast := (has_concat_iff.1 hhas).resolve_left hnew
    have hsource : (run steps).Has source := has_iff.2 ⟨cell, hcell⟩
    have hcopies : Copies source handle (run steps) (.copy source) := ⟨hlast, hsource, rfl⟩
    obtain ⟨opened, hopened⟩ := ih source hsource
    exact ⟨opened, (hopened.concat _).copied (happened_concat_iff.2 (.inr hcopies))⟩
  | _ => exact absurd hhas hnew

theorem exists_comesFrom (hhas : (run steps).Has handle) :
    ∃ opened, ComesFrom steps opened handle := by
  induction steps using List.reverseRecOn generalizing handle with
  | nil => exact absurd hhas (Nat.not_lt_zero handle)
  | append_singleton steps step ih =>
    rw [run_concat] at hhas
    by_cases hold : (run steps).Has handle
    · obtain ⟨opened, hopened⟩ := ih hold
      exact ⟨opened, hopened.concat step⟩
    · exact exists_comesFrom_of_performs (performs_after _ step) hold hhas fun _ => ih

theorem ComesFrom.unique {opened opened' : Nat} (h : ComesFrom steps opened handle)
    (h' : ComesFrom steps opened' handle) : opened = opened' :=
  opened_unique h.happened h'.happened (h.cell_eq.2.symm.trans h'.cell_eq.2)

theorem AreKin.cell_eq (h : AreKin steps handle other) :
    (run steps).handles[handle]? = (run steps).handles[other]? := by
  obtain ⟨opened, hhandle, hother⟩ := h
  exact hhandle.cell_eq.2.trans hother.cell_eq.2.symm

theorem AreKin.get?_eq (h : AreKin steps handle other) :
    (run steps).get? handle = (run steps).get? other := by
  rw [get?, get?, h.cell_eq]

theorem areKin_iff (hhas : (run steps).Has handle) (hother : (run steps).Has other) :
    AreKin steps handle other ↔
      (run steps).handles[handle]? = (run steps).handles[other]? := by
  constructor
  · exact AreKin.cell_eq
  · intro hsame
    obtain ⟨opened, hopened⟩ := exists_comesFrom hhas
    obtain ⟨opened', hopened'⟩ := exists_comesFrom hother
    have heq : opened = opened' := by
      apply opened_unique hopened.happened hopened'.happened
      rw [← hopened.cell_eq.2, ← hopened'.cell_eq.2, hsame]
    exact ⟨opened, hopened, heq ▸ hopened'⟩

end SpatialSql.Settings.Session
