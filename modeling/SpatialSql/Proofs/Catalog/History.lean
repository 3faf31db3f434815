import Mathlib.Data.List.Induction
import SpatialSql.Catalog.Memory
/-!
# The history of a catalog

A catalog in memory is what its changes have made of it.  What it holds of a column is what the
last change of its sort has set, if that came after the last clear.
-/

namespace SpatialSql.Catalog.Memory

/-! ## Changes -/

/-- What may be done to a catalog; statements that it was asked are recorded. -/
inductive Change where
  | addTable (table : Table)
  | register (key : ColumnKey) (registration : Registration)
  | setExtent (key : ColumnKey) (extent : String)
  | setFailing (failing : Bool)
  | record (calls : List Call)
  | clear

def apply (m : Memory) : Change → Memory
  | .addTable table => m.addTable table
  | .register key registration => m.register key registration
  | .setExtent key extent => m.setExtent key extent
  | .setFailing failing => m.setFailing failing
  | .record calls => m.record calls
  | .clear => m.clear

def run (changes : List Change) : Memory := changes.foldl apply empty

theorem run_concat (changes : List Change) (change : Change) :
    run (changes ++ [change]) = (run changes).apply change := by
  rw [run, run, List.foldl_append, List.foldl_cons, List.foldl_nil]

/-! ## The last change of a sort -/

section

variable {changes : List Change} {change : Change} {sets : α → Change} {a : α}

/-- The last change of a sort sets `a`, and came after the last clear. -/
def Stands (changes : List Change) (sets : α → Change) (a : α) : Prop :=
  ∃ before later, changes = before ++ sets a :: later ∧
    ∀ c ∈ later, c ≠ .clear ∧ ∀ b, c ≠ sets b

theorem not_stands_nil : ¬ Stands [] sets a := by
  rintro ⟨before, later, hnil, -⟩
  exact List.append_ne_nil_of_right_ne_nil before (List.cons_ne_nil _ later) hnil.symm

theorem stands_concat_iff :
    Stands (changes ++ [change]) sets a ↔
      change = sets a ∨ (change ≠ .clear ∧ ∀ b, change ≠ sets b) ∧ Stands changes sets a := by
  constructor
  · rintro ⟨before, later, heq, hlater⟩
    obtain rfl | ⟨later, last, rfl⟩ := List.eq_nil_or_concat later
    · obtain ⟨-, hchange⟩ := List.append_inj' heq rfl
      exact .inl (List.singleton_inj.1 hchange)
    · rw [List.concat_eq_append] at heq hlater
      rw [← List.cons_append, ← List.append_assoc] at heq
      obtain ⟨hchanges, hchange⟩ := List.append_inj' heq rfl
      rw [List.singleton_inj.1 hchange]
      rw [List.forall_mem_append, List.forall_mem_singleton] at hlater
      exact .inr ⟨hlater.2, before, later, hchanges, hlater.1⟩
  · rintro (rfl | ⟨hother, before, later, rfl, hlater⟩)
    · exact ⟨changes, [], rfl, nofun⟩
    · refine ⟨before, later ++ [change], by simp, ?_⟩
      exact List.forall_mem_append.2 ⟨hlater, List.forall_mem_singleton.2 hother⟩

/-- What is found in a catalog is set by the changes of one sort and lost in a clear. -/
structure SetBy (found : Memory → Option α) (sets : α → Change) : Prop where
  empty : found Memory.empty = none
  clear : ∀ m : Memory, found (m.apply .clear) = none
  set : ∀ (m : Memory) a, found (m.apply (sets a)) = some a
  other : ∀ (m : Memory) c, c ≠ .clear → (∀ a, c ≠ sets a) → found (m.apply c) = found m

theorem SetBy.apply_eq_some_iff {found : Memory → Option α} (h : SetBy found sets) (m : Memory) :
    found (m.apply change) = some a ↔
      change = sets a ∨ (change ≠ .clear ∧ ∀ b, change ≠ sets b) ∧ found m = some a := by
  by_cases hset : ∃ b, change = sets b
  · obtain ⟨b, rfl⟩ := hset
    rw [h.set, Option.some_inj]
    constructor
    · rintro rfl
      exact .inl rfl
    · rintro (hsame | ⟨⟨-, hother⟩, -⟩)
      · have hfound := h.set m b
        rw [hsame, h.set, Option.some_inj] at hfound
        exact hfound.symm
      · exact absurd rfl (hother b)
  · have hother : ∀ b, change ≠ sets b := fun b hb => hset ⟨b, hb⟩
    by_cases hclear : change = .clear
    · rw [hclear, h.clear]
      refine ⟨nofun, ?_⟩
      rintro (hsame | ⟨⟨hne, -⟩, -⟩)
      · exact absurd (hclear.trans hsame) (hother a)
      · exact absurd rfl hne
    · rw [h.other m change hclear hother]
      exact ⟨fun hfound => .inr ⟨⟨hclear, hother⟩, hfound⟩,
        fun hcases => hcases.elim (fun hsame => absurd hsame (hother a)) And.right⟩

theorem SetBy.run_eq_some_iff {found : Memory → Option α} (h : SetBy found sets) :
    found (run changes) = some a ↔ Stands changes sets a := by
  induction changes using List.reverseRecOn with
  | nil =>
    rw [show run [] = Memory.empty from rfl, h.empty]
    exact ⟨nofun, fun hstands => absurd hstands not_stands_nil⟩
  | append_singleton changes change ih =>
    rw [run_concat, h.apply_eq_some_iff, stands_concat_iff, ih]

theorem SetBy.run_eq_none_iff {found : Memory → Option α} (h : SetBy found sets) :
    found (run changes) = none ↔ ∀ a, ¬ Stands changes sets a := by
  rw [Option.eq_none_iff_forall_ne_some]
  exact forall_congr' fun a => not_congr h.run_eq_some_iff

end

/-! ## What is held of a column -/

theorem setBy_register (key : ColumnKey) :
    SetBy (fun m => m.registrations.lookup key) (Change.register key) where
  empty := rfl
  clear _ := rfl
  set m r := by simp [apply, register]
  other m c hclear hother := by
    cases c with
    | clear => exact absurd rfl hclear
    | register other r =>
      have hne : other ≠ key := by
        rintro rfl
        exact hother r rfl
      show ((other, r) :: m.registrations).lookup key = m.registrations.lookup key
      rw [List.lookup_cons, beq_false_of_ne (Ne.symm hne)]
    | _ => rfl

theorem setBy_setExtent (key : ColumnKey) :
    SetBy (fun m => m.extents.lookup key) (Change.setExtent key) where
  empty := rfl
  clear _ := rfl
  set m extent := by simp [apply, setExtent]
  other m c hclear hother := by
    cases c with
    | clear => exact absurd rfl hclear
    | setExtent other extent =>
      have hne : other ≠ key := by
        rintro rfl
        exact hother extent rfl
      show ((other, extent) :: m.extents).lookup key = m.extents.lookup key
      rw [List.lookup_cons, beq_false_of_ne (Ne.symm hne)]
    | _ => rfl

end SpatialSql.Catalog.Memory
