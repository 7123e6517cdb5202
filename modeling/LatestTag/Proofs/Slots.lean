import Mathlib.Data.List.Induction

/-!
# What a slot holds after a run

A slot is a place in the state of a system that holds a value or nothing. A step may fill it with a
value, and it may void the value that is there. For each single step this is an equivalence
(`Slot.held?_next`); over a whole run it says what the history alone decides:

> `held?_run_iff`: a slot that was empty at first holds a value exactly if a step filled it with
> that value and no later step voided it.

What a step does may depend on the state in which it is taken, so all of this is said of a step and
the state before it.
-/

namespace LatestTag

/-- Where a list with a last element is split, that is the split off element or comes behind it. -/
theorem split_append_singleton {α : Type} {before after init : List α} {x last : α}
    (h : init ++ [last] = before ++ x :: after) :
    before = init ∧ x = last ∧ after = [] ∨
      ∃ rest, after = rest ++ [last] ∧ init = before ++ x :: rest := by
  rcases List.eq_nil_or_concat after with rfl | ⟨rest, final, rfl⟩
  · obtain ⟨hinit, hlast⟩ := List.append_inj' h rfl
    exact Or.inl ⟨hinit.symm, (List.singleton_inj.1 hlast).symm, rfl⟩
  · rw [List.concat_eq_append] at h ⊢
    rw [← List.cons_append, ← List.append_assoc] at h
    obtain ⟨hinit, hlast⟩ := List.append_inj' h rfl
    obtain rfl := List.singleton_inj.1 hlast
    exact Or.inr ⟨rest, rfl, hinit⟩

/-- In the run there is a step that is of the kind, in the state in which it is taken. -/
def Happens {State Step : Type} (next : State → Step → State) (start : State) (steps : List Step)
    (kind : State → Step → Prop) : Prop :=
  ∃ before step after, steps = before ++ step :: after ∧ kind (before.foldl next start) step

section Happens

variable {State Step : Type} {next : State → Step → State} {start : State} {steps : List Step}
  {step : Step} {kind : State → Step → Prop}

theorem not_happens_nil : ¬ Happens next start [] kind := by
  rintro ⟨before, step, after, hnil, -⟩
  exact absurd hnil (by simp)

/-- What happens in a run happens at its first step or in the rest of it. -/
theorem happens_cons : Happens next start (step :: steps) kind ↔
    kind start step ∨ Happens next (next start step) steps kind := by
  constructor
  · rintro ⟨before, later, after, hsteps, hkind⟩
    rcases List.cons_eq_append_iff.1 hsteps with ⟨rfl, heq⟩ | ⟨rest, rfl, rfl⟩
    · obtain ⟨rfl, rfl⟩ := List.cons.inj heq
      exact Or.inl hkind
    · exact Or.inr ⟨rest, later, after, rfl, hkind⟩
  · rintro (hkind | ⟨before, later, after, rfl, hkind⟩)
    · exact ⟨[], step, steps, rfl, hkind⟩
    · exact ⟨step :: before, later, after, rfl, hkind⟩

instance Happens.decidable [∀ state step, Decidable (kind state step)] :
    (start : State) → (steps : List Step) → Decidable (Happens next start steps kind)
  | _, [] => isFalse not_happens_nil
  | start, step :: steps =>
    have : Decidable (Happens next (next start step) steps kind) := decidable _ steps
    decidable_of_iff _ happens_cons.symm

/-- A step at the end is one more step that may be of the kind. -/
theorem happens_append_singleton : Happens next start (steps ++ [step]) kind ↔
    Happens next start steps kind ∨ kind (steps.foldl next start) step := by
  constructor
  · rintro ⟨before, other, after, hsteps, hkind⟩
    rcases split_append_singleton hsteps with ⟨rfl, rfl, rfl⟩ | ⟨after, rfl, rfl⟩
    · exact Or.inr hkind
    · exact Or.inl ⟨before, other, after, rfl, hkind⟩
  · rintro (⟨before, other, after, rfl, hkind⟩ | hkind)
    · exact ⟨before, other, after ++ [step], by rw [List.append_assoc, List.cons_append], hkind⟩
    · exact ⟨steps, step, [], rfl, hkind⟩

end Happens

/-- A place in the state of a system. -/
structure Slot (State Step Value : Type) where
  /-- The state after a step. -/
  next : State → Step → State
  /-- The value in the slot, if there is one. -/
  held? : State → Option Value
  /-- The step fills the slot with the value. -/
  Fills : State → Step → Value → Prop
  /-- The step takes the value out of the slot, or puts one in its place. -/
  Voids : State → Step → Value → Prop
  held?_next : ∀ state step value, held? (next state step) = some value ↔
    Fills state step value ∨ held? state = some value ∧ ¬ Voids state step value

namespace Slot

variable {State Step Value : Type} (slot : Slot State Step Value)

/-- The state at the end of a run. -/
def last (start : State) (steps : List Step) : State := steps.foldl slot.next start

/-- By what has happened, the slot holds the value: a step filled it with that, and none voided it
later. -/
def Due (start : State) (steps : List Step) (value : Value) : Prop :=
  ∃ before step after, steps = before ++ step :: after ∧
    slot.Fills (slot.last start before) step value ∧
    ¬ Happens slot.next (slot.last start (before ++ [step])) after (slot.Voids · · value)

variable {slot} {start : State} {steps : List Step} {step : Step} {value : Value}

theorem last_append {later : List Step} :
    slot.last start (steps ++ later) = slot.last (slot.last start steps) later :=
  List.foldl_append

/-- One step more fills the slot, or leaves what is due there. -/
theorem due_append_singleton : slot.Due start (steps ++ [step]) value ↔
    slot.Fills (slot.last start steps) step value ∨
      slot.Due start steps value ∧ ¬ slot.Voids (slot.last start steps) step value := by
  constructor
  · -- the slot was filled by the last step, or before it
    rintro ⟨before, filling, after, hsteps, hfills, hkept⟩
    rcases split_append_singleton hsteps with ⟨rfl, rfl, rfl⟩ | ⟨after, rfl, rfl⟩
    · exact Or.inl hfills
    · rw [happens_append_singleton, not_or, ← last, ← last_append, List.append_assoc,
        List.singleton_append] at hkept
      exact Or.inr ⟨⟨before, filling, after, rfl, hfills, hkept.1⟩, hkept.2⟩
  · rintro (hfills | ⟨⟨before, filling, after, rfl, hfills, hkept⟩, hvoids⟩)
    · exact ⟨steps, step, [], rfl, hfills, not_happens_nil⟩
    · refine ⟨before, filling, after ++ [step],
        by rw [List.append_assoc, List.cons_append], hfills, ?_⟩
      rw [happens_append_singleton, not_or, ← last, ← last_append, List.append_assoc,
        List.singleton_append]
      exact ⟨hkept, hvoids⟩

/-- **What a slot holds is what is due there.** The induction is from the end of the run, where
`held?_next` and `due_append_singleton` say the same of both sides. -/
theorem held?_run_iff (slot : Slot State Step Value) (hempty : slot.held? start = none)
    (steps : List Step) (value : Value) :
    slot.held? (slot.last start steps) = some value ↔ slot.Due start steps value := by
  induction steps using List.reverseRecOn with
  | nil =>
    constructor
    · intro hheld
      exact absurd (hempty.symm.trans hheld) (by simp)
    · rintro ⟨before, filling, after, hnil, -⟩
      exact absurd hnil (by simp)
  | append_singleton steps step ih =>
    rw [due_append_singleton, ← ih, last_append]
    exact slot.held?_next _ step value

end Slot

end LatestTag
