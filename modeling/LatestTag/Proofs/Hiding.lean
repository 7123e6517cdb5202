/-!
# Steps that nobody notices

Some steps of a system are to go unnoticed. A `Watch` says which these are and what is seen of the
others; two runs are then to be compared that take the same steps but for unnoticed ones, which may
come at any place in either of them. It is enough to look at single steps: if a relation between
states is kept by common steps and by unnoticed ones of one side alone (`Watch.Keeps`), then

> `views_eq_of_shown_eq`: runs from related states that show the same steps look the same at each of
> them and end in related states.

Whether a step is to be noticed may depend on the state in which it is taken.
-/

namespace LatestTag

/-- A system that is watched. -/
structure Watch (State Step View : Type) where
  /-- The state after a step. -/
  next : State → Step → State
  /-- Whether a step is to go unnoticed. -/
  isHidden : State → Step → Bool
  /-- What is seen of a step. -/
  view : State → Step → View

namespace Watch

variable {State Step View : Type} (watch : Watch State Step View)

/-- The state at the end of a run. -/
def last (state : State) (steps : List Step) : State := steps.foldl watch.next state

/-- The steps of a run that are not to go unnoticed. -/
def shown (state : State) : List Step → List Step
  | [] => []
  | step :: steps =>
    if watch.isHidden state step then shown (watch.next state step) steps
    else step :: shown (watch.next state step) steps

/-- What is seen of a run, step by step. -/
def views (state : State) : List Step → List View
  | [] => []
  | step :: steps =>
    if watch.isHidden state step then views (watch.next state step) steps
    else watch.view state step :: views (watch.next state step) steps

/-- The relation is kept by all steps: hidden ones of one side, and other ones of both sides, which
then look the same. -/
structure Keeps (Related : State → State → Prop) : Prop where
  refl : ∀ s, Related s s
  symm : ∀ {s t}, Related s t → Related t s
  trans : ∀ {s t u}, Related s t → Related t u → Related s u
  hidden : ∀ {s step}, watch.isHidden s step = true → Related (watch.next s step) s
  isHidden_eq : ∀ {s t} step, Related s t → watch.isHidden s step = watch.isHidden t step
  next : ∀ {s t} step, Related s t → watch.isHidden s step = false →
    Related (watch.next s step) (watch.next t step)
  view_eq : ∀ {s t} step, Related s t → watch.isHidden s step = false →
    watch.view s step = watch.view t step

variable {watch} {Related : State → State → Prop} {s t : State} {steps steps' : List Step}

/-- A run looks as it does without its hidden steps, from any related state. The induction is on the
steps; a hidden one leaves the other run where it is. -/
theorem views_shown (hkeeps : watch.Keeps Related) (hrelated : Related s t) (steps : List Step) :
    watch.views s steps = watch.views t (watch.shown s steps) ∧
      Related (watch.last s steps) (watch.last t (watch.shown s steps)) := by
  induction steps generalizing s t with
  | nil => exact ⟨rfl, hrelated⟩
  | cons step steps ih =>
    by_cases hhidden : watch.isHidden s step = true
    · -- only the first run moves, and stays related to the other
      have hnext : Related (watch.next s step) t := hkeeps.trans (hkeeps.hidden hhidden) hrelated
      rw [views, shown, if_pos hhidden, if_pos hhidden]
      exact ih hnext
    · -- both runs move, and what is seen is the same
      have hshown : watch.isHidden s step = false := by simpa using hhidden
      have hother : ¬ watch.isHidden t step = true := by
        rw [← hkeeps.isHidden_eq step hrelated]
        exact hhidden
      have hnext := hkeeps.next step hrelated hshown
      rw [views, shown, if_neg hhidden, if_neg hhidden, views, if_neg hother,
        hkeeps.view_eq step hrelated hshown, (ih hnext).1]
      exact ⟨rfl, (ih hnext).2⟩

/-- **Hidden steps go unnoticed**: both runs are compared with the one that they have in common. -/
theorem views_eq_of_shown_eq (hkeeps : watch.Keeps Related) (hrelated : Related s t)
    (hshown : watch.shown s steps = watch.shown t steps') :
    watch.views s steps = watch.views t steps' ∧
      Related (watch.last s steps) (watch.last t steps') := by
  have hleft := views_shown hkeeps hrelated steps
  have hright := views_shown hkeeps (hkeeps.refl t) steps'
  rw [← hshown] at hright
  exact ⟨hleft.1.trans hright.1.symm, hkeeps.trans hleft.2 (hkeeps.symm hright.2)⟩

end Watch

end LatestTag
