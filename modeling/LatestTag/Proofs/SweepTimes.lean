import LatestTag.Proofs.Lifetime

/-!
# The times of sweeps

The clock may pass deadlines of the sweeper by any amount before the sweeper gets to work. Then it
makes up for those that are only just gone and skips the others. This file is about the times by
which it sweeps in the end, under a clock that moves as it likes:

> `schedule_catches_up`: at each instant the sweeper is done after a few passes, no matter how far
> the clock has jumped; then its next deadline is yet to come, within one interval. Over a whole run
> it sweeps by later and later times, none of which the clock has not reached.

Structure: `sweeper_step` says all that an action can do to the sweeper. Hence a deadline is never
more than one interval away (`Paced`), and the passes of a run come in order (`passes_ascend`), each
at the time that follows from the one before (`passes_follow`). The loop over the deadlines that have
come is a run of passes (`run_due`). How many there are is decided by the first one
(`length_due_le`): if it is late by more than the tolerance it is the only one, and else all of them
lie within the tolerance, one interval apart.
-/

namespace LatestTag

namespace Sweeper

variable {sweeper : Sweeper} {now : Nat}

theorem advance_deadline_le (hdue : sweeper.deadline ≤ now) :
    (sweeper.advance now).deadline ≤ now + sweeper.interval := by
  simp only [advance]
  split <;> omega

theorem due_of_lt (h : now < sweeper.deadline) : sweeper.due now = ([], sweeper) := by
  rw [due, if_neg (Nat.not_le_of_lt h)]

/-- Within the tolerance deadlines are one interval apart, so not many of them fit in. -/
theorem length_due_mul_le (h : now ≤ sweeper.deadline + tolerance) :
    (sweeper.due now).1.length * sweeper.interval ≤
      now + sweeper.interval - sweeper.deadline := by
  fun_induction sweeper.due now with
  | case1 sweeper hdue times later heq ih =>
    have hnext : (sweeper.advance now).deadline = sweeper.deadline + sweeper.interval := if_pos h
    have hrest : times.length * sweeper.interval ≤
        now + sweeper.interval - (sweeper.deadline + sweeper.interval) := by
      have hmul := ih (by omega)
      rw [heq, hnext] at hmul
      exact hmul
    show (times.length + 1) * sweeper.interval ≤ _
    rw [Nat.succ_mul]
    omega
  | case2 sweeper hdue =>
    rw [List.length_nil, Nat.zero_mul]
    exact Nat.zero_le _

/-- There are not many passes at one instant. -/
theorem length_due_le (sweeper : Sweeper) (now : Nat) :
    (sweeper.due now).1.length ≤ tolerance / sweeper.interval + 1 := by
  by_cases hclose : now ≤ sweeper.deadline + tolerance
  · have hmul := length_due_mul_le hclose
    have hpos := sweeper.interval_pos
    rw [← Nat.add_div_right _ hpos, Nat.le_div_iff_mul_le hpos]
    omega
  · -- behind a pass that is too late the next one is yet to come
    have hnext : (sweeper.advance now).deadline = now + sweeper.interval := if_neg hclose
    have hpos := sweeper.interval_pos
    have hrest : (sweeper.advance now).due now = ([], sweeper.advance now) :=
      due_of_lt (by omega)
    rw [due, if_pos (by omega), hrest]
    exact Nat.le_add_left 1 _

end Sweeper

namespace TagStore

/-- A pass of the sweeper. -/
structure Pass where
  /-- The time by which it sweeps the cache. -/
  time : Nat
  /-- The time of the clock. -/
  now : Nat
deriving DecidableEq

/-- The time of the pass is the one that is due after the pass before: one interval later, counted
from the clock if that pass was late by more than the tolerance. -/
def Pass.Follows (interval : Nat) (before pass : Pass) : Prop :=
  pass.time =
    if before.now ≤ before.time + Sweeper.tolerance then before.time + interval
    else before.now + interval

/-- The pass that the sweeper makes with an action. -/
def pass? (store : TagStore) : Action → Option Pass
  | .tick =>
    match store.live? with
    | some sweeper =>
      if sweeper.deadline ≤ store.now then some ⟨sweeper.deadline, store.now⟩ else none
    | none => none
  | .insert _ _ | .remove _ | .clear | .sweep _ | .elapse _ | .spawn _ | .stop => none

/-- The passes that the sweeper makes in a run. -/
def passes (store : TagStore) : List Action → List Pass
  | [] => []
  | action :: actions => (store.pass? action).toList ++ (store.step action).passes actions

/-- The action stops the sweeper, or replaces it. -/
def Action.EndsSweeper : Action → Prop
  | .spawn _ | .stop => True
  | .insert _ _ | .remove _ | .clear | .sweep _ | .elapse _ | .tick => False

/-- The command stops the sweeper, or replaces it. -/
def Command.EndsSweeper : Command → Prop
  | .spawn _ | .stop => True
  | .get _ | .insert _ _ | .remove _ | .clear | .sweepNow | .sweepAt _ | .jump _ | .sleep _
  | .ttl => False

/-- The sweeper has nothing to do now, and will have within one interval. -/
def Awaits (interval : Nat) (store : TagStore) : Prop :=
  ∃ sweeper, store.live? = some sweeper ∧ store.now < sweeper.deadline ∧
    sweeper.deadline ≤ store.now + interval

variable {interval : Nat} {store : TagStore} {sweeper : Sweeper} {action : Action}
  {actions : List Action}

/-! ## One action -/

/-- **One action** leaves the sweeper as it is, or it is a pass: then the deadline has come, and the
sweeper moves on to the next one. -/
theorem sweeper_step (hlive : store.live? = some sweeper) (hkeeps : ¬ action.EndsSweeper) :
    ((store.step action).live? = some sweeper ∧ store.now ≤ (store.step action).now ∧
      store.pass? action = none) ∨
    (sweeper.deadline ≤ store.now ∧
      (store.step action).live? = some (sweeper.advance store.now) ∧
      (store.step action).now = store.now ∧
      store.pass? action = some ⟨sweeper.deadline, store.now⟩) := by
  cases action with
  | tick =>
    by_cases hdue : sweeper.deadline ≤ store.now
    · right
      rw [step, tick, pass?, hlive]
      dsimp only
      rw [if_pos hdue, if_pos hdue]
      exact ⟨hdue, rfl, rfl, rfl⟩
    · left
      rw [step, tick, pass?, hlive]
      dsimp only
      rw [if_neg hdue, if_neg hdue]
      exact ⟨hlive, Nat.le_refl _, rfl⟩
  | elapse duration => exact Or.inl ⟨hlive, Nat.le_add_right _ _, rfl⟩
  | insert | remove | clear | sweep => exact Or.inl ⟨hlive, Nat.le_refl _, rfl⟩
  | spawn interval => exact absurd trivial hkeeps
  | stop => exact absurd trivial hkeeps

/-- The next deadline of the sweeper is never more than one interval away. -/
structure Paced (interval : Nat) (store : TagStore) (sweeper : Sweeper) : Prop where
  live : store.live? = some sweeper
  interval_eq : sweeper.interval = interval
  deadline_le : sweeper.deadline ≤ store.now + interval

theorem Paced.step (h : store.Paced interval sweeper) (hkeeps : ¬ action.EndsSweeper) :
    ∃ next, (store.step action).Paced interval next := by
  rcases sweeper_step h.live hkeeps with ⟨hlive, hnow, -⟩ | ⟨hdue, hlive, hnow, -⟩
  · exact ⟨sweeper, hlive, h.interval_eq, h.deadline_le.trans (Nat.add_le_add_right hnow _)⟩
  · have hle := Sweeper.advance_deadline_le hdue
    rw [h.interval_eq] at hle
    exact ⟨sweeper.advance store.now, hlive, h.interval_eq, hnow.symm ▸ hle⟩

/-! ## Runs -/

theorem Paced.run (h : store.Paced interval sweeper)
    (hkeeps : ∀ action ∈ actions, ¬ action.EndsSweeper) :
    ∃ next, (store.run actions).Paced interval next := by
  induction actions generalizing store sweeper with
  | nil => exact ⟨sweeper, h⟩
  | cons action actions ih =>
    obtain ⟨next, hnext⟩ := h.step (hkeeps action List.mem_cons_self)
    exact ih hnext fun later hlater => hkeeps later (List.mem_cons_of_mem _ hlater)

/-- What a run begins with: the sweeper stays as it is, and its passes are those of the rest; or it
makes a pass at its deadline, and has the next one before it in the rest. -/
theorem passes_cons (hlive : store.live? = some sweeper) (hkeeps : ¬ action.EndsSweeper) :
    ((store.step action).live? = some sweeper ∧
      store.passes (action :: actions) = (store.step action).passes actions) ∨
    (sweeper.deadline ≤ store.now ∧
      (store.step action).live? = some (sweeper.advance store.now) ∧
      store.passes (action :: actions) =
        ⟨sweeper.deadline, store.now⟩ :: (store.step action).passes actions) := by
  rcases sweeper_step hlive hkeeps with ⟨hnext, -, hpass⟩ | ⟨hdue, hnext, -, hpass⟩
  · left
    rw [passes, hpass]
    exact ⟨hnext, rfl⟩
  · right
    rw [passes, hpass]
    exact ⟨hdue, hnext, rfl⟩

/-- No pass comes before the deadline, nor before its own time. -/
theorem le_of_mem_passes (hlive : store.live? = some sweeper)
    (hkeeps : ∀ action ∈ actions, ¬ action.EndsSweeper) :
    ∀ pass ∈ store.passes actions, sweeper.deadline ≤ pass.time ∧ pass.time ≤ pass.now := by
  induction actions generalizing store sweeper with
  | nil => exact fun pass hpass => absurd hpass List.not_mem_nil
  | cons action actions ih =>
    intro pass hpass
    rw [List.forall_mem_cons] at hkeeps
    rcases passes_cons hlive hkeeps.1 with ⟨hnext, hpasses⟩ | ⟨hdue, hnext, hpasses⟩
    · rw [hpasses] at hpass
      exact ih hnext hkeeps.2 pass hpass
    · rw [hpasses, List.mem_cons] at hpass
      rcases hpass with rfl | hlater
      · exact ⟨Nat.le_refl _, hdue⟩
      · have hlt := sweeper.deadline_lt_advance store.now
        have hle := ih hnext hkeeps.2 pass hlater
        exact ⟨Nat.le_trans (Nat.le_of_lt hlt) hle.1, hle.2⟩

/-- **The passes of a run** are made by later and later times. -/
theorem passes_ascend (hlive : store.live? = some sweeper)
    (hkeeps : ∀ action ∈ actions, ¬ action.EndsSweeper) :
    (store.passes actions).Pairwise fun earlier later => earlier.time < later.time := by
  induction actions generalizing store sweeper with
  | nil => exact List.Pairwise.nil
  | cons action actions ih =>
    rw [List.forall_mem_cons] at hkeeps
    rcases passes_cons hlive hkeeps.1 with ⟨hnext, hpasses⟩ | ⟨-, hnext, hpasses⟩
    · rw [hpasses]
      exact ih hnext hkeeps.2
    · rw [hpasses, List.pairwise_cons]
      refine ⟨fun later hlater => ?_, ih hnext hkeeps.2⟩
      have hlt := sweeper.deadline_lt_advance store.now
      exact Nat.lt_of_lt_of_le hlt (le_of_mem_passes hnext hkeeps.2 later hlater).1

/-- Each pass of a run follows the one before. The induction goes by the pass that was last: it has
left the sweeper with the deadline that follows it. -/
theorem passes_follow {before : Pass} (hlive : store.live? = some sweeper)
    (hbefore : before.Follows sweeper.interval ⟨sweeper.deadline, store.now⟩)
    (hkeeps : ∀ action ∈ actions, ¬ action.EndsSweeper) :
    (before :: store.passes actions).IsChain (Pass.Follows sweeper.interval) := by
  induction actions generalizing store sweeper before with
  | nil => exact .singleton before
  | cons action actions ih =>
    rw [List.forall_mem_cons] at hkeeps
    rcases passes_cons hlive hkeeps.1 with ⟨hnext, hpasses⟩ | ⟨-, hnext, hpasses⟩
    · rw [hpasses]
      exact ih hnext hbefore hkeeps.2
    · have hrest : (⟨sweeper.deadline, store.now⟩ :: (store.step action).passes actions).IsChain
          (Pass.Follows (sweeper.advance store.now).interval) :=
        ih hnext rfl hkeeps.2
      rw [hpasses]
      exact .cons_cons hbefore hrest

/-! ## One instant -/

/-- **The loop of an instant** is a run of passes, one for each deadline that has come. -/
theorem run_due (cache : Cache) (now : Nat) (sweeper : Sweeper) :
    let store : TagStore := ⟨cache, now, some (.live sweeper)⟩
    let ticks := List.replicate (sweeper.due now).1.length Action.tick
    store.run ticks = ⟨(sweeper.due now).1.foldl Cache.sweep cache, now,
        some (.live (sweeper.due now).2)⟩ ∧
      store.passes ticks = (sweeper.due now).1.map fun time => ⟨time, now⟩ := by
  fun_induction sweeper.due now generalizing cache with
  | case1 sweeper hdue times later heq ih =>
    obtain ⟨hrun, hpasses⟩ := ih (cache.sweep sweeper.deadline)
    rw [heq, ← step_tick_of_due hdue] at hrun hpasses
    refine ⟨hrun, ?_⟩
    have hpass : pass? ⟨cache, now, some (.live sweeper)⟩ .tick = some ⟨sweeper.deadline, now⟩ :=
      if_pos hdue
    show (pass? _ .tick).toList ++ passes _ (List.replicate times.length Action.tick) = _
    rw [hpass, hpasses]
    rfl
  | case2 sweeper hdue => exact ⟨rfl, rfl⟩

theorem handle_of_live? (hlive : store.live? = some sweeper) :
    store.sweeper = some (.live sweeper) := by
  obtain ⟨cache, now, handle⟩ := store
  match handle, hlive with
  | some (.live _), rfl => rfl

/-- A paced sweeper is soon done with the present, and then awaits the next deadline. -/
theorem Paced.exists_ticks (h : store.Paced interval sweeper) :
    ∃ count ≤ Sweeper.tolerance / interval + 1,
      let ticks := List.replicate count Action.tick
      (store.passes ticks).length = count ∧
      (store.run ticks).cache =
        ((store.passes ticks).map (·.time)).foldl Cache.sweep store.cache ∧
      (store.run ticks).now = store.now ∧ (store.run ticks).Awaits interval := by
  obtain ⟨cache, now, handle⟩ := store
  obtain rfl : handle = some (.live sweeper) := handle_of_live? h.live
  obtain ⟨hrun, hpasses⟩ := run_due cache now sweeper
  have htimes : ((sweeper.due now).1.map fun time => (⟨time, now⟩ : Pass)).map (·.time) =
      (sweeper.due now).1 := by
    rw [List.map_map]
    exact List.map_id _
  have hlength := sweeper.length_due_le now
  rw [h.interval_eq] at hlength
  have hkeeps : ∀ action ∈ List.replicate (sweeper.due now).1.length Action.tick,
      ¬ action.EndsSweeper := by
    intro action haction
    rw [List.eq_of_mem_replicate haction]
    exact id
  obtain ⟨next, hnext⟩ := h.run hkeeps
  refine ⟨_, hlength, ?_, ?_, ?_, next, hnext.live, ?_, hnext.deadline_le⟩
  · rw [hpasses, List.length_map]
  · rw [hrun, hpasses, htimes]
  · rw [hrun]
  · have hlive := hnext.live
    rw [hrun] at hlive ⊢
    obtain rfl := Option.some.inj hlive
    exact sweeper.lt_due_deadline now

/-! ## Commands -/

theorem Action.EndsSweeper.neglects (h : action.EndsSweeper) (store : TagStore) :
    store.Neglects action := by
  cases action with
  | spawn | stop => trivial
  | _ => exact h.elim

theorem Action.EndsSweeper.of_intrusion? {command : Command} (h : action.EndsSweeper)
    (hintrusion : command.intrusion? = some action) : command.EndsSweeper := by
  cases command with
  | spawn | stop => trivial
  | jump duration =>
    obtain rfl := Option.some.inj hintrusion
    exact h.elim
  | _ => exact absurd hintrusion (by simp [Command.intrusion?])

theorem leads_commands (store : TagStore) {commands : List Command}
    (hkeeps : ∀ command ∈ commands, ¬ command.EndsSweeper) :
    Leads step (fun _ action => action.EndsSweeper) store (commands.foldl perform store) := by
  induction commands generalizing store with
  | nil => exact .refl store
  | cons command commands ih =>
    rw [List.forall_mem_cons] at hkeeps
    have hfirst : Leads step (fun _ action => action.EndsSweeper) store
        (store.perform command) :=
      leads_perform_of_intrusion? (fun hends => hends.neglects _) store
        fun _ hintrusion hends => hkeeps.1 (hends.of_intrusion? hintrusion)
    exact hfirst.trans (ih (store.perform command) hkeeps.2)

/-- Commands that leave the sweeper be do what some actions do that leave it be. -/
theorem exists_run_commands (store : TagStore) {commands : List Command}
    (hkeeps : ∀ command ∈ commands, ¬ command.EndsSweeper) :
    ∃ actions, (∀ action ∈ actions, ¬ action.EndsSweeper) ∧
      commands.foldl perform store = store.run actions := by
  obtain ⟨actions, hactions, hnot⟩ := leads_commands store hkeeps
  refine ⟨actions, fun action hmem hends => hnot ?_, hactions.symm⟩
  obtain ⟨before, after, heq⟩ := List.append_of_mem hmem
  exact ⟨before, action, after, heq, hends⟩

theorem isSettled_commands (h : store.IsSettled) (commands : List Command) :
    (commands.foldl perform store).IsSettled := by
  induction commands generalizing store with
  | nil => exact h
  | cons command commands ih => exact ih (isSettled_perform store command)

theorem Paced.awaits (h : store.Paced interval sweeper) (hsettled : store.IsSettled) :
    store.Awaits interval :=
  ⟨sweeper, h.live, hsettled sweeper h.live, h.deadline_le⟩

/-- **The schedule always catches up**, whatever the clock does. At each instant the sweeper is done
after a few passes, by whose times the cache is swept. When it has nothing to do, the next deadline
is yet to come and at most one interval away. Over the whole run each pass follows the one before;
the times by which the cache is swept get later and later, and the clock has reached each of them.
Commands do what such a run does, and behind each of them the sweeper has nothing to do. -/
theorem schedule_catches_up (start : TagStore) (interval : Nat) (interval_pos : 0 < interval)
    (hstart : start.live? = some (.start start.now interval interval_pos)) :
    (∀ actions, (∀ action ∈ actions, ¬ action.EndsSweeper) →
      let store := start.run actions
      (∃ count ≤ Sweeper.tolerance / interval + 1,
        let ticks := List.replicate count Action.tick
        (store.passes ticks).length = count ∧
        (store.run ticks).cache =
          ((store.passes ticks).map (·.time)).foldl Cache.sweep store.cache ∧
        (store.run ticks).now = store.now ∧ (store.run ticks).Awaits interval) ∧
      (store.IsSettled → store.Awaits interval) ∧
      (⟨start.now, start.now⟩ :: start.passes actions).IsChain (Pass.Follows interval) ∧
      (start.passes actions).Pairwise (fun earlier later => earlier.time < later.time) ∧
      ∀ pass ∈ start.passes actions, pass.time ≤ pass.now) ∧
    ∀ commands : List Command, (∀ command ∈ commands, ¬ command.EndsSweeper) →
      (∃ actions, (∀ action ∈ actions, ¬ action.EndsSweeper) ∧
        commands.foldl perform start = start.run actions) ∧
      (commands.foldl perform start).Awaits interval := by
  have hpaced : start.Paced interval (.start start.now interval interval_pos) :=
    ⟨hstart, rfl, Nat.le_refl _⟩
  refine ⟨fun actions hkeeps => ?_, fun commands hkeeps => ?_⟩
  · obtain ⟨sweeper, hrun⟩ := hpaced.run hkeeps
    have hfirst : (⟨start.now, start.now⟩ : Pass).Follows interval
        ⟨start.now + interval, start.now⟩ :=
      (if_pos (Nat.le_add_right _ _)).symm
    exact ⟨hrun.exists_ticks, hrun.awaits, passes_follow hstart hfirst hkeeps,
      passes_ascend hstart hkeeps, fun pass hpass => (le_of_mem_passes hstart hkeeps pass hpass).2⟩
  · have hsettled : start.IsSettled := by
      intro sweeper hlive
      obtain rfl := Option.some.inj (hstart.symm.trans hlive)
      exact Nat.lt_add_of_pos_right interval_pos
    have hidle := isSettled_commands hsettled commands
    obtain ⟨actions, hactions, hstate⟩ := exists_run_commands start hkeeps
    obtain ⟨sweeper, hrun⟩ := hpaced.run hactions
    rw [hstate] at hidle ⊢
    exact ⟨⟨actions, hactions, rfl⟩, hrun.awaits hidle⟩

/-- A sweeper that is to come every two and a half milliseconds misses its first deadline by half a
millisecond, the second one by an hour, and then three of them together, the first of these by five
milliseconds. -/
def stalls : List Action :=
  [.elapse 3000000, .tick, .elapse 3600000000000, .tick, .elapse 7500000]

/-- The same as commands. -/
def stallCommands : List Command := [.sleep 3000000, .jump 3600000000000, .jump 7500000]

theorem schedule_catches_up_of_stalls :
    let start : TagStore := quick.resolver.store
    start.live? = some (.start start.now quickly.sweepInterval quickly.sweepInterval_pos) ∧
    (∀ action ∈ stalls, ¬ action.EndsSweeper) ∧
    (start.run stalls).passes (List.replicate 3 .tick) =
      [⟨3600005500000, 3600010500000⟩, ⟨3600008000000, 3600010500000⟩,
        ⟨3600010500000, 3600010500000⟩] ∧
    (∃ count ≤ 3,
      let ticks := List.replicate count Action.tick
      ((start.run stalls).passes ticks).length = count ∧
      ((start.run stalls).run ticks).Awaits 2500000) ∧
    (start.passes stalls = [⟨2500000, 3000000⟩, ⟨5000000, 3600003000000⟩] ∧
      (start.passes stalls).Pairwise fun earlier later => earlier.time < later.time) ∧
    (∀ command ∈ stallCommands, ¬ command.EndsSweeper) ∧
    (stallCommands.foldl perform start).Awaits 2500000 := by
  intro start
  have hstart : start.live? =
      some (.start start.now quickly.sweepInterval quickly.sweepInterval_pos) := rfl
  have hactions : ∀ action ∈ stalls, ¬ action.EndsSweeper := by
    simp [stalls, Action.EndsSweeper]
  have hcommands : ∀ command ∈ stallCommands, ¬ command.EndsSweeper := by
    simp [stallCommands, Command.EndsSweeper]
  obtain ⟨hrun, hperform⟩ :=
    schedule_catches_up start quickly.sweepInterval quickly.sweepInterval_pos hstart
  obtain ⟨⟨count, hcount, hlength, -, -, hawaits⟩, -, -, hascend, -⟩ := hrun stalls hactions
  exact ⟨hstart, hactions, by decide, ⟨count, hcount, hlength, hawaits⟩, ⟨by decide, hascend⟩,
    hcommands, (hperform stallCommands hcommands).2⟩

end TagStore

end LatestTag
