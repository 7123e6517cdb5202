import LatestTag.Proofs.Effects
import LatestTag.Proofs.Schedules

/-!
# No entry outlives its time by more than an interval

Entries are kept for the time to live of the cache, and stale ones are there until the sweeper comes
by. This file bounds how long that takes:

> `lifetime_bounded`: while the sweeper is not neglected and has made all passes that are due, every
> entry is younger than the time to live and one interval of the sweeper together.

The invariant (`TagStore.Tended`) looks ahead to the next deadline: by then no entry will have
outlived its time by more than an interval. A new entry has the whole interval before it. A pass
moves the deadline on by one interval, and what it leaves was fresh at the old one; here it matters
that the pass is not late by more than the tolerance, as timers are not that count milliseconds.
-/

namespace LatestTag

namespace TagStore

/-- The store is swept at every interval: the next deadline is at most one interval away, or has
just passed, and it comes before any entry has outlived its time by more than an interval. -/
structure Tended (interval : Nat) (store : TagStore) (sweeper : Sweeper) : Prop where
  live : store.live? = some sweeper
  interval_eq : sweeper.interval = interval
  deadline_le : sweeper.deadline ≤ store.now + interval
  now_le : store.now ≤ sweeper.deadline + Sweeper.tolerance
  stored : ∀ url entry, store.cache.find? url = some entry →
    sweeper.deadline ≤ entry.storedAt + store.cache.ttl + interval

/-- The sweeper has made all passes that are due. -/
def IsSettled (store : TagStore) : Prop := ∀ sweeper ∈ store.live?, store.now < sweeper.deadline

instance (store : TagStore) : Decidable store.IsSettled :=
  inferInstanceAs (Decidable (∀ sweeper ∈ store.live?, store.now < sweeper.deadline))

instance (store : TagStore) : (action : Action) → Decidable (store.Neglects action)
  | .elapse duration => inferInstanceAs (Decidable (∃ sweeper ∈ store.live?,
      Duration.fire store.now sweeper.deadline < store.now + duration))
  | .spawn _ | .stop => isTrue trivial
  | .insert _ _ | .remove _ | .clear | .sweep _ | .tick => isFalse id

variable {interval : Nat} {store : TagStore} {sweeper : Sweeper} {action : Action}

/-- Between a pass and the next deadline no entry is older than that. -/
theorem Tended.age_lt (h : store.Tended interval sweeper) (hsettled : store.IsSettled)
    {url : String} {entry : CacheEntry} (hfind : store.cache.find? url = some entry) :
    store.now - entry.storedAt < store.cache.ttl + interval := by
  have hnow := hsettled sweeper h.live
  have hstored := h.stored url entry hfind
  have hpos := sweeper.interval_pos
  have hinterval := h.interval_eq
  omega

/-- A timer fires before the tolerance for it is used up. -/
theorem fire_le (now deadline : Nat) :
    Duration.fire now deadline ≤ max now (deadline + Sweeper.tolerance) := by
  have htick := Duration.toTick_lt deadline
  have hmod : now % Duration.millisecond < Duration.millisecond := Nat.mod_lt _ (by decide)
  have htolerance : Sweeper.tolerance = 5 * Duration.millisecond := rfl
  unfold Duration.fire
  omega

/-- Behind an action an entry was stored just now, or it was there before. -/
theorem stored_of_step {url : String} {entry : CacheEntry}
    (hfind : (store.step action).cache.find? url = some entry) :
    entry.storedAt = store.now ∨ store.cache.find? url = some entry := by
  rcases find?_step_iff.1 hfind with ⟨-, hnow⟩ | ⟨hbefore, -⟩
  · exact Or.inl hnow.symm
  · exact Or.inr hbefore

/-- An edit of the cache leaves the deadline where it is, and stores nothing that is old. -/
theorem Tended.edit (h : store.Tended interval sweeper)
    (hlive : (store.step action).live? = store.live?) (hnow : (store.step action).now = store.now) :
    (store.step action).Tended interval sweeper := by
  refine ⟨hlive.trans h.live, h.interval_eq, hnow ▸ h.deadline_le, hnow ▸ h.now_le, ?_⟩
  intro url entry hfind
  rw [ttl_step]
  rcases stored_of_step hfind with heq | hbefore
  · have hdeadline := h.deadline_le
    omega
  · exact h.stored url entry hbefore

theorem Tended.elapse {duration : Nat} (h : store.Tended interval sweeper)
    (hnot : ¬ store.Neglects (.elapse duration)) :
    (store.step (.elapse duration)).Tended interval sweeper := by
  have hfire : store.now + duration ≤ Duration.fire store.now sweeper.deadline :=
    Nat.le_of_not_lt fun hlt => hnot ⟨sweeper, h.live, hlt⟩
  have hle := fire_le store.now sweeper.deadline
  have hnow := h.now_le
  have hdeadline := h.deadline_le
  refine ⟨h.live, h.interval_eq, ?_, ?_, h.stored⟩
  · show sweeper.deadline ≤ store.now + duration + interval
    omega
  · show store.now + duration ≤ sweeper.deadline + Sweeper.tolerance
    omega

/-- A pass leaves what was fresh at its deadline, so one interval later that is still young. -/
theorem Tended.tick (h : store.Tended interval sweeper) :
    ∃ next, (store.step .tick).Tended interval next := by
  by_cases hdue : sweeper.deadline ≤ store.now
  · have hstep : store.step .tick = { store with
        cache := store.cache.sweep sweeper.deadline
        sweeper := some (.live (sweeper.advance store.now)) } := by
      rw [step, TagStore.tick, h.live]
      exact if_pos hdue
    have hnext : (sweeper.advance store.now).deadline = sweeper.deadline + sweeper.interval :=
      if_pos h.now_le
    have hinterval := h.interval_eq
    have hnow := h.now_le
    refine ⟨sweeper.advance store.now, ?_, hinterval, ?_, ?_, ?_⟩
    · rw [hstep]
      rfl
    · rw [hnext, hstep]
      show sweeper.deadline + sweeper.interval ≤ store.now + interval
      omega
    · rw [hnext, hstep]
      show store.now ≤ sweeper.deadline + sweeper.interval + Sweeper.tolerance
      omega
    · intro url entry hfind
      rw [hstep] at hfind ⊢
      have hfresh : ¬ store.cache.ttl ≤ sweeper.deadline - entry.storedAt :=
        (find?_sweep_iff.1 hfind).2
      rw [hnext]
      show sweeper.deadline + sweeper.interval ≤ entry.storedAt + store.cache.ttl + interval
      omega
  · have hstep : store.step .tick = store := by
      rw [step, TagStore.tick, h.live]
      exact if_neg hdue
    rw [hstep]
    exact ⟨sweeper, h⟩

/-- **One action** that does not neglect the sweeper keeps the store tended. -/
theorem Tended.step (h : store.Tended interval sweeper) (hnot : ¬ store.Neglects action) :
    ∃ next, (store.step action).Tended interval next := by
  cases action with
  | insert url tags => exact ⟨sweeper, h.edit rfl rfl⟩
  | remove url => exact ⟨sweeper, h.edit rfl rfl⟩
  | clear => exact ⟨sweeper, h.edit rfl rfl⟩
  | sweep time => exact ⟨sweeper, h.edit rfl rfl⟩
  | elapse duration => exact ⟨sweeper, h.elapse hnot⟩
  | tick => exact h.tick
  | spawn interval => exact absurd trivial hnot
  | stop => exact absurd trivial hnot

theorem isSettled_settle (store : TagStore) : store.settle.IsSettled := by
  intro sweeper hlive
  rw [live?_settle] at hlive
  obtain ⟨earlier, hearlier, rfl⟩ := Option.map_eq_some_iff.1 hlive
  have hnow : store.settle.now = store.now := by
    rw [settle, hearlier]
  rw [hnow]
  exact earlier.lt_due_deadline store.now

theorem isSettled_perform (store : TagStore) (command : Command) :
    (store.perform command).IsSettled := by
  cases command with
  | get | ttl => exact isSettled_settle store
  | sleep duration => exact isSettled_settle (store.approach _)
  | _ =>
    rw [perform]
    exact isSettled_settle _

end TagStore

namespace Session

instance (session : Session) (event : Event) : Decidable (session.Neglects event) :=
  match event with
  | .act action => decidable_of_iff (session.resolver.store.Neglects action) (by simp [Neglects])
  | .call _ _ | .poll _ _ => isFalse (by simp [Neglects])

variable {interval : Nat}

/-- The store of the session is swept at every interval. -/
def IsTended (interval : Nat) (session : Session) : Prop :=
  ∃ sweeper, session.resolver.store.Tended interval sweeper

theorem isTended_new (config : Config) (dispatcher : Dispatcher) :
    (new config dispatcher).IsTended config.sweepInterval := by
  refine ⟨_, rfl, rfl, Nat.le_refl _, Nat.zero_le _, ?_⟩
  intro url entry hfind
  have hempty : (new config dispatcher).resolver.store.cache.find? url = none := rfl
  rw [hempty] at hfind
  exact absurd hfind (by simp)

/-- **One event** that does not neglect the sweeper keeps the store tended. What a call does to it
is an insert. -/
theorem IsTended.step {session : Session} {event : Event} (h : session.IsTended interval)
    (hnot : ¬ session.Neglects event) : (session.step event).IsTended interval := by
  obtain ⟨sweeper, h⟩ := h
  have hkeeps {action : TagStore.Action} (heffect : session.effect? event = some action) :
      ¬ session.resolver.store.Neglects action := by
    cases event with
    | act other =>
      obtain rfl := Option.some.inj heffect
      exact fun hneglects => hnot ⟨other, rfl, hneglects⟩
    | call request start => exact absurd heffect (by simp [effect?])
    | poll position clients =>
      obtain ⟨url, tags, rfl, -⟩ := effect?_poll_eq_some_iff.1 heffect
      exact id
  rw [IsTended, store_step]
  cases heffect : session.effect? event with
  | none => exact ⟨sweeper, h⟩
  | some action => exact h.step (hkeeps heffect)

theorem IsTended.run {start : Session} {events : List Event} (h : start.IsTended interval)
    (hnot : ¬ Occurs start events Neglects) : (start.run events).IsTended interval := by
  induction events generalizing start with
  | nil => exact h
  | cons event events ih =>
    rw [occurs_cons, not_or] at hnot
    exact ih (h.step hnot.1) hnot.2

end Session

/-- A simulation is settled behind every step, if it is so at first. -/
theorem Simulation.isSettled_run {sim : Simulation} (steps : List Step)
    (h : sim.store.IsSettled) : (sim.run steps).store.IsSettled := by
  induction steps generalizing sim with
  | nil => exact h
  | cons step steps ih =>
    have hstep : (sim.step step).1.store.IsSettled := by
      cases step with
      | command command => exact TagStore.isSettled_perform _ _
      | jobs jobs => exact TagStore.isSettled_settle _
      | script client script => exact h
    exact ih hstep

/-- **No entry outlives its time by more than an interval** of the sweeper, in any session in which
the sweeper is not neglected, whenever it has made the passes that are due; and so behind every step
of a simulation in which nobody makes the clock jump or touches the sweeper. -/
theorem lifetime_bounded (config : Config) (dispatcher : Dispatcher) :
    (∀ events, ¬ Session.Occurs (.new config dispatcher) events Session.Neglects →
      let store := ((Session.new config dispatcher).run events).resolver.store
      store.IsSettled → ∀ url entry, store.cache.find? url = some entry →
        store.now - entry.storedAt < config.cacheTtl + config.sweepInterval) ∧
    ∀ scripts steps, (∀ step ∈ steps, step.IsPunctual) →
      let store := (Simulation.run ⟨.new config dispatcher, scripts⟩ steps).store
      ∀ url entry, store.cache.find? url = some entry →
        store.now - entry.storedAt < config.cacheTtl + config.sweepInterval := by
  have hsession (events : List Session.Event)
      (hnot : ¬ Session.Occurs (.new config dispatcher) events Session.Neglects)
      (hsettled : ((Session.new config dispatcher).run events).resolver.store.IsSettled)
      {url : String} {entry : CacheEntry}
      (hfind : ((Session.new config dispatcher).run events).resolver.store.cache.find? url =
        some entry) :
      ((Session.new config dispatcher).run events).resolver.store.now - entry.storedAt <
        config.cacheTtl + config.sweepInterval := by
    obtain ⟨sweeper, htended⟩ := (Session.isTended_new config dispatcher).run hnot
    have hage := htended.age_lt hsettled hfind
    have httl : ((Session.new config dispatcher).run events).resolver.store.cache.ttl =
        config.cacheTtl := (Session.frame_run _ events).2.2.1
    rwa [httl] at hage
  refine ⟨fun events hnot hsettled url entry => hsession events hnot hsettled, ?_⟩
  intro scripts steps hsteps store url entry hfind
  obtain ⟨events, hevents, hpunctual⟩ :=
    Simulation.exists_run ⟨.new config dispatcher, scripts⟩ steps
  have hnot : ¬ Session.Occurs (.new config dispatcher) events Session.Neglects := by
    have hquiet : (Session.new config dispatcher).Quiet :=
      fun call hcall => absurd hcall List.not_mem_nil
    rintro ⟨before, event, after, heq, hneglects⟩
    exact hpunctual hquiet hsteps ⟨before, event, after, heq, Or.inl hneglects⟩
  have hsettled : store.IsSettled := by
    refine Simulation.isSettled_run steps fun sweeper hlive => ?_
    obtain rfl := Option.some.inj hlive
    exact Nat.lt_of_lt_of_le config.sweepInterval_pos (Nat.le_add_left _ _)
  have hstore : store = ((Session.new config dispatcher).run events).resolver.store :=
    congrArg (·.resolver.store) hevents
  rw [hstore] at hsettled hfind ⊢
  exact hsession events hnot hsettled hfind

/-- The sweeper is to come every two and a half milliseconds. -/
def quickly : Config := ⟨Duration.ofMillis 5, none⟩

/-- A session in which it does so. -/
def quick : Session := .new quickly (.ofFallback ⟨"docker", fun _ => true⟩)

/-- Timers fire at whole milliseconds, so the sweeper makes its first pass half a millisecond late.
The entry is young then, and still at the second deadline, at 5 ms. -/
def lateHalves : List Session.Event :=
  [.act (.elapse 1000000), .act (.insert "nginx" []), .act (.elapse 2000000), .act .tick,
    .act (.elapse 2000000), .act .tick, .act (.elapse 2000000)]

/-- The same as steps of a simulation. -/
def lateHalfSteps : List Simulation.Step :=
  [.command (.sleep 1000000), .command (.insert "nginx" []), .command (.sleep 6000000)]

theorem lifetime_bounded_of_late_halves :
    (¬ Session.Occurs quick lateHalves Session.Neglects ∧
      (quick.run lateHalves).resolver.store.IsSettled ∧
      (quick.run lateHalves).resolver.store.cache.find? "nginx" = some ⟨1000000, []⟩ ∧
      (quick.run lateHalves).resolver.store.now - 1000000 <
        quickly.cacheTtl + quickly.sweepInterval) ∧
    (∀ step ∈ lateHalfSteps, step.IsPunctual) ∧
      let store := (Simulation.run ⟨quick, fun _ => ⟨⟨0, .ok []⟩, []⟩⟩ lateHalfSteps).store
      store.cache.size = 1 ∧ ∀ url entry, store.cache.find? url = some entry →
        store.now - entry.storedAt < quickly.cacheTtl + quickly.sweepInterval := by
  obtain ⟨hsession, hsimulation⟩ :=
    lifetime_bounded quickly (.ofFallback ⟨"docker", fun _ => true⟩)
  have hnot : ¬ Session.Occurs quick lateHalves Session.Neglects := by decide
  have hsettled : (quick.run lateHalves).resolver.store.IsSettled := by decide
  have hfind : (quick.run lateHalves).resolver.store.cache.find? "nginx" = some ⟨1000000, []⟩ := by
    decide
  have hsteps : ∀ step ∈ lateHalfSteps, step.IsPunctual := by
    simp [lateHalfSteps, Simulation.Step.IsPunctual, TagStore.Command.IsPunctual]
  have hage := hsession lateHalves hnot hsettled "nginx" ⟨1000000, []⟩ hfind
  refine ⟨⟨hnot, hsettled, hfind, hage⟩, hsteps, ?_⟩
  have hsize : (Simulation.run ⟨quick, fun _ => ⟨⟨0, .ok []⟩, []⟩⟩ lateHalfSteps).store.cache.size =
      1 := by
    cbv
  exact ⟨hsize, hsimulation _ lateHalfSteps hsteps⟩

end LatestTag
