import LatestTag.Proofs.Latest
import LatestTag.Proofs.Occurrences
import LatestTag.Simulation

/-!
# Timely schedules are runs

What is proved of runs is meant for all schedules, and so for the timely one as well, where no timer
is late: there the sweeper passes all deadlines that have come (`TagStore.settle`), also while time
passes (`TagStore.approach`), and calls go on as soon as they can (`Simulation.finish`).

> `exists_run`: whatever a simulation does, its session has gone through a run. If no step of it
> makes the clock jump or touches the sweeper itself, nothing in that run is late: time never passes
> a timer, be it the sweeper's (`TagStore.Neglects`) or a call's (`Session.Overtakes`).

Timely work is a recursion over deadlines and over calls, and each of its steps is an action or an
event; so the proofs follow these recursions and put runs together (`Leads.trans`).
-/

namespace LatestTag

/-- Some steps lead from the state to the later one, and none of them is of the kind. -/
def Leads {State Step : Type} (next : State → Step → State) (kind : State → Step → Prop)
    (state later : State) : Prop :=
  ∃ steps : List Step, steps.foldl next state = later ∧ ¬ Happens next state steps kind

section Leads

variable {State Step : Type} {next : State → Step → State} {kind : State → Step → Prop}
  {state later last : State}

theorem Leads.refl (state : State) : Leads next kind state state := ⟨[], rfl, not_happens_nil⟩

theorem Leads.cons {step : Step} (hstep : ¬ kind state step)
    (h : Leads next kind (next state step) later) : Leads next kind state later := by
  obtain ⟨steps, hlater, hnot⟩ := h
  refine ⟨step :: steps, hlater, fun hkind => ?_⟩
  rcases happens_cons.1 hkind with hfirst | hrest
  · exact hstep hfirst
  · exact hnot hrest

theorem Leads.single {step : Step} (hstep : ¬ kind state step) :
    Leads next kind state (next state step) :=
  (Leads.refl _).cons hstep

theorem Leads.trans (h : Leads next kind state later) (h' : Leads next kind later last) :
    Leads next kind state last := by
  obtain ⟨steps, rfl, hnot⟩ := h
  induction steps generalizing state with
  | nil => exact h'
  | cons step steps ih =>
    rw [happens_cons, not_or] at hnot
    exact (ih hnot.2 h').cons hnot.1

theorem Leads.mono {kind' : State → Step → Prop} (h : Leads next kind state later)
    (hkind : ∀ {state step}, kind' state step → kind state step) :
    Leads next kind' state later := by
  obtain ⟨steps, hlater, hnot⟩ := h
  refine ⟨steps, hlater, fun hhappens => hnot ?_⟩
  obtain ⟨before, step, after, hsteps, hstep⟩ := hhappens
  exact ⟨before, step, after, hsteps, hkind hstep⟩

end Leads

/-! ## Stores -/

namespace TagStore

/-- The action keeps the sweeper from its work: time passes the instant when its timer fires, or the
sweeper is stopped or replaced. -/
def Neglects (store : TagStore) : Action → Prop
  | .elapse duration =>
    ∃ sweeper ∈ store.live?, Duration.fire store.now sweeper.deadline < store.now + duration
  | .spawn _ | .stop => True
  | .insert _ _ | .remove _ | .clear | .sweep _ | .tick => False

/-- The action does so, or time passes another limit. -/
def Misses (limit : Nat) (store : TagStore) (action : Action) : Prop :=
  store.Neglects action ∨
    ∃ duration, action = .elapse duration ∧ max store.now limit < store.now + duration

theorem step_tick_of_due {cache : Cache} {now : Nat} {sweeper : Sweeper}
    (hdue : sweeper.deadline ≤ now) : step ⟨cache, now, some (.live sweeper)⟩ .tick =
      ⟨cache.sweep sweeper.deadline, now, some (.live (sweeper.advance now))⟩ :=
  if_pos hdue

theorem not_misses_tick {limit : Nat} {store : TagStore} : ¬ store.Misses limit .tick := by
  rintro (hneglects | ⟨duration, heq, -⟩)
  · exact hneglects
  · exact absurd heq (by simp)

/-- The passes that a sweeper makes are ticks, one for each deadline that has come. -/
theorem leads_due {kind : TagStore → Action → Prop} (cache : Cache) (sweeper : Sweeper) (now : Nat)
    (htick : ∀ store : TagStore, store.now = now → ¬ kind store .tick) :
    Leads step kind ⟨cache, now, some (.live sweeper)⟩
      ⟨(sweeper.due now).1.foldl Cache.sweep cache, now, some (.live (sweeper.due now).2)⟩ := by
  fun_induction sweeper.due now generalizing cache with
  | case1 sweeper hdue times later heq ih =>
    have hrest := ih (cache.sweep sweeper.deadline)
    rw [heq, ← step_tick_of_due hdue] at hrest
    exact hrest.cons (htick _ rfl)
  | case2 sweeper hdue => exact .refl _

theorem leads_settle {kind : TagStore → Action → Prop} (store : TagStore)
    (htick : ∀ other : TagStore, other.now = store.now → ¬ kind other .tick) :
    Leads step kind store store.settle := by
  obtain ⟨cache, now, sweeper⟩ := store
  cases sweeper with
  | none => exact .refl _
  | some handle =>
    cases handle with
    | live sweeper => exact leads_due cache sweeper now htick
    | ended => exact .refl _

theorem moveTo_eq_step (store : TagStore) (time : Nat) :
    store.moveTo time = store.step (.elapse (time - store.now)) := by
  have hnow : store.now + (time - store.now) = max store.now time := by omega
  rw [step, hnow, moveTo]

/-- Time passes, but not beyond a timer. -/
theorem leads_moveTo {limit : Nat} (store : TagStore) {time : Nat} (hlimit : time ≤ limit)
    (hsweeper : ∀ sweeper, store.live? = some sweeper →
      time ≤ Duration.fire store.now sweeper.deadline) :
    Leads step (Misses limit) store (store.moveTo time) := by
  rw [moveTo_eq_step]
  refine .single ?_
  rintro (⟨sweeper, hlive, hlt⟩ | ⟨duration, heq, hlt⟩)
  · have hle := hsweeper sweeper hlive
    have hfire : store.now ≤ Duration.fire store.now sweeper.deadline := Nat.le_max_left _ _
    omega
  · obtain rfl := Action.elapse.inj heq
    omega

theorem leads_approach (store : TagStore) (time : Nat) :
    Leads step (Misses time) store (store.approach time) := by
  fun_induction store.approach time with
  | case1 store sweeper hlive hlt ih =>
    have hmove : Leads step (Misses time) store
        (store.moveTo (Duration.fire store.now sweeper.deadline)) := by
      refine leads_moveTo store (Nat.le_of_lt hlt) fun other hother => ?_
      obtain rfl := Option.some.inj (hlive.symm.trans hother)
      exact Nat.le_refl _
    exact hmove.trans ((leads_settle _ fun _ _ => not_misses_tick).trans ih)
  | case2 store sweeper hlive hlt =>
    refine leads_moveTo store (Nat.le_refl time) fun other hother => ?_
    obtain rfl := Option.some.inj (hlive.symm.trans hother)
    exact Nat.le_of_not_lt hlt
  | case3 store hlive =>
    refine leads_moveTo store (Nat.le_refl time) fun other hother => ?_
    exact absurd (hlive.symm.trans hother) (by simp)

/-- The command leaves the clock and the sweeper to themselves. -/
def Command.IsPunctual : Command → Prop
  | .jump _ | .spawn _ | .stop => False
  | .get _ | .insert _ _ | .remove _ | .clear | .sweepNow | .sweepAt _ | .sleep _ | .ttl => True

/-- What the command itself does to the clock or to the sweeper. -/
def Command.intrusion? : Command → Option Action
  | .jump duration => some (.elapse duration)
  | .spawn interval => some (.spawn interval)
  | .stop => some .stop
  | .get _ | .insert _ _ | .remove _ | .clear | .sweepNow | .sweepAt _ | .sleep _ | .ttl => none

/-- **A command** does to a store what some actions do. Of these only its own intrusion may neglect
the sweeper. -/
theorem leads_perform_of_intrusion? {kind : TagStore → Action → Prop}
    (hkind : ∀ {store action}, kind store action → store.Neglects action) (store : TagStore)
    {command : Command} (hown : ∀ action, command.intrusion? = some action → ¬ kind store action) :
    Leads step kind store (store.perform command) := by
  have hpasses (store : TagStore) : Leads step kind store store.settle :=
    store.leads_settle fun _ _ => hkind
  have hsettle (action : Action) (hnot : ¬ kind store action) :
      Leads step kind store (store.step action).settle :=
    (hpasses _).cons hnot
  cases command with
  | get url => exact hpasses store
  | ttl => exact hpasses store
  | insert url tags => exact hsettle (.insert url tags) hkind
  | remove url => exact hsettle (.remove url) hkind
  | clear => exact hsettle .clear hkind
  | sweepNow => exact hsettle (.sweep store.now) hkind
  | sweepAt time => exact hsettle (.sweep time) hkind
  | jump duration => exact hsettle (.elapse duration) (hown _ rfl)
  | sleep duration =>
    have happroach (time : Nat) : Leads step kind store (store.approach time) :=
      (leads_approach store time).mono fun hlate => Or.inl (hkind hlate)
    exact (happroach _).trans (hpasses _)
  | spawn interval => exact hsettle (.spawn interval) (hown _ rfl)
  | stop => exact hsettle .stop (hown _ rfl)

/-- If the command is punctual, the actions do not neglect the sweeper. -/
theorem leads_perform (store : TagStore) {command : Command} {punctual : Prop}
    (h : punctual → command.IsPunctual) :
    Leads step (fun store action => punctual ∧ store.Neglects action) store
      (store.perform command) := by
  refine leads_perform_of_intrusion? And.right store fun action hintrusion hkind => ?_
  have hpunctual := h hkind.1
  cases command with
  | jump | spawn | stop => exact hpunctual
  | _ => exact absurd hintrusion (by simp [Command.intrusion?])

end TagStore

/-! ## Sessions -/

namespace Session

/-- The event keeps the sweeper from its work. -/
def Neglects (session : Session) (event : Event) : Prop :=
  ∃ action, event = .act action ∧ session.resolver.store.Neglects action

/-- Time passes the instant when the call at a position can go on. -/
def Overtakes (position : Nat) (session : Session) (event : Event) : Prop :=
  ∃ duration call wake, event = .act (.elapse duration) ∧
    session.calls[position]? = some call ∧ call.wake? = some wake ∧
    max session.resolver.store.now wake < session.resolver.store.now + duration

/-- Something is late because of the event. -/
def Delays (session : Session) (event : Event) : Prop :=
  session.Neglects event ∨ ∃ position, session.Overtakes position event

/-- All calls have ended. -/
def Quiet (session : Session) : Prop := ∀ call ∈ session.calls, call.wake? = none

theorem not_overtakes {session : Session} {event : Event} {position : Nat}
    (hne : ∀ action, event ≠ .act action) : ¬ session.Overtakes position event := by
  rintro ⟨duration, call, wake, heq, -⟩
  exact hne _ heq

/-- Calls that are made or polled delay nothing. -/
theorem not_delays {session : Session} {event : Event} (hne : ∀ action, event ≠ .act action) :
    ¬ session.Delays event := by
  rintro (⟨action, heq, -⟩ | ⟨position, hovertakes⟩)
  · exact hne action heq
  · exact not_overtakes hne hovertakes

/-- Actions on the store are events of the session. -/
theorem leads_withStore {kind : TagStore → TagStore.Action → Prop} {kind' : Session → Event → Prop}
    (session : Session) {store : TagStore}
    (h : Leads TagStore.step kind session.resolver.store store)
    (hkind : ∀ {store action}, session.resolver.store.now ≤ store.now →
      kind' (session.withStore store) (.act action) → kind store action) :
    Leads step kind' session (session.withStore store) := by
  obtain ⟨actions, rfl, hnot⟩ := h
  induction actions generalizing session with
  | nil => exact .refl _
  | cons action actions ih =>
    rw [happens_cons, not_or] at hnot
    have hrest := ih (session.step (.act action))
      (fun hle => hkind (Nat.le_trans TagStore.now_le_step hle)) hnot.2
    exact hrest.cons fun hfirst => hnot.1 (hkind (Nat.le_refl _) hfirst)

theorem neglects_of_delays {session : Session} {store : TagStore} {action : TagStore.Action}
    (hquiet : session.Quiet) (h : (session.withStore store).Delays (.act action)) :
    store.Neglects action := by
  rcases h with ⟨other, heq, hneglects⟩ | ⟨position, duration, call, wake, -, hcall, hwake, -⟩
  · rwa [Event.act.inj heq]
  · rw [hquiet call (List.mem_of_getElem? hcall)] at hwake
    exact absurd hwake (by simp)

theorem misses_of_delays {session : Session} {store : TagStore} {action : TagStore.Action}
    {limit : Nat}
    (hlimit : ∀ call ∈ session.calls, ∀ wake ∈ call.wake?, limit ≤ max store.now wake)
    (h : (session.withStore store).Delays (.act action)) : store.Misses limit action := by
  rcases h with ⟨other, heq, hneglects⟩ | ⟨position, duration, call, wake, heq, hcall, hwake, hlt⟩
  · rw [Event.act.inj heq]
    exact Or.inl hneglects
  · have hle := hlimit call (List.mem_of_getElem? hcall) wake hwake
    have hlt : max store.now wake < store.now + duration := hlt
    exact Or.inr ⟨duration, Event.act.inj heq, by omega⟩

/-- What is next is the first of the instants at which calls can go on, and of the calls that can go
on then the first one. -/
theorem spec_next? {session : Session} {position time : Nat}
    (h : session.next? = some (position, time)) :
    (∃ call wake, session.calls[position]? = some call ∧ call.wake? = some wake ∧
      time = max session.resolver.store.now wake) ∧
    ∀ (i : Nat) (call : Call) (wake : Nat), session.calls[i]? = some call →
      call.wake? = some wake → time ≤ max session.resolver.store.now wake ∧
        (i < position → time < max session.resolver.store.now wake) := by
  have hranks : Ranks fun time earliest : Nat => decide (time < earliest) := by
    constructor
    · intro a b hab
      simp only [decide_eq_true_eq, decide_eq_false_iff_not] at *
      omega
    · intro a b c hab hbc
      simp only [decide_eq_false_iff_not] at *
      omega
  -- the calls that can go on, by position, each with the instant when it does
  let waking : List (Nat × Nat) := session.calls.zipIdx.filterMap fun entry =>
    entry.1.wake?.map fun wake => (entry.2, max session.resolver.store.now wake)
  have hpositions : waking.Pairwise (·.1 < ·.1) := by
    refine pairwise_filterMap_zipIdx (fun call i entry hentry => ?_) session.calls
    obtain ⟨wake, -, rfl⟩ := Option.map_eq_some_iff.1 hentry
    rfl
  have hmem_iff (i time : Nat) : (i, time) ∈ waking ↔ ∃ call wake,
      session.calls[i]? = some call ∧ call.wake? = some wake ∧
        time = max session.resolver.store.now wake := by
    simp only [waking, List.mem_filterMap, Option.map_eq_some_iff, Prod.mk.injEq, Prod.exists,
      List.mk_mem_zipIdx_iff_getElem?]
    constructor
    · rintro ⟨call, _, hcall, wake, hwake, rfl, rfl⟩
      exact ⟨call, wake, hcall, hwake, rfl⟩
    · rintro ⟨call, wake, hcall, hwake, rfl⟩
      exact ⟨call, i, hcall, wake, hwake, rfl, rfl⟩
  obtain ⟨hmem, hfirst⟩ := (firstGreatest_eq_some_iff hranks hpositions).1 h
  have hnext := (hmem_iff position time).1 hmem
  refine ⟨hnext, fun i call wake hcall hwake => ?_⟩
  obtain ⟨hbefore, hbehind⟩ :=
    hfirst _ ((hmem_iff i _).2 ⟨call, wake, hcall, hwake, rfl⟩)
  simp only [decide_eq_true_eq, decide_eq_false_iff_not] at hbefore hbehind
  refine ⟨?_, hbefore⟩
  rcases Nat.lt_trichotomy i position with hlt | rfl | hlt
  · exact Nat.le_of_lt (hbefore hlt)
  · obtain ⟨other, _, hother, hwake', rfl⟩ := hnext
    obtain rfl := Option.some.inj (hcall.symm.trans hother)
    obtain rfl := Option.some.inj (hwake.symm.trans hwake')
    exact Nat.le_refl _
  · exact Nat.le_of_not_lt (hbehind hlt)

/-- No call can go on before what is next. -/
theorem le_of_next? {session : Session} {position time : Nat}
    (h : session.next? = some (position, time)) :
    ∀ call ∈ session.calls, ∀ wake ∈ call.wake?, time ≤ max session.resolver.store.now wake := by
  intro call hcall wake hwake
  obtain ⟨i, hi, rfl⟩ := List.getElem_of_mem hcall
  exact ((spec_next? h).2 i _ wake (List.getElem?_eq_getElem hi) hwake).1

theorem quiet_of_next? {session : Session} (h : session.next? = none) : session.Quiet := by
  intro call hcall
  obtain ⟨i, hi, rfl⟩ := List.getElem_of_mem hcall
  have hnil := List.filterMap_eq_nil_iff.1 (firstGreatest_eq_none_iff.1 h) (session.calls[i], i)
    (List.mk_mem_zipIdx_iff_getElem?.2 (List.getElem?_eq_getElem hi))
  exact Option.map_eq_none_iff.1 hnil

end Session

/-! ## Simulations -/

namespace Simulation

/-- The simulation after some steps. -/
def run (sim : Simulation) (steps : List Step) : Simulation :=
  steps.foldl (fun sim step => (sim.step step).1) sim

/-- The step leaves the clock and the sweeper to themselves. -/
def Step.IsPunctual : Step → Prop
  | .command request => request.IsPunctual
  | .jobs _ | .script _ _ => True

theorem leads_poll (sim : Simulation) (position : Nat) :
    Leads Session.step Session.Delays sim.session (sim.poll position).session := by
  rw [session_poll]
  have hnot : ¬ sim.session.Delays (.poll position sim.clients) :=
    Session.not_delays fun action => by simp
  exact .single hnot

/-- Until all calls have ended, time passes and calls are polled in turn. -/
theorem leads_finish (sim : Simulation) :
    Leads Session.step Session.Delays sim.session sim.finish.session := by
  fun_induction Simulation.finish sim with
  | case1 sim position time hnext ih =>
    have happroach : Leads Session.step Session.Delays sim.session
        (sim.withStore (sim.store.approach time)).session := by
      refine sim.session.leads_withStore (sim.store.leads_approach time) fun hle hdelays => ?_
      refine Session.misses_of_delays (fun call hcall wake hwake => ?_) hdelays
      have hnow := Session.le_of_next? hnext call hcall wake hwake
      omega
    exact happroach.trans ((leads_poll (sim.withStore (sim.store.approach time)) position).trans ih)
  | case2 sim hnext =>
    exact sim.session.leads_withStore (sim.store.leads_settle fun _ _ => id) fun _ hdelays =>
      Session.neglects_of_delays (Session.quiet_of_next? hnext) hdelays

theorem quiet_finish (sim : Simulation) : sim.finish.session.Quiet := by
  fun_induction Simulation.finish sim with
  | case1 sim position time hnext ih => exact ih
  | case2 sim hnext =>
    show sim.session.Quiet
    exact Session.quiet_of_next? hnext

theorem leads_call (sim : Simulation) (job : Job) :
    Leads Session.step Session.Delays sim.session (sim.call job).session := by
  unfold call
  split
  next request hrequest =>
    have hnot (start : Nat) : ¬ sim.session.Delays (.call request start) :=
      Session.not_delays fun action => by simp
    exact .single (hnot _)
  next => exact .refl _

theorem leads_foldl_call (sim : Simulation) (jobs : List Job) :
    Leads Session.step Session.Delays sim.session (jobs.foldl call sim).session := by
  induction jobs generalizing sim with
  | nil => exact .refl _
  | cons job jobs ih => exact (leads_call sim job).trans (ih (sim.call job))

theorem leads_perform (sim : Simulation) (jobs : List Job) :
    Leads Session.step Session.Delays sim.session (sim.perform jobs).1.session := by
  have hended := (leads_foldl_call sim jobs).trans (leads_finish _)
  exact hended.trans <| Session.leads_withStore _
    ((TagStore.leads_approach _ _).trans
      (TagStore.leads_settle _ fun _ _ => TagStore.not_misses_tick)) fun _ hdelays =>
        Or.inl (Session.neglects_of_delays (quiet_finish _) hdelays)

/-- **One step** of a simulation takes its session through a run, in which nothing is late if the
step is punctual. It ends with no call under way, as it begins. -/
theorem leads_step (sim : Simulation) (step : Step) {punctual : Prop}
    (h : punctual → sim.session.Quiet ∧ step.IsPunctual) :
    Leads Session.step (fun session event => punctual ∧ session.Delays event) sim.session
        (sim.step step).1.session ∧
      (punctual → (sim.step step).1.session.Quiet) := by
  cases step with
  | command command =>
    have hperform := sim.store.leads_perform fun hpunctual => (h hpunctual).2
    refine ⟨sim.session.leads_withStore hperform fun _ hdelays => ?_, fun hpunctual => ?_⟩
    · exact ⟨hdelays.1, Session.neglects_of_delays (h hdelays.1).1 hdelays.2⟩
    · exact (h hpunctual).1
  | jobs jobs => exact ⟨(leads_perform sim jobs).mono And.right, fun _ => quiet_finish _⟩
  | script client script => exact ⟨.refl _, fun hpunctual => (h hpunctual).1⟩

/-- **A simulation** takes its session through a run, so whatever is true of all runs is true of
simulations. If it begins with no call under way and its steps are punctual, nothing is late. -/
theorem exists_run (sim : Simulation) (steps : List Step) :
    ∃ events, (sim.run steps).session = sim.session.run events ∧
      (sim.session.Quiet → (∀ step ∈ steps, step.IsPunctual) →
        ¬ Session.Occurs sim.session events Session.Delays) := by
  have hleads {punctual : Prop}
      (h : punctual → sim.session.Quiet ∧ ∀ step ∈ steps, step.IsPunctual) :
      Leads Session.step (fun session event => punctual ∧ session.Delays event) sim.session
        (sim.run steps).session := by
    induction steps generalizing sim with
    | nil => exact .refl _
    | cons step steps ih =>
      obtain ⟨hfirst, hquiet⟩ := leads_step sim step fun hpunctual =>
        ⟨(h hpunctual).1, (h hpunctual).2 step List.mem_cons_self⟩
      exact hfirst.trans (ih (sim.step step).1 fun hpunctual =>
        ⟨hquiet hpunctual, fun later hlater => (h hpunctual).2 later (List.mem_cons_of_mem _ hlater)⟩)
  obtain ⟨events, hevents, hnot⟩ := hleads id
  refine ⟨events, hevents.symm, fun hquiet hsteps hoccurs => hnot ?_⟩
  obtain ⟨before, event, after, heq, hdelays⟩ := hoccurs
  exact ⟨before, event, after, heq, ⟨hquiet, hsteps⟩, hdelays⟩

end Simulation

end LatestTag
