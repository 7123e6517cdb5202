import LatestTag.Proofs.Separation

/-!
# Simulations put nothing off

A simulation does what there is to do at every instant, in order, before it lets time pass. This
file says that its session goes through a timely run, and so does what the run has for each image:

> `exists_timely_run`: a simulation takes a new session through a run that is timely, also for every
> single image, if no step makes the clock jump by a part of a millisecond.

The clock of such a simulation stands at whole milliseconds only (`Session.IsWhole`), because timers
fire then, and whoever waits waits for a timer. At such an instant the timer of a sweeper has fired
if its deadline has come.
-/

namespace LatestTag

/-! ## Whole milliseconds -/

namespace Duration

variable {now : Nat}

theorem dvd_fire (h : millisecond ∣ now) (due : Nat) : millisecond ∣ fire now due := by
  have htick := dvd_toTick due
  unfold fire millisecond microsecond at *
  omega

theorem dvd_afterWait (h : millisecond ∣ now) (duration : Nat) :
    millisecond ∣ afterWait now duration := by
  unfold afterWait
  split
  · exact h
  · exact dvd_fire h _

end Duration

/-- What is picked out of instants is one of them. -/
theorem dvd_foldl {pick : Nat → Nat → Nat} {unit first : Nat} {times : List Nat}
    (hpick : ∀ a b, pick a b = a ∨ pick a b = b) (hfirst : unit ∣ first)
    (htimes : ∀ time ∈ times, unit ∣ time) : unit ∣ times.foldl pick first := by
  induction times generalizing first with
  | nil => exact hfirst
  | cons time times ih =>
    refine ih ?_ fun later hlater => htimes later (List.mem_cons_of_mem _ hlater)
    rcases hpick first time with heq | heq
    · rwa [heq]
    · rw [heq]
      exact htimes time List.mem_cons_self

theorem dvd_max {unit a b : Nat} (ha : unit ∣ a) (hb : unit ∣ b) : unit ∣ max a b := by
  rcases Nat.le_total a b with hle | hle
  · rwa [Nat.max_eq_right hle]
  · rwa [Nat.max_eq_left hle]

/-- A fetch that begins at a whole millisecond ends at one. -/
theorem Fetch.dvd_ending {fetch : Fetch} (h : Duration.millisecond ∣ fetch.began) :
    Duration.millisecond ∣ fetch.ending := by
  have htimer (timer : Option Nat) :
      ∀ time ∈ (timer.map (Duration.wake fetch.began)).toList, Duration.millisecond ∣ time := by
    intro time htime
    obtain ⟨duration, -, rfl⟩ := Option.map_eq_some_iff.1 (Option.mem_toList.1 htime)
    exact Duration.dvd_fire h _
  refine dvd_foldl (fun a b => by omega) (Duration.dvd_afterWait h _) fun time htime => ?_
  rcases List.mem_append.1 htime with hsignal | htimeout
  · exact htimer fetch.signal time hsignal
  · exact htimer fetch.timeout time htimeout

/-! ## Stores -/

namespace TagStore

/-- The action goes on by itself before the limit: the sweeper makes a pass, or time passes while
there is nothing to do for it. -/
def Proceeds (limit : Nat) (store : TagStore) : Action → Prop
  | .tick => store.now < limit
  | .elapse duration => 0 < duration → store.IsSettled ∧ store.now + duration ≤ limit
  | .insert _ _ | .remove _ | .clear | .sweep _ | .spawn _ | .stop => False

theorem now_settle (store : TagStore) : store.settle.now = store.now := by
  unfold settle
  cases store.live? <;> rfl

theorem now_approach (store : TagStore) (time : Nat) :
    (store.approach time).now = max store.now time := by
  fun_induction store.approach time with
  | case1 store sweeper hlive hlt ih =>
    have hfire : store.now ≤ Duration.fire store.now sweeper.deadline := Nat.le_max_left _ _
    have hnow : (store.moveTo (Duration.fire store.now sweeper.deadline)).settle.now =
        max store.now (Duration.fire store.now sweeper.deadline) := now_settle _
    rw [ih, hnow]
    omega
  | case2 => rfl
  | case3 => rfl

/-- At a whole millisecond the sweeper has nothing to do while its timer is still to fire. -/
theorem leads_moveTo_of_dvd {limit : Nat} (store : TagStore) {time : Nat}
    (hnow : Duration.millisecond ∣ store.now) (hlimit : time ≤ limit)
    (hsweeper : ∀ sweeper ∈ store.live?, time ≤ Duration.fire store.now sweeper.deadline) :
    Leads step (fun store action => ¬ store.Proceeds limit action) store (store.moveTo time) := by
  rw [moveTo_eq_step]
  refine .single (not_not_intro fun hpos => ⟨fun sweeper hlive => ?_, by omega⟩)
  have hle := hsweeper sweeper hlive
  by_contra hdue
  have hfire : Duration.fire store.now sweeper.deadline = store.now := by
    have htick := Duration.toTick_lt sweeper.deadline
    have hdvd := Duration.dvd_toTick sweeper.deadline
    unfold Duration.fire Duration.millisecond Duration.microsecond at *
    omega
  omega

theorem leads_approach_of_dvd (store : TagStore) (time : Nat)
    (hnow : Duration.millisecond ∣ store.now) :
    Leads step (fun store action => ¬ store.Proceeds time action) store (store.approach time) := by
  fun_induction store.approach time with
  | case1 store sweeper hlive hlt ih =>
    have hfire := Duration.dvd_fire hnow sweeper.deadline
    have hle : store.now ≤ Duration.fire store.now sweeper.deadline := Nat.le_max_left _ _
    have hmoved : (store.moveTo (Duration.fire store.now sweeper.deadline)).now =
        Duration.fire store.now sweeper.deadline := Nat.max_eq_right hle
    have hmove : Leads step (fun store action => ¬ store.Proceeds time action) store
        (store.moveTo (Duration.fire store.now sweeper.deadline)) := by
      refine leads_moveTo_of_dvd store hnow (Nat.le_of_lt hlt) fun other hother => ?_
      obtain rfl := Option.some.inj (hlive.symm.trans hother)
      exact Nat.le_refl _
    have hpasses : Leads step (fun store action => ¬ store.Proceeds time action)
        (store.moveTo (Duration.fire store.now sweeper.deadline))
        (store.moveTo (Duration.fire store.now sweeper.deadline)).settle := by
      refine leads_settle _ fun other hother => not_not_intro ?_
      show other.now < time
      rw [hother, hmoved]
      exact hlt
    refine hmove.trans (hpasses.trans (ih ?_))
    rw [now_settle, hmoved]
    exact hfire
  | case2 store sweeper hlive hlt =>
    refine leads_moveTo_of_dvd store hnow (Nat.le_refl time) fun other hother => ?_
    obtain rfl := Option.some.inj (hlive.symm.trans hother)
    exact Nat.le_of_not_lt hlt
  | case3 store hlive =>
    refine leads_moveTo_of_dvd store hnow (Nat.le_refl time) fun other hother => ?_
    exact absurd (hlive.symm.trans hother) (by simp)

/-- The command does not make the clock jump by a part of a millisecond. -/
def Command.IsWhole : Command → Prop
  | .jump duration => Duration.millisecond ∣ duration
  | .get _ | .insert _ _ | .remove _ | .clear | .sweepNow | .sweepAt _ | .sleep _ | .spawn _ | .stop
  | .ttl => True

end TagStore

/-! ## Sessions -/

namespace Session

variable {session start : Session} {store : TagStore} {action : TagStore.Action} {event : Event}
  {events : List Event} {position time limit : Nat} {clients : Clients}

/-- The clock stands at a whole millisecond, and calls go on at such instants. -/
structure IsWhole (session : Session) : Prop where
  now : Duration.millisecond ∣ session.resolver.store.now
  wake : ∀ call ∈ session.calls, ∀ wake ∈ call.wake?, Duration.millisecond ∣ wake

/-- The event puts something off. -/
def PutsOff (session : Session) (event : Event) : Prop := ¬ session.Admits event

theorem isTimely_iff : start.IsTimely events ↔
    ¬ Happens step start events PutsOff ∧ (start.run events).IsIdle := by
  induction events generalizing start with
  | nil => exact ⟨fun h => ⟨not_happens_nil, h⟩, fun h => h.2⟩
  | cons event events ih =>
    rw [IsTimely, ih, happens_cons, not_or, PutsOff, not_not, and_assoc]
    rfl

/-- What goes on by itself before calls can go on puts nothing off. -/
theorem admits_of_proceeds
    (hlimit : ∀ call ∈ session.calls, ∀ wake ∈ call.wake?, limit ≤ max store.now wake)
    (h : store.Proceeds limit action) : (session.withStore store).Admits (.act action) := by
  have hcalls (hlt : store.now < limit) : (session.withStore store).due? = none := by
    refine List.findIdx?_eq_none_iff.2 fun call hcall => ?_
    show call.isDue store.now = false
    unfold Call.isDue
    cases hwake : call.wake? with
    | none => rfl
    | some wake =>
      have hle := hlimit call hcall wake hwake
      exact decide_eq_false (by omega)
  cases action with
  | tick => exact hcalls h
  | elapse duration =>
    intro hpos
    obtain ⟨hsettled, hle⟩ := h hpos
    exact ⟨hcalls (by omega), hsettled⟩
  | insert | remove | clear | sweep | spawn | stop => exact h.elim

/-- Up to the limit a store may go on by itself. -/
theorem leads_withStore_of_proceeds
    (hlimit : ∀ call ∈ session.calls, ∀ wake ∈ call.wake?,
      limit ≤ max session.resolver.store.now wake)
    (h : Leads TagStore.step (fun store action => ¬ store.Proceeds limit action)
      session.resolver.store store) :
    Leads step PutsOff session (session.withStore store) := by
  refine session.leads_withStore h fun hle hputs hproceeds => hputs ?_
  refine admits_of_proceeds (fun call hcall wake hwake => ?_) hproceeds
  have hbefore := hlimit call hcall wake hwake
  omega

theorem due?_of_next? (h : session.next? = some (position, time)) (hnow : store.now = time) :
    (session.withStore store).due? = some position := by
  obtain ⟨⟨call, wake, hcall, hwake, htime⟩, hfirst⟩ := spec_next? h
  obtain ⟨hlt, rfl⟩ := List.getElem?_eq_some_iff.1 hcall
  refine List.findIdx?_eq_some_iff_getElem.2 ⟨hlt, ?_, fun i hi => ?_⟩
  · show (session.calls[position]).isDue store.now = true
    unfold Call.isDue
    rw [hwake, hnow]
    exact decide_eq_true (by omega)
  · show ¬ (session.calls[i]).isDue store.now = true
    unfold Call.isDue
    cases hother : session.calls[i].wake? with
    | none => exact Bool.false_ne_true
    | some other =>
      have hlater := (hfirst i _ other (List.getElem?_eq_getElem (Nat.lt_trans hi hlt)) hother).2 hi
      rw [hnow]
      exact fun hdue => absurd (of_decide_eq_true hdue) (by omega)

theorem IsWhole.withStore (h : session.IsWhole) (hnow : Duration.millisecond ∣ store.now) :
    (session.withStore store).IsWhole :=
  ⟨hnow, h.wake⟩

/-- A call that goes on at a whole millisecond does so again at one, if it does. -/
theorem dvd_of_turn {resolver later : Resolver} {call next : Call}
    (hturn : resolver.Turn call clients later next)
    (hnow : Duration.millisecond ∣ resolver.store.now)
    (hwake : ∀ wake ∈ call.wake?, Duration.millisecond ∣ wake) :
    ∀ wake ∈ next.wake?, Duration.millisecond ∣ wake := by
  cases hturn with
  | idle => exact hwake
  | @waits fetch hfetch =>
    intro wake hnext
    obtain rfl := Option.some.inj hnext
    unfold Resolver.fetch? at hfetch
    split at hfetch
    next =>
      -- the fetch begins now
      obtain ⟨-, hbegins⟩ := Option.ite_none_right_eq_some.1 hfetch
      obtain rfl := Option.some.inj hbegins
      exact Fetch.dvd_ending hnow
    next other hprogress =>
      obtain rfl := Option.some.inj hfetch
      exact hwake _ (by simp [Call.wake?, hprogress])
    next => exact absurd hfetch (by simp)
  | immediate | fails | misses | stores =>
    exact fun wake hnext => absurd hnext (by simp [Resolver.ended, Call.wake?])

theorem IsWhole.poll (h : session.IsWhole) (position : Nat) (clients : Clients) :
    (session.poll position clients).IsWhole := by
  rcases session.poll_cases position clients with
    ⟨-, hpoll⟩ | ⟨call, later, next, hcall, hturn, hpoll⟩
  · rw [hpoll]
    exact h
  · rw [hpoll]
    refine ⟨hturn.frame.2.2.1 ▸ h.now, fun other hother => ?_⟩
    rcases List.mem_or_eq_of_mem_set hother with hold | rfl
    · exact h.wake other hold
    · exact dvd_of_turn hturn h.now (h.wake call (List.mem_of_getElem? hcall))

/-- No call is under way, there is nothing to do, and the clock stands at a whole millisecond. -/
structure IsAtRest (session : Session) : Prop where
  quiet : session.Quiet
  settled : session.resolver.store.IsSettled
  whole : Duration.millisecond ∣ session.resolver.store.now

theorem Quiet.isWhole (h : session.Quiet) (hnow : Duration.millisecond ∣ session.resolver.store.now) :
    session.IsWhole :=
  ⟨hnow, fun call hcall wake hwake => by rw [h call hcall] at hwake; exact absurd hwake (by simp)⟩

theorem IsAtRest.isIdle (h : session.IsAtRest) : session.IsIdle := by
  refine ⟨List.findIdx?_eq_none_iff.2 fun call hcall => ?_, h.settled⟩
  rw [Call.isDue, h.quiet call hcall]
  rfl

theorem isAtRest_new (config : Config) (dispatcher : Dispatcher) :
    (new config dispatcher).IsAtRest := by
  refine ⟨fun call hcall => absurd hcall List.not_mem_nil, fun sweeper hlive => ?_, Nat.dvd_zero _⟩
  obtain rfl := Option.some.inj hlive
  exact Nat.lt_of_lt_of_le config.sweepInterval_pos (Nat.le_add_left _ _)

/-- While no call is under way the store may go on by itself for as long as it likes. -/
theorem Quiet.leads (h : session.Quiet)
    (hstore : Leads TagStore.step (fun store action => ¬ store.Proceeds limit action)
      session.resolver.store store) : Leads step PutsOff session (session.withStore store) := by
  refine leads_withStore_of_proceeds (fun call hcall wake hwake => ?_) hstore
  rw [h call hcall] at hwake
  exact absurd hwake (by simp)

theorem Quiet.leads_settle (h : session.Quiet) :
    Leads step PutsOff session (session.withStore session.resolver.store.settle) := by
  have hpasses : Leads TagStore.step
      (fun store action => ¬ store.Proceeds (session.resolver.store.now + 1) action)
      session.resolver.store session.resolver.store.settle := by
    refine session.resolver.store.leads_settle fun other hother => not_not_intro ?_
    show other.now < _
    rw [hother]
    exact Nat.lt_succ_self _
  exact h.leads hpasses

/-! ## One image -/

variable {other : Event} {url : String} {call : Call}

/-- The call that goes first goes first among those about its image. -/
theorem due?_only (h : session.due? = some position) (hcall : session.calls[position]? = some call)
    (hurl : call.request.url = url) :
    (session.only url).due? = some (session.rank url position) :=
  findIdx?_filter_countP h hcall (beq_iff_eq.2 hurl)

theorem due?_only_of_none (h : session.due? = none) : (session.only url).due? = none := by
  refine List.findIdx?_eq_none_iff.2 fun call hcall => ?_
  exact List.findIdx?_eq_none_iff.1 h call (List.mem_filter.1 hcall).1

theorem IsIdle.only (h : session.IsIdle) (url : String) : (session.only url).IsIdle :=
  ⟨due?_only_of_none h.calls, h.sweeper⟩

/-- What puts nothing off puts nothing off for an image. -/
theorem Admits.only (h : session.Admits event) (habout : session.about? url event = some other) :
    (session.only url).Admits other := by
  cases event with
  | act action =>
    obtain ⟨-, rfl⟩ := about?_act_eq_some_iff.1 habout
    cases action with
    | tick => exact due?_only_of_none h
    | elapse duration => exact fun hpos => (h hpos).only url
    | insert | remove | clear | sweep | spawn | stop => exact IsIdle.only h url
  | call request begins =>
    obtain ⟨-, rfl⟩ := about?_call_eq_some_iff.1 habout
    exact h
  | poll position clients =>
    obtain ⟨call, hcall, hurl, -, rfl⟩ := about?_poll_eq_some_iff.1 habout
    exact due?_only h hcall hurl

/-- **What a timely run has for an image** is timely. -/
theorem IsTimely.isTimelyFor (h : start.IsTimely events) (url : String) :
    start.IsTimelyFor url events := by
  induction events generalizing start with
  | nil => exact IsIdle.only h url
  | cons event events ih =>
    have hrest : ((start.step event).only url).IsTimely ((start.step event).about url events) :=
      ih h.2
    rw [IsTimelyFor, about]
    cases habout : start.about? url event with
    | none =>
      rw [step_only_of_none habout] at hrest
      exact hrest
    | some other =>
      rw [step_only habout] at hrest
      exact ⟨Admits.only h.1 habout, hrest⟩

end Session

/-! ## Simulations -/

namespace Simulation

variable {sim : Simulation}

theorem leads_finish_of_isWhole (sim : Simulation) (h : sim.session.IsWhole) :
    Leads Session.step Session.PutsOff sim.session sim.finish.session ∧
      Duration.millisecond ∣ sim.finish.store.now := by
  fun_induction Simulation.finish sim with
  | case1 sim position time hnext ih =>
    obtain ⟨⟨call, wake, hcall, hwake, htime⟩, -⟩ := Session.spec_next? hnext
    have hle : sim.store.now ≤ time := htime ▸ Nat.le_max_left _ _
    have hdvd : Duration.millisecond ∣ time := by
      rw [htime]
      exact dvd_max h.now (h.wake call (List.mem_of_getElem? hcall) wake hwake)
    have hnow : (sim.store.approach time).now = time := by
      rw [TagStore.now_approach, Nat.max_eq_right hle]
    have happroach : Leads Session.step Session.PutsOff sim.session
        (sim.withStore (sim.store.approach time)).session :=
      Session.leads_withStore_of_proceeds (Session.le_of_next? hnext)
        (sim.store.leads_approach_of_dvd time h.now)
    have hwhole : (sim.withStore (sim.store.approach time)).session.IsWhole :=
      h.withStore (hnow.symm ▸ hdvd)
    have hpoll : Leads Session.step Session.PutsOff
        (sim.withStore (sim.store.approach time)).session
        ((sim.withStore (sim.store.approach time)).poll position).session := by
      have hadmits : (sim.withStore (sim.store.approach time)).session.Admits
          (.poll position (sim.withStore (sim.store.approach time)).clients) :=
        Session.due?_of_next? hnext hnow
      rw [session_poll]
      exact (Leads.refl _).cons (not_not_intro hadmits)
    obtain ⟨hrest, hlast⟩ := ih (by rw [session_poll]; exact hwhole.poll _ _)
    exact ⟨happroach.trans (hpoll.trans hrest), hlast⟩
  | case2 sim hnext =>
    refine ⟨(Session.quiet_of_next? hnext).leads_settle, ?_⟩
    show Duration.millisecond ∣ sim.store.settle.now
    rw [TagStore.now_settle]
    exact h.now

/-- Calls for jobs may all be made before the first of them goes on. -/
theorem leads_calls_of_isWhole (sim : Simulation) (jobs : List Job)
    (hsettled : sim.store.IsSettled) (h : sim.session.IsWhole) :
    Leads Session.step Session.PutsOff sim.session (jobs.foldl call sim).session ∧
      (jobs.foldl call sim).session.IsWhole := by
  induction jobs generalizing sim with
  | nil => exact ⟨.refl _, h⟩
  | cons job jobs ih =>
    rw [List.foldl_cons]
    cases hrequest : job.request with
    | error invalid =>
      have hcall : sim.call job = sim := by rw [call, hrequest]
      rw [hcall]
      exact ih sim hsettled h
    | ok request =>
      have hcall : sim.call job =
          ⟨sim.session.call request (Duration.afterWait sim.store.now job.delay), sim.scripts⟩ := by
        rw [call, hrequest]
      have hwhole : (sim.call job).session.IsWhole := by
        rw [hcall]
        refine ⟨h.now, fun other hother => ?_⟩
        rcases List.mem_append.1 hother with hold | hnew
        · exact h.wake other hold
        · obtain rfl := List.mem_singleton.1 hnew
          intro wake hwake
          obtain rfl := Option.some.inj hwake
          exact Duration.dvd_afterWait h.now _
      obtain ⟨hrest, hlast⟩ := ih (sim.call job) (by rw [hcall]; exact hsettled) hwhole
      have hadmits : sim.session.Admits
          (.call request (Duration.afterWait sim.store.now job.delay)) := hsettled
      rw [hcall] at hrest hlast ⊢
      exact ⟨hrest.cons (not_not_intro hadmits), hlast⟩

/-- **Jobs** put nothing off, and leave the session at rest. -/
theorem leads_perform_of_isAtRest (sim : Simulation) (jobs : List Job)
    (h : sim.session.IsAtRest) :
    Leads Session.step Session.PutsOff sim.session (sim.perform jobs).1.session ∧
      (sim.perform jobs).1.session.IsAtRest := by
  obtain ⟨hcalls, hwhole⟩ := sim.leads_calls_of_isWhole jobs h.settled (h.quiet.isWhole h.whole)
  obtain ⟨hfinish, hnow⟩ := (jobs.foldl call sim).leads_finish_of_isWhole hwhole
  have hquiet := (jobs.foldl call sim).quiet_finish
  have hperform : (sim.perform jobs).1.session =
      (jobs.foldl call sim).finish.session.withStore ((jobs.foldl call sim).finish.store.approach
        ((jobs.filterMap sim.failure?).foldl max (jobs.foldl call sim).finish.store.now)).settle :=
    rfl
  rw [hperform]
  generalize (jobs.foldl call sim).finish = ended at *
  have hlast : Duration.millisecond ∣
      (jobs.filterMap sim.failure?).foldl max ended.store.now := by
    refine dvd_foldl (fun a b => by omega) hnow fun time htime => ?_
    obtain ⟨job, -, hfailure⟩ := List.mem_filterMap.1 htime
    unfold failure? at hfailure
    split at hfailure
    next => exact absurd hfailure (by simp)
    next =>
      obtain rfl := Option.some.inj hfailure
      exact Duration.dvd_afterWait h.whole _
  generalize (jobs.filterMap sim.failure?).foldl max ended.store.now = last at *
  have hwait := hquiet.leads (ended.store.leads_approach_of_dvd last hnow)
  have hquiet' : (ended.session.withStore (ended.store.approach last)).Quiet := hquiet
  refine ⟨hcalls.trans (hfinish.trans (hwait.trans hquiet'.leads_settle)), hquiet,
    TagStore.isSettled_settle _, ?_⟩
  show Duration.millisecond ∣ (ended.store.approach last).settle.now
  rw [TagStore.now_settle, TagStore.now_approach]
  exact dvd_max hnow hlast

/-- **A command** puts nothing off, and leaves the session at rest. -/
theorem leads_command_of_isAtRest (sim : Simulation) {command : TagStore.Command}
    (h : sim.session.IsAtRest) (hwhole : command.IsWhole) :
    Leads Session.step Session.PutsOff sim.session
        (sim.session.withStore (sim.store.perform command)) ∧
      (sim.session.withStore (sim.store.perform command)).IsAtRest := by
  have hrest {later : TagStore} (hlater : Leads Session.step Session.PutsOff sim.session
      (sim.session.withStore later.settle)) (hnow : Duration.millisecond ∣ later.now) :
      Leads Session.step Session.PutsOff sim.session (sim.session.withStore later.settle) ∧
        (sim.session.withStore later.settle).IsAtRest := by
    refine ⟨hlater, h.quiet, TagStore.isSettled_settle _, ?_⟩
    show Duration.millisecond ∣ later.settle.now
    rwa [TagStore.now_settle]
  have hact (action : TagStore.Action) (hadmits : sim.session.Admits (.act action))
      (hnow : Duration.millisecond ∣ (sim.store.step action).now) :
      Leads Session.step Session.PutsOff sim.session
          (sim.session.withStore (sim.store.step action).settle) ∧
        (sim.session.withStore (sim.store.step action).settle).IsAtRest := by
    have hquiet : (sim.session.step (.act action)).Quiet := h.quiet
    exact hrest (hquiet.leads_settle.cons (not_not_intro hadmits)) hnow
  cases command with
  | get url => exact hrest h.quiet.leads_settle h.whole
  | ttl => exact hrest h.quiet.leads_settle h.whole
  | insert url tags => exact hact (.insert url tags) h.isIdle h.whole
  | remove url => exact hact (.remove url) h.isIdle h.whole
  | clear => exact hact .clear h.isIdle h.whole
  | sweepNow => exact hact (.sweep sim.store.now) h.isIdle h.whole
  | sweepAt time => exact hact (.sweep time) h.isIdle h.whole
  | jump duration => exact hact (.elapse duration) (fun _ => h.isIdle) (Nat.dvd_add h.whole hwhole)
  | spawn interval => exact hact (.spawn interval) h.isIdle h.whole
  | stop => exact hact .stop h.isIdle h.whole
  | sleep duration =>
    have hwake := Duration.dvd_fire h.whole
      (sim.store.now + min duration Duration.longestWait)
    have hwait := h.quiet.leads
      (sim.store.leads_approach_of_dvd (Duration.wake sim.store.now duration) h.whole)
    have hquiet : (sim.session.withStore
        (sim.store.approach (Duration.wake sim.store.now duration))).Quiet := h.quiet
    refine hrest (hwait.trans hquiet.leads_settle) ?_
    rw [TagStore.now_approach]
    exact dvd_max h.whole hwake

/-- The step does not make the clock jump by a part of a millisecond. -/
def Step.IsWhole : Step → Prop
  | .command request => request.IsWhole
  | .jobs _ | .script _ _ => True

/-- **A simulation** that is at rest puts nothing off, and is at rest again in the end. -/
theorem leads_run_of_isAtRest (sim : Simulation) (steps : List Step) (h : sim.session.IsAtRest)
    (hsteps : ∀ step ∈ steps, step.IsWhole) :
    Leads Session.step Session.PutsOff sim.session (sim.run steps).session ∧
      (sim.run steps).session.IsAtRest := by
  induction steps generalizing sim with
  | nil => exact ⟨.refl _, h⟩
  | cons step steps ih =>
    have hstep : Leads Session.step Session.PutsOff sim.session (sim.step step).1.session ∧
        (sim.step step).1.session.IsAtRest := by
      cases step with
      | command command => exact sim.leads_command_of_isAtRest h (hsteps _ List.mem_cons_self)
      | jobs jobs => exact sim.leads_perform_of_isAtRest jobs h
      | script client script => exact ⟨.refl _, h⟩
    obtain ⟨hrest, hlast⟩ := ih (sim.step step).1 hstep.2 fun later hlater =>
      hsteps later (List.mem_cons_of_mem _ hlater)
    exact ⟨hstep.1.trans hrest, hlast⟩

/-- **Simulations put nothing off.** One whose clock keeps to whole milliseconds takes a new session
through a timely run, and what that has for an image is timely as well. -/
theorem exists_timely_run (config : Config) (dispatcher : Dispatcher)
    (scripts : Option Nat → Script) (steps : List Step) (hsteps : ∀ step ∈ steps, step.IsWhole) :
    ∃ events, (run ⟨.new config dispatcher, scripts⟩ steps).session =
        (Session.new config dispatcher).run events ∧
      (Session.new config dispatcher).IsTimely events ∧
      ∀ url, (Session.new config dispatcher).IsTimelyFor url events := by
  obtain ⟨⟨events, hevents, hnot⟩, hlast⟩ := leads_run_of_isAtRest
    ⟨.new config dispatcher, scripts⟩ steps (Session.isAtRest_new config dispatcher) hsteps
  have hidle : ((Session.new config dispatcher).run events).IsIdle := by
    rw [Session.run, hevents]
    exact hlast.isIdle
  have htimely := Session.isTimely_iff.2 ⟨hnot, hidle⟩
  exact ⟨events, hevents.symm, htimely, fun url => htimely.isTimelyFor url⟩

end Simulation

end LatestTag
