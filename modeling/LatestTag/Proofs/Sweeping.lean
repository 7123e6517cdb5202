import LatestTag.Proofs.Alike
import LatestTag.Proofs.Hiding
import LatestTag.Simulation

/-!
# Nobody notices the sweeper

Take two runs that differ only in background work: in whether a sweeper runs, with which interval,
when it is stopped and when it makes its passes, and in sweeps by times that have come. This file
shows that lookups, answers and clients are the same in both, at each of the other steps:

> `sweeping_unnoticed`: runs that show the same steps give the same views, both for sessions, whose
> events come in any order, and for simulations, which are timely and follow scripts.

What differs is how many stale entries there are, and so what a sweep counts and whether there was
something to remove. The steps in common may well sweep by times that are still to come. A cache
that nobody resolves with is a session without calls.

The relation that carries this along is likeness (`TagStore.Alike`), between resolvers, sessions and
simulations in turn; `Watch.Keeps` says for each of them which steps keep it.
-/

namespace LatestTag

/-! ## Resolvers -/

/-- The resolvers cannot be told apart by calls. -/
structure Resolver.Alike (resolver other : Resolver) : Prop where
  config_eq : resolver.config = other.config
  dispatcher_eq : resolver.dispatcher = other.dispatcher
  store : resolver.store.Alike other.store

namespace Resolver.Alike

variable {resolver other : Resolver}

theorem immediate?_eq (h : Alike resolver other) (request : Request) :
    resolver.immediate? request = other.immediate? request := by
  rw [immediate?, immediate?, h.store.get?_eq]

theorem fetch_eq (h : Alike resolver other) (request : Request) (clients : Clients) :
    resolver.fetch request clients = other.fetch request clients := by
  rw [fetch, fetch, h.store.now_eq, h.dispatcher_eq, h.config_eq]

theorem asks_eq (h : Alike resolver other) (call : Call) :
    resolver.asks call = other.asks call := by
  rw [asks, asks, h.store.now_eq, h.immediate?_eq]

theorem conclude (h : Alike resolver other) (request : Request)
    (result : Except FetchError (List ImageTag)) :
    Alike (resolver.conclude request result).1 (other.conclude request result).1 ∧
      (resolver.conclude request result).2 = (other.conclude request result).2 := by
  match result with
  | .error cause => exact ⟨h, rfl⟩
  | .ok [] => exact ⟨h, rfl⟩
  | .ok (tag :: tags) => exact ⟨⟨h.config_eq, h.dispatcher_eq, h.store.insert _ _⟩, rfl⟩

theorem finish (h : Alike resolver other) (call : Call) (outcome : Outcome) :
    Alike (resolver.finish call outcome).1 (other.finish call outcome).1 ∧
      (resolver.finish call outcome).2 = (other.finish call outcome).2 := by
  refine ⟨h, ?_⟩
  rw [Resolver.finish, Resolver.finish, h.store.now_eq]

theorem await (h : Alike resolver other) (call : Call) (fetch : Fetch) :
    Alike (resolver.await call fetch).1 (other.await call fetch).1 ∧
      (resolver.await call fetch).2 = (other.await call fetch).2 := by
  rw [Resolver.await, Resolver.await, h.store.now_eq]
  cases fetch.result? other.store.now with
  | none => exact ⟨h, rfl⟩
  | some result =>
    obtain ⟨hlater, houtcome⟩ := h.conclude call.request result
    dsimp only
    rw [houtcome]
    exact hlater.finish call _

theorem begin (h : Alike resolver other) (call : Call) (clients : Clients) :
    Alike (resolver.begin call clients).1 (other.begin call clients).1 ∧
      (resolver.begin call clients).2 = (other.begin call clients).2 := by
  rw [Resolver.begin, Resolver.begin, h.immediate?_eq, h.fetch_eq]
  cases other.immediate? call.request with
  | some outcome => exact h.finish call outcome
  | none => exact h.await _ _

/-- **One poll** on alike resolvers does the same to the call and leaves the resolvers alike. -/
theorem poll (h : Alike resolver other) (call : Call) (clients : Clients) :
    Alike (resolver.poll call clients).1 (other.poll call clients).1 ∧
      (resolver.poll call clients).2 = (other.poll call clients).2 := by
  rw [Resolver.poll, Resolver.poll, h.store.now_eq]
  cases call.progress with
  | pending start =>
    by_cases hstart : start ≤ other.store.now
    · dsimp only
      rw [if_pos hstart, if_pos hstart]
      exact h.begin call clients
    · dsimp only
      rw [if_neg hstart, if_neg hstart]
      exact ⟨h, rfl⟩
  | fetching fetch => exact h.await call fetch
  | ended time outcome => exact ⟨h, rfl⟩

end Resolver.Alike

/-! ## Sessions -/

namespace Session

/-- The sessions cannot be told apart by their calls. -/
structure Alike (session other : Session) : Prop where
  resolver : session.resolver.Alike other.resolver
  calls_eq : session.calls = other.calls

/-- What can be seen of a session. -/
structure View where
  /-- The time. -/
  now : Nat
  /-- The tags of an image, if they are fresh. -/
  lookup : String → Option (List ImageTag)
  /-- The calls and how far they have come. -/
  calls : List Call
  /-- How many times a client was asked for tags. -/
  asked : Option Nat → Nat

/-- What can be seen of the session now. -/
def view (session : Session) : View where
  now := session.resolver.store.now
  lookup := session.resolver.store.get?
  calls := session.calls
  asked := session.askedCount

/-- Whether an event is background work, or a sweep by a time that has come. -/
def Event.isSweeping (now : Nat) : Event → Bool
  | .act action => action.isSweeping now
  | .call _ _ | .poll _ _ => false

/-- Sessions, where sweeping is to go unnoticed. -/
def watch : Watch Session Event View where
  next := step
  isHidden session event := event.isSweeping session.resolver.store.now
  view session event := (session.step event).view

namespace Alike

variable {session other third : Session}

theorem refl (session : Session) : Alike session session := ⟨⟨rfl, rfl, .refl _⟩, rfl⟩

theorem symm (h : Alike session other) : Alike other session :=
  ⟨⟨h.resolver.config_eq.symm, h.resolver.dispatcher_eq.symm, h.resolver.store.symm⟩,
    h.calls_eq.symm⟩

theorem trans (h : Alike session other) (h' : Alike other third) : Alike session third :=
  ⟨⟨h.resolver.config_eq.trans h'.resolver.config_eq,
      h.resolver.dispatcher_eq.trans h'.resolver.dispatcher_eq,
      h.resolver.store.trans h'.resolver.store⟩,
    h.calls_eq.trans h'.calls_eq⟩

theorem withStore (h : Alike session other) {store store' : TagStore}
    (hstore : store.Alike store') :
    Alike (session.withStore store) (other.withStore store') :=
  ⟨⟨h.resolver.config_eq, h.resolver.dispatcher_eq, hstore⟩, h.calls_eq⟩

theorem view_eq (h : Alike session other) : session.view = other.view := by
  have hlookup : session.resolver.store.get? = other.resolver.store.get? :=
    funext h.resolver.store.get?_eq
  have hasked : session.askedCount = other.askedCount := by
    funext client
    rw [askedCount, askedCount, h.calls_eq, h.resolver.dispatcher_eq]
  rw [view, view, h.resolver.store.now_eq, hlookup, h.calls_eq, hasked]

theorem call (h : Alike session other) (request : Request) (start : Nat) :
    Alike (session.call request start) (other.call request start) := by
  refine ⟨h.resolver, ?_⟩
  rw [Session.call, Session.call, h.calls_eq]

theorem poll (h : Alike session other) (position : Nat) (clients : Clients) :
    Alike (session.poll position clients) (other.poll position clients) := by
  rw [Session.poll, Session.poll, h.calls_eq]
  cases other.calls[position]? with
  | none => exact h
  | some call =>
    have hpoll := h.resolver.poll call clients
    refine ⟨hpoll.1, ?_⟩
    show List.set _ _ (Resolver.poll _ _ _).2 = List.set _ _ (Resolver.poll _ _ _).2
    rw [hpoll.2]

/-- **One event** in alike sessions leaves them alike. -/
theorem step (h : Alike session other) (event : Event) :
    Alike (session.step event) (other.step event) := by
  cases event with
  | act action => exact h.withStore (h.resolver.store.step action)
  | call request start => exact h.call request start
  | poll position clients => exact h.poll position clients

end Alike

theorem alike_step_of_isSweeping {session : Session} {event : Event}
    (h : event.isSweeping session.resolver.store.now = true) :
    Alike (session.step event) session := by
  cases event with
  | act action => exact ⟨⟨rfl, rfl, TagStore.alike_step_of_isSweeping h⟩, rfl⟩
  | call | poll => exact absurd h (by simp [Event.isSweeping])

theorem keeps_alike : watch.Keeps Alike where
  refl := .refl
  symm := .symm
  trans := .trans
  hidden := alike_step_of_isSweeping
  isHidden_eq event h := congrArg event.isSweeping h.resolver.store.now_eq
  next event h _ := h.step event
  view_eq event h _ := (h.step event).view_eq

end Session

/-! ## Simulations -/

namespace Simulation

/-- The simulations cannot be told apart by their jobs. -/
structure Alike (sim other : Simulation) : Prop where
  session : sim.session.Alike other.session
  scripts_eq : sim.scripts = other.scripts

/-- What a step gives back, but for what tells of stale entries or of the sweeper. -/
def Report.masked : Report → Report
  | .reply given => .reply given.masked
  | .outcomes given => .outcomes given

/-- Whether a step is background work, or a sweep by a time that has come. -/
def Step.isSweeping (now : Nat) : Step → Bool
  | .command given => given.isSweeping now
  | .jobs _ | .script _ _ => false

/-- Simulations, where sweeping is to go unnoticed. -/
def watch : Watch Simulation Step (Report × Session.View) where
  next sim step := (sim.step step).1
  isHidden sim step := step.isSweeping sim.store.now
  view sim step := ((sim.step step).2.masked, (sim.step step).1.session.view)

theorem finish_of_some {sim : Simulation} {position time : Nat}
    (h : sim.session.next? = some (position, time)) :
    sim.finish = ((sim.withStore (sim.store.approach time)).poll position).finish := by
  rw [finish]
  split
  next other otherTime hother =>
    rw [h] at hother
    obtain ⟨rfl, rfl⟩ := Prod.mk.inj (Option.some.inj hother)
    rfl
  next hnone =>
    rw [h] at hnone
    exact absurd hnone (by simp)

theorem finish_of_none {sim : Simulation} (h : sim.session.next? = none) :
    sim.finish = sim.withStore sim.store.settle := by
  rw [finish]
  split
  next hsome =>
    rw [h] at hsome
    exact absurd hsome (by simp)
  next => rfl

namespace Alike

variable {sim other third : Simulation}

theorem refl (sim : Simulation) : Alike sim sim := ⟨.refl _, rfl⟩

theorem symm (h : Alike sim other) : Alike other sim := ⟨h.session.symm, h.scripts_eq.symm⟩

theorem trans (h : Alike sim other) (h' : Alike other third) : Alike sim third :=
  ⟨h.session.trans h'.session, h.scripts_eq.trans h'.scripts_eq⟩

theorem store (h : Alike sim other) : sim.store.Alike other.store := h.session.resolver.store

theorem withStore (h : Alike sim other) {store store' : TagStore} (hstore : store.Alike store') :
    Alike (sim.withStore store) (other.withStore store') :=
  ⟨h.session.withStore hstore, h.scripts_eq⟩

theorem withScript (h : Alike sim other) (client : Option Nat) (script : Script) :
    Alike (sim.withScript client script) (other.withScript client script) := by
  refine ⟨h.session, ?_⟩
  rw [Simulation.withScript, Simulation.withScript, h.scripts_eq]

/-- A call goes on in both simulations alike, and moves the same script. -/
theorem poll (h : Alike sim other) (position : Nat) :
    Alike (sim.poll position) (other.poll position) := by
  have hclients : sim.clients = other.clients := by
    funext client url
    show (sim.scripts client).next = (other.scripts client).next
    rw [h.scripts_eq]
  refine ⟨?_, ?_⟩
  · rw [session_poll, session_poll, hclients]
    exact h.session.poll position _
  · rw [Simulation.poll, Simulation.poll, h.session.calls_eq]
    cases other.session.calls[position]? with
    | none => exact h.scripts_eq
    | some call =>
      dsimp only
      rw [h.session.resolver.asks_eq, h.session.resolver.dispatcher_eq, h.scripts_eq]
      by_cases hasks : other.session.resolver.asks call = true
      · rw [if_pos hasks, if_pos hasks]
        exact (h.withScript _ _).scripts_eq
      · rw [if_neg hasks, if_neg hasks]
        exact h.scripts_eq

theorem next?_eq (h : Alike sim other) : sim.session.next? = other.session.next? := by
  rw [Session.next?, Session.next?, h.session.calls_eq, h.session.resolver.store.now_eq]

/-- Both simulations have the same calls go on at the same instants, until none is left. -/
theorem finish (h : Alike sim other) : Alike sim.finish other.finish := by
  -- along the first simulation; the second one follows it step by step
  fun_induction Simulation.finish sim generalizing other with
  | case1 sim position time hnext ih =>
    rw [h.next?_eq] at hnext
    rw [finish_of_some hnext]
    exact ih ((h.withStore (h.store.approach time)).poll position)
  | case2 sim hnone =>
    rw [h.next?_eq] at hnone
    rw [finish_of_none hnone]
    exact h.withStore h.store.settle

theorem call (h : Alike sim other) (job : Job) : Alike (sim.call job) (other.call job) := by
  rw [Simulation.call, Simulation.call, h.store.now_eq]
  cases job.request with
  | ok request => exact ⟨h.session.call request _, h.scripts_eq⟩
  | error invalid => exact h

theorem foldl_call (h : Alike sim other) (jobs : List Job) :
    Alike (jobs.foldl Simulation.call sim) (jobs.foldl Simulation.call other) := by
  induction jobs generalizing sim other with
  | nil => exact h
  | cons job jobs ih => exact ih (h.call job)

/-- **Jobs that are done together** end alike in alike simulations. -/
theorem perform (h : Alike sim other) (jobs : List Job) :
    Alike (sim.perform jobs).1 (other.perform jobs).1 ∧
      (sim.perform jobs).2 = (other.perform jobs).2 := by
  have hended := (h.foldl_call jobs).finish
  have hfailure : sim.failure? = other.failure? := by
    funext job
    rw [failure?, failure?, h.store.now_eq]
  unfold Simulation.perform
  dsimp only
  rw [hfailure, hended.store.now_eq, hended.session.calls_eq, h.session.calls_eq]
  exact ⟨hended.withStore (hended.store.approach _).settle, rfl⟩

/-- **One step** of alike simulations leaves them alike, and gives back the same. -/
theorem step (h : Alike sim other) (step : Step) :
    Alike (sim.step step).1 (other.step step).1 ∧
      (sim.step step).2.masked = (other.step step).2.masked := by
  cases step with
  | command command =>
    exact ⟨h.withStore (h.store.perform command),
      congrArg Report.reply (h.store.masked_reply_eq command)⟩
  | jobs jobs => exact ⟨(h.perform jobs).1, congrArg Report.outcomes (h.perform jobs).2⟩
  | script client script => exact ⟨h.withScript client script, rfl⟩

end Alike

theorem alike_step_of_isSweeping {sim : Simulation} {step : Step}
    (h : step.isSweeping sim.store.now = true) : Alike (sim.step step).1 sim := by
  cases step with
  | command command =>
    have hstore : (sim.store.perform command).Alike sim.store :=
      TagStore.alike_perform_of_isSweeping h
    exact ⟨⟨⟨rfl, rfl, hstore⟩, rfl⟩, rfl⟩
  | jobs | script => exact absurd h (by simp [Step.isSweeping])

theorem keeps_alike : watch.Keeps Alike where
  refl := .refl
  symm := .symm
  trans := .trans
  hidden := alike_step_of_isSweeping
  isHidden_eq step h := congrArg step.isSweeping h.store.now_eq
  next step h _ := (h.step step).1
  view_eq step h _ := Prod.ext (h.step step).2 (h.step step).1.session.view_eq

end Simulation

/-! ## Runs that differ in sweeping -/

/-- The session with that handle on a sweeper, or without one. -/
def Session.withSweeper (session : Session) (sweeper : Option SweeperHandle) : Session :=
  session.withStore { session.resolver.store with sweeper := sweeper }

/-- The simulation with that handle on a sweeper, or without one. -/
def Simulation.withSweeper (sim : Simulation) (sweeper : Option SweeperHandle) : Simulation :=
  { sim with session := sim.session.withSweeper sweeper }

theorem Session.alike_withSweeper (session : Session) (sweeper sweeper' : Option SweeperHandle) :
    Alike (session.withSweeper sweeper) (session.withSweeper sweeper') :=
  ⟨⟨rfl, rfl, rfl, rfl, fun _ => rfl⟩, rfl⟩

theorem Simulation.alike_withSweeper (sim : Simulation) (sweeper sweeper' : Option SweeperHandle) :
    Alike (sim.withSweeper sweeper) (sim.withSweeper sweeper') :=
  ⟨sim.session.alike_withSweeper sweeper sweeper', rfl⟩

/-- **Nobody notices the sweeper**: from the same state, with any sweepers or none, two runs that
show the same steps give the same views at each of these steps and at the end. -/
theorem sweeping_unnoticed :
    (∀ (start : Session) (sweeper sweeper' : Option SweeperHandle)
        (events events' : List Session.Event),
      Session.watch.shown (start.withSweeper sweeper) events =
        Session.watch.shown (start.withSweeper sweeper') events' →
      Session.watch.views (start.withSweeper sweeper) events =
        Session.watch.views (start.withSweeper sweeper') events' ∧
      ((start.withSweeper sweeper).run events).view =
        ((start.withSweeper sweeper').run events').view) ∧
    (∀ (start : Simulation) (sweeper sweeper' : Option SweeperHandle)
        (steps steps' : List Simulation.Step),
      Simulation.watch.shown (start.withSweeper sweeper) steps =
        Simulation.watch.shown (start.withSweeper sweeper') steps' →
      Simulation.watch.views (start.withSweeper sweeper) steps =
        Simulation.watch.views (start.withSweeper sweeper') steps' ∧
      (Simulation.watch.last (start.withSweeper sweeper) steps).session.view =
        (Simulation.watch.last (start.withSweeper sweeper') steps').session.view) := by
  constructor
  · intro start sweeper sweeper' events events' hshown
    obtain ⟨hviews, hlast⟩ := Watch.views_eq_of_shown_eq Session.keeps_alike
      (start.alike_withSweeper sweeper sweeper') hshown
    exact ⟨hviews, hlast.view_eq⟩
  · intro start sweeper sweeper' steps steps' hshown
    obtain ⟨hviews, hlast⟩ := Watch.views_eq_of_shown_eq Simulation.keeps_alike
      (start.alike_withSweeper sweeper sweeper') hshown
    exact ⟨hviews, hlast.session.view_eq⟩

/-- A session in which one client serves all images. -/
def plain : Session := .new {} (.ofFallback ⟨"docker", fun _ => true⟩)

/-- A simulation of it, where the client never has tags. -/
def plainSimulation : Simulation := ⟨plain, fun _ => ⟨⟨0, .ok []⟩, []⟩⟩

/-- Events among which the sweeper makes a pass. -/
def swept : List Session.Event :=
  [.act (.insert "nginx" []), .act (.elapse ({} : Config).cacheTtl), .act (.spawn 1),
    .call ⟨"nginx", .allTags⟩ 0, .act (.elapse 1), .act .tick, .act (.sweep 2000000000000),
    .poll 0 fun _ _ => ⟨0, .ok []⟩]

/-- The same events without the sweeper; the sweep by a time that is still to come stays. -/
def unswept : List Session.Event :=
  [.act (.insert "nginx" []), .act (.elapse ({} : Config).cacheTtl),
    .call ⟨"nginx", .allTags⟩ 0, .act (.elapse 1), .act (.sweep 2000000000000),
    .poll 0 fun _ _ => ⟨0, .ok []⟩]

/-- Steps among which there is a sweep. -/
def sweptSteps : List Simulation.Step :=
  [.command (.insert "nginx" []), .command (.sleep 1800000000000), .command .sweepNow,
    .command (.remove "nginx"), .command .stop, .jobs [⟨0, .ok ⟨"nginx", .allTags⟩⟩]]

/-- The same steps without it. -/
def unsweptSteps : List Simulation.Step :=
  [.command (.insert "nginx" []), .command (.sleep 1800000000000), .command (.remove "nginx"),
    .jobs [⟨0, .ok ⟨"nginx", .allTags⟩⟩]]

theorem sweeping_unnoticed_of_plain :
    (Session.watch.shown (plain.withSweeper none) swept =
        Session.watch.shown (plain.withSweeper (some .ended)) unswept ∧
      Session.watch.views (plain.withSweeper none) swept =
        Session.watch.views (plain.withSweeper (some .ended)) unswept) ∧
    Simulation.watch.shown (plainSimulation.withSweeper plain.resolver.store.sweeper) sweptSteps =
        Simulation.watch.shown (plainSimulation.withSweeper none) unsweptSteps ∧
      Simulation.watch.views (plainSimulation.withSweeper plain.resolver.store.sweeper) sweptSteps =
        Simulation.watch.views (plainSimulation.withSweeper none) unsweptSteps :=
  ⟨⟨rfl, (sweeping_unnoticed.1 plain none (some .ended) swept unswept rfl).1⟩,
    rfl, (sweeping_unnoticed.2 plainSimulation plain.resolver.store.sweeper none sweptSteps
      unsweptSteps rfl).1⟩

end LatestTag
