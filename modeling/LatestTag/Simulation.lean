import LatestTag.Session

/-!
# Simulations

A simulation runs a session whose registry clients follow scripts. Nothing in it is late: a call
goes on as soon as it can, calls that can go on at one instant do so in order, and the sweeper
passes its deadlines behind the calls of an instant and before the next one.
-/

namespace LatestTag

/-- What a client does with one request for tags after the other; the last behaviour stays. -/
structure Script where
  /-- What it does with the next request. -/
  next : Behaviour
  /-- What it does with the ones after that. -/
  later : List Behaviour := []

/-- The script for the requests after the next one. -/
def Script.rest : Script → Script
  | ⟨_, behaviour :: later⟩ => ⟨behaviour, later⟩
  | script => script

/-- A request to be made, if its pattern is one, some time from now. -/
structure Job where
  /-- The time until the request is made. -/
  delay : Nat := 0
  /-- The request. -/
  request : Except InvalidPattern Request

/-- A session with scripts for the clients. -/
structure Simulation where
  /-- The session. -/
  session : Session
  /-- The script of each client; it is named by its position, the default by none. -/
  scripts : Option Nat → Script

namespace Simulation

/-- The store of the session. -/
def store (sim : Simulation) : TagStore := sim.session.resolver.store

/-- The simulation with another store. -/
def withStore (sim : Simulation) (store : TagStore) : Simulation :=
  { sim with session := sim.session.withStore store }

/-- The simulation with another script for a client. -/
def withScript (sim : Simulation) (client : Option Nat) (script : Script) : Simulation :=
  { sim with scripts := fun other => if other = client then script else sim.scripts other }

/-- The clients as their scripts have them behave now, whatever image they are asked for. -/
def clients (sim : Simulation) : Clients := fun client _ => (sim.scripts client).next

/-- The simulation after the call at a position has been polled. If the call asks a client, that
has come one step further in its script. -/
def poll (sim : Simulation) (position : Nat) : Simulation :=
  match sim.session.calls[position]? with
  | some call =>
    let client := sim.session.resolver.dispatcher.position? call.request.url
    let later :=
      if sim.session.resolver.asks call then sim.withScript client (sim.scripts client).rest
      else sim
    { later with session := sim.session.poll position sim.clients }
  | none => sim

theorem session_poll (sim : Simulation) (position : Nat) :
    (sim.poll position).session = sim.session.poll position sim.clients := by
  unfold poll
  cases h : sim.session.calls[position]? with
  | some call => rfl
  | none => simp [Session.poll, h]

/-- The simulation when all calls have ended. -/
def finish (sim : Simulation) : Simulation :=
  match _h : sim.session.next? with
  | some (position, time) => ((sim.withStore (sim.store.approach time)).poll position).finish
  | none => sim.withStore sim.store.settle
termination_by sim.session.remaining
decreasing_by
  obtain ⟨call, wake, hcall, hwake, htime⟩ := Session.exists_of_next? _h
  rw [session_poll]
  exact Session.remaining_poll_lt _ hcall hwake
    (Nat.le_trans htime (TagStore.le_now_approach _ _))

/-- The simulation with the call for a job, if there is one to make. -/
def call (sim : Simulation) (job : Job) : Simulation :=
  match job.request with
  | .ok request =>
    let start := Duration.afterWait sim.store.now job.delay
    { sim with session := sim.session.call request start }
  | .error _ => sim

/-- The instant when a job turns out not to have a request. -/
def failure? (sim : Simulation) (job : Job) : Option Nat :=
  match job.request with
  | .ok _ => none
  | .error _ => some (Duration.afterWait sim.store.now job.delay)

/-- The outcomes of jobs, from those of the calls for them. -/
def outcomes : List Job → List Outcome → List (Except InvalidPattern Outcome)
  | ⟨_, .error invalid⟩ :: jobs, ended => .error invalid :: outcomes jobs ended
  | ⟨_, .ok _⟩ :: jobs, outcome :: ended => .ok outcome :: outcomes jobs ended
  | ⟨_, .ok _⟩ :: _, [] | [], _ => []

/-- The simulation after jobs that are done together, and their outcomes. -/
def perform (sim : Simulation) (jobs : List Job) :
    Simulation × List (Except InvalidPattern Outcome) :=
  let ended := (jobs.foldl call sim).finish
  let last := (jobs.filterMap sim.failure?).foldl max ended.store.now
  let calls := ended.session.calls.drop sim.session.calls.length
  (ended.withStore (ended.store.approach last).settle,
    outcomes jobs (calls.filterMap Call.outcome?))

/-- A step in a simulation. -/
inductive Step where
  /-- A request to the store. -/
  | command (command : TagStore.Command)
  /-- Jobs are done together. -/
  | jobs (jobs : List Job)
  /-- A client gets another script. -/
  | script (client : Option Nat) (script : Script)

/-- What a step gives back. -/
inductive Report where
  /-- What the request to the store gives back. -/
  | reply (reply : TagStore.Reply)
  /-- The outcomes of the jobs. -/
  | outcomes (outcomes : List (Except InvalidPattern Outcome))

/-- The simulation after a step, and what that gives back. -/
def step (sim : Simulation) : Step → Simulation × Report
  | .command command =>
    (sim.withStore (sim.store.perform command), .reply (sim.store.reply command))
  | .jobs jobs =>
    let (later, outcomes) := sim.perform jobs
    (later, .outcomes outcomes)
  | .script client script => (sim.withScript client script, .reply .done)

end Simulation

end LatestTag
