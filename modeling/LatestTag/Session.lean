import LatestTag.Resolver

/-!
# Sessions

A session is a resolver with all the calls that were ever made on it. What happens in it is a
sequence of `Event`s, in any order: actions on the store, new calls, and calls that are polled. So a
session can take any course that callers, clock and sweeper may give it; a timely one polls each
call as soon as it can go on, and `next?` tells which call that is.
-/

namespace LatestTag

/-- A resolver with the calls on it. -/
structure Session where
  /-- The resolver. -/
  resolver : Resolver
  /-- The calls, in the order in which they were made. -/
  calls : List Call := []

namespace Session

/-- What can happen in a session. -/
inductive Event where
  /-- Something happens to the store. -/
  | act (action : TagStore.Action)
  /-- A call is made, to begin at some instant. -/
  | call (request : Request) (start : Nat)
  /-- The call at a position is polled, while the registry clients behave in some way. -/
  | poll (position : Nat) (clients : Clients)

/-- A session on a new resolver. -/
def new (config : Config) (dispatcher : Dispatcher) : Session where
  resolver := .new config dispatcher

/-- The session with another store. -/
def withStore (session : Session) (store : TagStore) : Session :=
  { session with resolver := { session.resolver with store := store } }

/-- The session with one more call. -/
def call (session : Session) (request : Request) (start : Nat) : Session :=
  { session with calls := session.calls ++ [⟨request, .pending start, false⟩] }

/-- The session after the call at a position has been polled. -/
def poll (session : Session) (position : Nat) (clients : Clients) : Session :=
  match session.calls[position]? with
  | some call =>
    let (resolver, call) := session.resolver.poll call clients
    { resolver := resolver, calls := session.calls.set position call }
  | none => session

/-- The session after an event. -/
def step (session : Session) : Event → Session
  | .act action => session.withStore (session.resolver.store.step action)
  | .call request start => session.call request start
  | .poll position clients => session.poll position clients

/-- The session after a sequence of events. -/
def run (session : Session) (events : List Event) : Session := events.foldl step session

/-- How many times calls of the session go on at most. -/
def remaining (session : Session) : Nat :=
  session.calls.foldr (fun call count => call.remaining + count) 0

/-- The position of the call that goes on next, and the instant when it does. Of the calls that can
go on by now, or at the same instant, the first one is next. -/
def next? (session : Session) : Option (Nat × Nat) :=
  firstGreatest (fun time earliest => decide (time < earliest)) <|
    session.calls.zipIdx.filterMap fun (call, position) =>
      call.wake?.map fun wake => (position, max session.resolver.store.now wake)

/-- How many times a client was asked for tags; it is named by its position, the default by none. -/
def askedCount (session : Session) (client : Option Nat) : Nat :=
  session.calls.countP fun call =>
    call.hasAsked && session.resolver.dispatcher.position? call.request.url == client

theorem exists_of_next? {session : Session} {position time : Nat}
    (h : session.next? = some (position, time)) :
    ∃ call wake, session.calls[position]? = some call ∧ call.wake? = some wake ∧ wake ≤ time := by
  have hmem := firstGreatest_mem h
  simp only [List.mem_filterMap, Option.map_eq_some_iff, Prod.mk.injEq, Prod.exists] at hmem
  obtain ⟨call, _, hcall, wake, hwake, rfl, rfl⟩ := hmem
  exact ⟨call, wake, List.mk_mem_zipIdx_iff_getElem?.1 hcall, hwake, Nat.le_max_right _ _⟩

theorem remaining_poll_lt {session : Session} {position : Nat} {call : Call} {wake : Nat}
    (clients : Clients) (hcall : session.calls[position]? = some call)
    (hwake : call.wake? = some wake) (hnow : wake ≤ session.resolver.store.now) :
    (session.poll position clients).remaining < session.remaining := by
  have hlt := session.resolver.remaining_poll_lt call clients hwake hnow
  simp only [poll, hcall, remaining]
  generalize (session.resolver.poll call clients).2 = later at hlt
  generalize session.calls = calls at hcall
  induction calls generalizing position with
  | nil => simp at hcall
  | cons first calls ih =>
    cases position with
    | zero =>
      obtain rfl : first = call := by simpa using hcall
      simpa using hlt
    | succ position =>
      have := ih (by simpa using hcall)
      simpa using this

end Session

end LatestTag
