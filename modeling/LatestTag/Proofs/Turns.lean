import LatestTag.Proofs.CacheEntries
import LatestTag.Session

/-!
# What one step can do

A call that is polled does one of six things, and this file says which (`turn_poll`); what later
files say about runs goes by these cases and does not open `Resolver.poll` again. A call may find
nothing to do. It may end at once, without a fetch. Otherwise it has a fetch to look after
(`Resolver.fetch?`), one that it begins now or began before: either that goes on, or it has ended
with an error, without tags or with some. Only the last of these changes the cache, and it is the
only one of the three that does not fail.

A step of a session is an action on the store, a new call, or such a turn of one call while the
others stay as they are (`call_of_step`).
-/

namespace LatestTag

/-- The call can go on at the time. -/
def Call.isDue (call : Call) (now : Nat) : Bool := call.wake?.any (· ≤ now)

namespace Resolver

/-- The fetch that the call looks after when it is polled: one that it begins, by asking a client,
or one that it began before. -/
def fetch? (resolver : Resolver) (call : Call) (clients : Clients) : Option Fetch :=
  match call.progress with
  | .pending _ => if resolver.asks call then some (resolver.fetch call.request clients) else none
  | .fetching fetch => some fetch
  | .ended _ _ => none

/-- The call when it has ended now. -/
def ended (resolver : Resolver) (call : Call) (outcome : Outcome) : Call where
  request := call.request
  progress := .ended resolver.store.now outcome
  hasAsked := call.hasAsked || resolver.asks call

/-- The resolver with the tags of an image in its cache. -/
def storing (resolver : Resolver) (url : String) (tags : List ImageTag) : Resolver :=
  { resolver with store := resolver.store.step (.insert url tags) }

/-- What happens when a call is polled. -/
inductive Turn (resolver : Resolver) (call : Call) (clients : Clients) :
    Resolver → Call → Prop where
  /-- The call has ended, or it is too early for it to begin. -/
  | idle (hfetch : resolver.fetch? call clients = none)
      (hwake : ∀ wake ∈ call.wake?, resolver.store.now < wake) :
      Turn resolver call clients resolver call
  /-- The call ends without a fetch. -/
  | immediate {start : Nat} {outcome : Outcome} (hpending : call.progress = .pending start)
      (hstart : start ≤ resolver.store.now)
      (himmediate : resolver.immediate? call.request = some outcome) :
      Turn resolver call clients resolver (resolver.ended call outcome)
  /-- The fetch goes on. -/
  | waits {fetch : Fetch} (hfetch : resolver.fetch? call clients = some fetch)
      (hresult : fetch.result? resolver.store.now = none) :
      Turn resolver call clients resolver
        ⟨call.request, .fetching fetch, call.hasAsked || resolver.asks call⟩
  /-- The fetch has failed. -/
  | fails {fetch : Fetch} {cause : FetchError} (hfetch : resolver.fetch? call clients = some fetch)
      (hresult : fetch.result? resolver.store.now = some (.error cause)) :
      Turn resolver call clients resolver (resolver.ended call (call.request.failed cause))
  /-- The fetch has brought no tags. -/
  | misses {fetch : Fetch} (hfetch : resolver.fetch? call clients = some fetch)
      (hresult : fetch.result? resolver.store.now = some (.ok [])) :
      Turn resolver call clients resolver
        (resolver.ended call (.error (.emptyResult call.request.url)))
  /-- The fetch has brought tags. -/
  | stores {fetch : Fetch} {tags : List ImageTag}
      (hfetch : resolver.fetch? call clients = some fetch)
      (hresult : fetch.result? resolver.store.now = some (.ok tags)) (hne : tags ≠ []) :
      Turn resolver call clients (resolver.storing call.request.url tags)
        (resolver.ended call (call.request.answered tags))

/-- The turn of a call with a fetch to look after. -/
theorem turn_await {resolver : Resolver} {call : Call} {clients : Clients} {fetch : Fetch}
    (hfetch : resolver.fetch? call clients = some fetch) :
    Turn resolver call clients
      (resolver.await { call with hasAsked := call.hasAsked || resolver.asks call } fetch).1
      (resolver.await { call with hasAsked := call.hasAsked || resolver.asks call } fetch).2 := by
  unfold await
  split
  next result hresult =>
    match result with
    | .error cause => exact .fails hfetch hresult
    | .ok [] => exact .misses hfetch hresult
    | .ok (tag :: tags) => exact .stores hfetch hresult (List.cons_ne_nil tag tags)
  next hresult => exact .waits hfetch hresult

/-- A call that is polled takes a turn. -/
theorem turn_poll (resolver : Resolver) (call : Call) (clients : Clients) :
    Turn resolver call clients (resolver.poll call clients).1 (resolver.poll call clients).2 := by
  obtain ⟨request, progress, hasAsked⟩ := call
  cases progress with
  | pending start =>
    by_cases hstart : start ≤ resolver.store.now
    · cases himmediate : resolver.immediate? request with
      | some outcome =>
        have hasks : resolver.asks ⟨request, .pending start, hasAsked⟩ = false := by
          simp [asks, himmediate]
        have hturn : Turn resolver ⟨request, .pending start, hasAsked⟩ clients resolver
            (resolver.ended ⟨request, .pending start, hasAsked⟩ outcome) :=
          .immediate rfl hstart himmediate
        simpa [poll, hstart, begin, himmediate, finish, ended, hasks] using hturn
      | none =>
        have hasks : resolver.asks ⟨request, .pending start, hasAsked⟩ = true := by
          simp [asks, himmediate, hstart]
        have hfetch : resolver.fetch? ⟨request, .pending start, hasAsked⟩ clients =
            some (resolver.fetch request clients) := if_pos hasks
        have hturn := turn_await hfetch
        simpa [poll, hstart, begin, himmediate, hasks] using hturn
    · -- too early
      have hasks : resolver.asks ⟨request, .pending start, hasAsked⟩ = false := by
        simp [asks, hstart]
      simp only [poll, if_neg hstart]
      refine .idle (by simp [fetch?, hasks]) ?_
      intro wake hwake
      obtain rfl := Option.some.inj hwake
      exact Nat.lt_of_not_le hstart
  | fetching fetch =>
    have hfetch : resolver.fetch? ⟨request, .fetching fetch, hasAsked⟩ clients = some fetch := rfl
    have hturn := turn_await hfetch
    simpa [poll, asks] using hturn
  | ended time outcome =>
    refine .idle rfl ?_
    intro wake hwake
    exact absurd hwake (by simp [Call.wake?])

/-- A call that can not go on yet has nothing to do. -/
theorem poll_of_early {resolver : Resolver} {call : Call} {clients : Clients}
    (h : call.isDue resolver.store.now = false) :
    resolver.poll call clients = (resolver, call) := by
  obtain ⟨request, progress, hasAsked⟩ := call
  cases progress with
  | pending start => exact if_neg (of_decide_eq_false h)
  | fetching fetch =>
    have hresult : fetch.result? resolver.store.now = none := by
      rw [← Option.not_isSome_iff_eq_none, Fetch.result?_isSome_iff]
      exact of_decide_eq_false h
    rw [poll]
    dsimp only
    rw [await, hresult]
  | ended time outcome => rfl

theorem immediate?_eq_none_iff {resolver : Resolver} {request : Request} :
    resolver.immediate? request = none ↔
      resolver.store.get? request.url = none ∧ request.signal ≠ some 0 := by
  unfold immediate?
  split
  next hsignal => simp [hsignal]
  next hsignal => simp [hsignal]

/-- A request that can end at once has been cancelled, or is answered from the cache. -/
theorem eq_of_immediate? {resolver : Resolver} {request : Request} {outcome : Outcome}
    (himmediate : resolver.immediate? request = some outcome) :
    outcome = request.failed .cancelled ∨ ∃ tags, outcome = request.answered tags := by
  unfold immediate? at himmediate
  split at himmediate
  next => exact Or.inl (Option.some.inj himmediate).symm
  next =>
    obtain ⟨tags, -, rfl⟩ := Option.map_eq_some_iff.1 himmediate
    exact Or.inr ⟨tags, rfl⟩

/-- A call that can end at once has no fetch. -/
theorem fetch?_of_immediate? {resolver : Resolver} {call : Call} {clients : Clients} {start : Nat}
    {outcome : Outcome} (hpending : call.progress = .pending start)
    (himmediate : resolver.immediate? call.request = some outcome) :
    resolver.fetch? call clients = none := by
  simp [fetch?, asks, hpending, himmediate]

/-- A call that has ended has nothing to do. -/
theorem Turn.eq_of_ended {resolver later : Resolver} {call next : Call} {clients : Clients}
    {time : Nat} {outcome : Outcome} (hturn : Turn resolver call clients later next)
    (hended : call.progress = .ended time outcome) : later = resolver ∧ next = call := by
  have hfetch : resolver.fetch? call clients = none := by rw [fetch?, hended]
  cases hturn with
  | idle => exact ⟨rfl, rfl⟩
  | immediate hpending => exact absurd (hended.symm.trans hpending) (by simp)
  | waits hsome => exact absurd (hfetch.symm.trans hsome) (by simp)
  | fails hsome => exact absurd (hfetch.symm.trans hsome) (by simp)
  | misses hsome => exact absurd (hfetch.symm.trans hsome) (by simp)
  | stores hsome => exact absurd (hfetch.symm.trans hsome) (by simp)

/-- A call whose fetch has brought tags stores them and is answered from them. -/
theorem Turn.eq_of_brought {resolver later : Resolver} {call next : Call} {clients : Clients}
    {fetch : Fetch} {tags : List ImageTag} (hturn : Turn resolver call clients later next)
    (hfetch : resolver.fetch? call clients = some fetch)
    (hresult : fetch.result? resolver.store.now = some (.ok tags)) (hne : tags ≠ []) :
    later = resolver.storing call.request.url tags ∧
      next = resolver.ended call (call.request.answered tags) := by
  cases hturn with
  | idle hnone => exact absurd (hfetch.symm.trans hnone) (by simp)
  | immediate hpending hstart himmediate =>
    exact absurd (hfetch.symm.trans (fetch?_of_immediate? hpending himmediate)) (by simp)
  | waits hother hnone =>
    obtain rfl := Option.some.inj (hfetch.symm.trans hother)
    exact absurd (hresult.symm.trans hnone) (by simp)
  | fails hother herror =>
    obtain rfl := Option.some.inj (hfetch.symm.trans hother)
    exact absurd (hresult.symm.trans herror) (by simp)
  | misses hother hempty =>
    obtain rfl := Option.some.inj (hfetch.symm.trans hother)
    exact absurd (hresult.symm.trans hempty) (by simp [hne])
  | stores hother hok =>
    obtain rfl := Option.some.inj (hfetch.symm.trans hother)
    obtain rfl := Except.ok.inj (Option.some.inj (hresult.symm.trans hok))
    exact ⟨rfl, rfl⟩

/-- Of the resolver a turn changes no more than the cache. -/
theorem Turn.frame {resolver later : Resolver} {call next : Call} {clients : Clients}
    (hturn : Turn resolver call clients later next) :
    later.config = resolver.config ∧ later.dispatcher = resolver.dispatcher ∧
      later.store.now = resolver.store.now ∧ later.store.cache.ttl = resolver.store.cache.ttl ∧
      next.request = call.request := by
  cases hturn <;> exact ⟨rfl, rfl, rfl, rfl, rfl⟩

end Resolver

namespace Session

theorem poll_eq {session : Session} {position : Nat} {call : Call} (clients : Clients)
    (hcall : session.calls[position]? = some call) :
    session.poll position clients = ⟨(session.resolver.poll call clients).1,
      session.calls.set position (session.resolver.poll call clients).2⟩ := by
  rw [poll, hcall]

theorem calls_poll_self {session : Session} {position : Nat} {call : Call} (clients : Clients)
    (hcall : session.calls[position]? = some call) :
    (session.poll position clients).calls[position]? =
      some (session.resolver.poll call clients).2 := by
  rw [poll_eq clients hcall]
  exact List.getElem?_set_self (List.getElem?_eq_some_iff.1 hcall).1

/-- A poll is a turn of the call at its position, if there is one. -/
theorem poll_cases (session : Session) (position : Nat) (clients : Clients) :
    (session.calls[position]? = none ∧ session.poll position clients = session) ∨
    ∃ call later next, session.calls[position]? = some call ∧
      session.resolver.Turn call clients later next ∧
      session.poll position clients = ⟨later, session.calls.set position next⟩ := by
  cases hcall : session.calls[position]? with
  | none => exact Or.inl ⟨rfl, by rw [poll, hcall]⟩
  | some call =>
    exact Or.inr ⟨call, _, _, rfl, session.resolver.turn_poll call clients, poll_eq clients hcall⟩

/-- Of the resolver a step changes no more than the store, where the clock goes on and entries are
fresh for as long as before. -/
theorem frame_step (session : Session) (event : Event) :
    (session.step event).resolver.config = session.resolver.config ∧
      (session.step event).resolver.dispatcher = session.resolver.dispatcher ∧
      (session.step event).resolver.store.cache.ttl = session.resolver.store.cache.ttl ∧
      session.resolver.store.now ≤ (session.step event).resolver.store.now := by
  cases event with
  | act action => exact ⟨rfl, rfl, TagStore.ttl_step, TagStore.now_le_step⟩
  | call request start => exact ⟨rfl, rfl, rfl, Nat.le_refl _⟩
  | poll position clients =>
    show (session.poll position clients).resolver.config = _ ∧
      (session.poll position clients).resolver.dispatcher = _ ∧
      (session.poll position clients).resolver.store.cache.ttl = _ ∧
      _ ≤ (session.poll position clients).resolver.store.now
    rcases session.poll_cases position clients with ⟨-, hpoll⟩ | ⟨_, _, _, -, hturn, hpoll⟩
    · rw [hpoll]
      exact ⟨rfl, rfl, rfl, Nat.le_refl _⟩
    · obtain ⟨hconfig, hdispatcher, hnow, httl, -⟩ := hturn.frame
      rw [hpoll]
      exact ⟨hconfig, hdispatcher, httl, Nat.le_of_eq hnow.symm⟩

/-- Only time that passes moves the clock. -/
theorem now_step_of_ne {session : Session} {event : Event}
    (hne : ∀ duration, event ≠ .act (.elapse duration)) :
    (session.step event).resolver.store.now = session.resolver.store.now := by
  cases event with
  | act action =>
    cases action with
    | elapse duration => exact absurd rfl (hne duration)
    | tick => exact TagStore.now_tick
    | insert | remove | clear | sweep | spawn | stop => rfl
  | call request start => rfl
  | poll position clients =>
    rw [step]
    rcases session.poll_cases position clients with ⟨-, hpoll⟩ | ⟨_, _, _, -, hturn, hpoll⟩
    · rw [hpoll]
    · rw [hpoll]
      exact hturn.frame.2.2.1

/-- A call behind a step is as it was before, or new, or has just taken its turn. -/
theorem call_of_step {session : Session} {event : Event} {position : Nat} {call : Call}
    (h : (session.step event).calls[position]? = some call) :
    session.calls[position]? = some call ∨
    (∃ request start, event = .call request start ∧ call = ⟨request, .pending start, false⟩) ∨
    ∃ clients earlier later, event = .poll position clients ∧
      session.calls[position]? = some earlier ∧ (session.step event).resolver = later ∧
      session.resolver.Turn earlier clients later call := by
  cases event with
  | act action => exact Or.inl h
  | call request start =>
    rw [step, Session.call, List.getElem?_append] at h
    by_cases hold : position < session.calls.length
    · rw [if_pos hold] at h
      exact Or.inl h
    · rw [if_neg hold, List.getElem?_singleton] at h
      obtain ⟨-, hcall⟩ := Option.ite_none_right_eq_some.1 h
      exact Or.inr (Or.inl ⟨request, start, rfl, (Option.some.inj hcall).symm⟩)
  | poll polled clients =>
    rcases session.poll_cases polled clients with
      ⟨-, hpoll⟩ | ⟨earlier, later, next, hcall, hturn, hpoll⟩
    · rw [step, hpoll] at h
      exact Or.inl h
    · rw [step, hpoll] at h ⊢
      by_cases hposition : polled = position
      · subst hposition
        have hlt := (List.getElem?_eq_some_iff.1 hcall).1
        rw [List.getElem?_set_self hlt] at h
        obtain rfl := Option.some.inj h
        exact Or.inr (Or.inr ⟨clients, earlier, later, rfl, hcall, rfl, hturn⟩)
      · rw [List.getElem?_set_ne hposition] at h
        exact Or.inl h

/-- A call is still there behind a step. If it has been polled it has taken its turn, and else it is
as it was before. -/
theorem exists_call_step {session : Session} {position : Nat} {call : Call} (event : Event)
    (h : session.calls[position]? = some call) :
    ∃ later, (session.step event).calls[position]? = some later ∧
      ((∀ clients, event ≠ .poll position clients) ∧ later = call ∨
        ∃ clients, event = .poll position clients ∧
          session.resolver.Turn call clients (session.step event).resolver later) := by
  have hlt := (List.getElem?_eq_some_iff.1 h).1
  cases event with
  | act action => exact ⟨call, h, Or.inl ⟨by simp, rfl⟩⟩
  | call request start =>
    refine ⟨call, ?_, Or.inl ⟨by simp, rfl⟩⟩
    rw [step, Session.call, List.getElem?_append_left hlt]
    exact h
  | poll polled clients =>
    rcases session.poll_cases polled clients with
      ⟨hnone, hpoll⟩ | ⟨earlier, resolver, next, hearlier, hturn, hpoll⟩
    · have hposition : polled ≠ position := fun heq => by simp [heq ▸ hnone] at h
      refine ⟨call, ?_, Or.inl ⟨fun _ heq => hposition (Event.poll.inj heq).1, rfl⟩⟩
      rw [step, hpoll]
      exact h
    · rw [step, hpoll]
      by_cases hposition : polled = position
      · subst hposition
        obtain rfl := Option.some.inj (hearlier.symm.trans h)
        exact ⟨next, List.getElem?_set_self hlt, Or.inr ⟨clients, rfl, hturn⟩⟩
      · exact ⟨call, (List.getElem?_set_ne hposition).trans h,
          Or.inl ⟨fun _ heq => hposition (Event.poll.inj heq).1, rfl⟩⟩

/-! ## Runs -/

variable {start : Session} {position : Nat} {call : Call}

theorem run_run (start : Session) (events later : List Event) :
    (start.run events).run later = start.run (events ++ later) :=
  List.foldl_append.symm

/-- A run leaves of the resolver what a step leaves of it. -/
theorem frame_run (start : Session) (events : List Event) :
    (start.run events).resolver.config = start.resolver.config ∧
      (start.run events).resolver.dispatcher = start.resolver.dispatcher ∧
      (start.run events).resolver.store.cache.ttl = start.resolver.store.cache.ttl ∧
      start.resolver.store.now ≤ (start.run events).resolver.store.now := by
  induction events generalizing start with
  | nil => exact ⟨rfl, rfl, rfl, Nat.le_refl _⟩
  | cons event events ih =>
    obtain ⟨hconfig, hdispatcher, httl, hnow⟩ := start.frame_step event
    obtain ⟨hconfig', hdispatcher', httl', hnow'⟩ := ih (start.step event)
    exact ⟨hconfig'.trans hconfig, hdispatcher'.trans hdispatcher, httl'.trans httl,
      Nat.le_trans hnow hnow'⟩

/-- A call that has ended stays as it is. -/
theorem call_run_of_ended {time : Nat} {outcome : Outcome} (events : List Event)
    (hcall : start.calls[position]? = some call) (hended : call.progress = .ended time outcome) :
    (start.run events).calls[position]? = some call := by
  induction events generalizing start with
  | nil => exact hcall
  | cons event events ih =>
    obtain ⟨later, hlater, ⟨-, rfl⟩ | ⟨clients, -, hturn⟩⟩ := exists_call_step event hcall
    · exact ih hlater
    · obtain ⟨-, rfl⟩ := hturn.eq_of_ended hended
      exact ih hlater

/-- A call stays one for the same request. -/
theorem request_run {later : Call} {events : List Event}
    (hcall : start.calls[position]? = some call)
    (hlater : (start.run events).calls[position]? = some later) :
    later.request = call.request := by
  induction events generalizing start call with
  | nil => rw [Option.some.inj (hlater.symm.trans hcall)]
  | cons event events ih =>
    obtain ⟨next, hnext, ⟨-, rfl⟩ | ⟨clients, -, hturn⟩⟩ := exists_call_step event hcall
    · exact ih hnext hlater
    · exact (ih hnext hlater).trans hturn.frame.2.2.2.2

end Session

end LatestTag
