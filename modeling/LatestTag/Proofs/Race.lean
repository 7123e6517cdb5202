import LatestTag.Proofs.Effects
import LatestTag.Proofs.Questions
import LatestTag.Proofs.Schedules

/-!
# The race between answer, time limit and signal

A fetch ends by what comes first: the answer of the client, the end of the time limit, or the signal
to give up. Several may come at one instant, and then the signal wins over the answer and the answer
over the time limit (`Race.Ends`). This file says that a call whose time is not passed over ends by
these rules and at the instant that they name, whatever goes on besides:

> `race_decided`: a call that begins with the signal there is cancelled, and one that finds fresh
> tags is answered, both at once and without a question to a client. Any other call ends as its race
> does, and its tags are stored exactly if the answer wins and has some.

Timers count whole milliseconds from the instant when they are set (`Duration.IsFirstTick`), and a
wait of more than thirty years ends after thirty years. A call that begins at a whole millisecond
and waits for nothing longer has the race in which each timer fires at the first whole millisecond
that is not before it is due (`Fetch.race_eq_wholeRace`); `race_not_whole` shows that neither
condition can be dropped.

While the call waits, the clock is not beyond the end of its fetch (`Session.Racing`). So the poll
that finds the fetch ended comes at its ending, where `Fetch.result?`, which only looks at what has
come by now, sees nothing that lost the race.
-/

namespace LatestTag

/-! ## Timers -/

/-- The time is the first one, at a distance of whole milliseconds from `now`, by which the
millisecond that has begun is not before `due`. If `now` is a whole millisecond, it is the first
whole millisecond that is not before `due`. -/
structure Duration.IsFirstTick (now due time : Nat) : Prop where
  phase : time % millisecond = now % millisecond
  due_le : due ≤ time - time % millisecond
  least : ∀ other, other % millisecond = now % millisecond →
    due ≤ other - other % millisecond → time ≤ other

theorem Duration.isFirstTick_fire {now due : Nat} (hle : now ≤ due) :
    IsFirstTick now due (fire now due) := by
  have hms : millisecond = 1000000 := rfl
  have htick := le_toTick due
  have hlt := toTick_lt due
  have hdvd := dvd_toTick due
  have hfire : fire now due = toTick due + now % millisecond := by
    unfold fire
    rw [hms]
    omega
  rw [hfire]
  rw [hms] at hdvd hlt ⊢
  refine ⟨?_, ?_, fun other hphase hother => ?_⟩
  · rw [hms]
    omega
  · rw [hms]
    omega
  · rw [hms] at hphase hother
    omega

theorem Duration.isFirstTick_wake (now duration : Nat) :
    IsFirstTick now (now + min duration longestWait) (wake now duration) :=
  isFirstTick_fire (Nat.le_add_right _ _)

/-! ## Races -/

/-- The instants of a race: when the answer comes, and when the time limit ends and the signal
comes, if ever. -/
structure Race where
  /-- When the answer comes. -/
  completion : Nat
  /-- When the time limit ends. -/
  expiry : Option Nat
  /-- When the signal comes. -/
  cancellation : Option Nat

namespace Race

/-- The answer wins: it comes before the signal, and not after the end of the time limit. -/
def Completes (race : Race) : Prop :=
  (∀ time ∈ race.cancellation, race.completion < time) ∧ ∀ time ∈ race.expiry, race.completion ≤ time

/-- When and how a fetch ends that has the race. -/
inductive Ends (race : Race) (fetch : Fetch) : Nat → Except FetchError (List ImageTag) → Prop where
  /-- The signal comes, and neither of the others before it. -/
  | cancelled {time : Nat} (hcancellation : race.cancellation = some time)
      (hcompletion : time ≤ race.completion) (hexpiry : ∀ other ∈ race.expiry, time ≤ other) :
      Ends race fetch time (.error .cancelled)
  /-- The answer wins. -/
  | completed (hcompletes : race.Completes) :
      Ends race fetch race.completion fetch.behaviour.answer
  /-- The time limit ends before the others come; the error says how long it was. -/
  | expired {time timeout : Nat} (htimeout : fetch.timeout = some timeout)
      (hexpiry : race.expiry = some time) (hcompletion : time < race.completion)
      (hcancellation : ∀ other ∈ race.cancellation, time < other) :
      Ends race fetch time (.error (.timeout timeout))

/-- The instants are those of timers that are set when the fetch begins, where a wait for some
duration takes `wait` of it. An answer without delay takes no timer. -/
structure IsTimed (race : Race) (wait : Nat → Nat) (fetch : Fetch) : Prop where
  completion : if fetch.behaviour.delay = 0 then race.completion = fetch.began else
    Duration.IsFirstTick fetch.began (fetch.began + wait fetch.behaviour.delay) race.completion
  expiry : Option.Rel (fun timeout => Duration.IsFirstTick fetch.began (fetch.began + wait timeout))
    fetch.timeout race.expiry
  cancellation : Option.Rel
    (fun signal => Duration.IsFirstTick fetch.began (fetch.began + wait signal))
    fetch.signal race.cancellation

end Race

namespace Fetch

/-- The race of the fetch. -/
def race (fetch : Fetch) : Race := ⟨fetch.completion, fetch.expiry, fetch.cancellation⟩

variable {fetch : Fetch} {time : Nat} {result : Except FetchError (List ImageTag)}

/-- A wait of more than thirty years ends after thirty years. -/
theorem isTimed_race (fetch : Fetch) : fetch.race.IsTimed (min · Duration.longestWait) fetch := by
  constructor
  · show if _ then Duration.afterWait _ _ = _ else Duration.IsFirstTick _ _ (Duration.afterWait _ _)
    unfold Duration.afterWait
    split
    · rfl
    · exact Duration.isFirstTick_wake _ _
  · show Option.Rel _ fetch.timeout (fetch.timeout.map _)
    cases fetch.timeout with
    | none => exact .none
    | some timeout => exact .some (Duration.isFirstTick_wake _ _)
  · show Option.Rel _ fetch.signal (fetch.signal.map _)
    cases fetch.signal with
    | none => exact .none
    | some signal => exact .some (Duration.isFirstTick_wake _ _)

/-- The race as it would be if each timer fired at the first whole millisecond that is not before it
is due. -/
def wholeRace (fetch : Fetch) : Race where
  completion := if fetch.behaviour.delay = 0 then fetch.began
    else Duration.toTick (fetch.began + fetch.behaviour.delay)
  expiry := fetch.timeout.map fun timeout => Duration.toTick (fetch.began + timeout)
  cancellation := fetch.signal.map fun signal => Duration.toTick (fetch.began + signal)

/-- A fetch that begins at a whole millisecond, with no wait of more than thirty years, has this
race. -/
theorem race_eq_wholeRace (hbegan : Duration.millisecond ∣ fetch.began)
    (hdelay : fetch.behaviour.delay ≤ Duration.longestWait)
    (htimeout : ∀ timeout ∈ fetch.timeout, timeout ≤ Duration.longestWait)
    (hsignal : ∀ signal ∈ fetch.signal, signal ≤ Duration.longestWait) :
    fetch.race = fetch.wholeRace := by
  have hcompletion : fetch.completion = fetch.wholeRace.completion := by
    rw [completion, Duration.afterWait, Duration.wake_of_dvd hbegan hdelay]
    rfl
  have hexpiry : fetch.expiry = fetch.wholeRace.expiry :=
    Option.map_congr fun timeout hmem => Duration.wake_of_dvd hbegan (htimeout timeout hmem)
  have hcancellation : fetch.cancellation = fetch.wholeRace.cancellation :=
    Option.map_congr fun signal hmem => Duration.wake_of_dvd hbegan (hsignal signal hmem)
  rw [race, hcompletion, hexpiry, hcancellation]

theorem le_ending_iff : time ≤ fetch.ending ↔ time ≤ fetch.completion ∧
    (∀ other ∈ fetch.cancellation, time ≤ other) ∧ ∀ other ∈ fetch.expiry, time ≤ other := by
  unfold ending
  cases fetch.cancellation <;> cases fetch.expiry <;> simp

/-- A fetch does not end before it has begun. -/
theorem began_le_ending (fetch : Fetch) : fetch.began ≤ fetch.ending := by
  have hwake (duration : Nat) : fetch.began ≤ Duration.wake fetch.began duration :=
    Nat.le_max_left _ _
  rw [le_ending_iff]
  refine ⟨?_, fun other hother => ?_, fun other hother => ?_⟩
  · unfold completion Duration.afterWait
    split
    · exact Nat.le_refl _
    · exact hwake _
  · obtain ⟨signal, -, rfl⟩ := Option.map_eq_some_iff.1 hother
    exact hwake signal
  · obtain ⟨timeout, -, rfl⟩ := Option.map_eq_some_iff.1 hother
    exact hwake timeout

/-- What has come by now decides the result: the signal, else the answer, else the time limit. -/
theorem result?_eq_some_iff {now : Nat} : fetch.result? now = some result ↔
    (∃ time ∈ fetch.cancellation, time ≤ now) ∧ result = .error .cancelled ∨
    (∀ time ∈ fetch.cancellation, now < time) ∧ fetch.completion ≤ now ∧
      result = fetch.behaviour.answer ∨
    (∀ time ∈ fetch.cancellation, now < time) ∧ now < fetch.completion ∧
      ∃ timeout time, fetch.timeout = some timeout ∧ fetch.expiry = some time ∧ time ≤ now ∧
        result = .error (.timeout timeout) := by
  have hsignal : fetch.cancellation.any (· ≤ now) = true ↔
      ∃ time ∈ fetch.cancellation, time ≤ now := by
    simp [Option.any_eq_true]
  have hnone : (∀ time ∈ fetch.cancellation, now < time) ↔
      ¬ ∃ time ∈ fetch.cancellation, time ≤ now := by
    simp
  rw [hnone, result?, expiry]
  by_cases hcancelled : ∃ time ∈ fetch.cancellation, time ≤ now
  · rw [if_pos (hsignal.2 hcancelled)]
    simp only [hcancelled, not_true_eq_false, false_and, or_false, true_and, Option.some.injEq]
    exact eq_comm
  · rw [if_neg fun hany => hcancelled (hsignal.1 hany)]
    simp only [hcancelled, not_false_eq_true, false_and, false_or, true_and]
    by_cases hcompletion : fetch.completion ≤ now
    · rw [if_pos hcompletion]
      simp only [hcompletion, Nat.not_lt.2 hcompletion, false_and, or_false, true_and,
        Option.some.injEq]
      exact eq_comm
    · rw [if_neg hcompletion]
      simp only [hcompletion, Nat.lt_of_not_le hcompletion, false_and, false_or, true_and]
      cases fetch.timeout with
      | none => simp
      | some timeout => simp [eq_comm]

/-- **At its ending** a fetch has the result that the race decides. -/
theorem ends_iff :
    fetch.race.Ends fetch time result ↔ time = fetch.ending ∧ fetch.result? time = some result := by
  rw [result?_eq_some_iff]
  constructor
  · intro hends
    cases hends with
    | cancelled heq hcompletion hexpiry =>
      have heq : fetch.cancellation = some time := heq
      have hsignal : ∀ other ∈ fetch.cancellation, time ≤ other := fun other hother =>
        Nat.le_of_eq (Option.some.inj (heq.symm.trans hother))
      have hle := (le_ending_iff.1 (Nat.le_refl fetch.ending)).2.1 time heq
      have hge := le_ending_iff.2 ⟨hcompletion, hsignal, hexpiry⟩
      exact ⟨Nat.le_antisymm hge hle, Or.inl ⟨⟨time, heq, Nat.le_refl time⟩, rfl⟩⟩
    | completed hcompletes =>
      obtain ⟨hsignal, hexpiry⟩ := hcompletes
      have hle := (le_ending_iff.1 (Nat.le_refl fetch.ending)).1
      have hge := le_ending_iff.2 ⟨Nat.le_refl fetch.completion, fun other hother =>
        Nat.le_of_lt (hsignal other hother), hexpiry⟩
      exact ⟨Nat.le_antisymm hge hle, Or.inr (Or.inl ⟨hsignal, Nat.le_refl _, rfl⟩)⟩
    | @expired _ timeout htimeout heq hcompletion hsignal =>
      have heq : fetch.expiry = some time := heq
      have hexpiry : ∀ other ∈ fetch.expiry, time ≤ other := fun other hother =>
        Nat.le_of_eq (Option.some.inj (heq.symm.trans hother))
      have hle := (le_ending_iff.1 (Nat.le_refl fetch.ending)).2.2 time heq
      have hge := le_ending_iff.2 ⟨Nat.le_of_lt hcompletion, fun other hother =>
        Nat.le_of_lt (hsignal other hother), hexpiry⟩
      exact ⟨Nat.le_antisymm hge hle, Or.inr (Or.inr ⟨hsignal, hcompletion, timeout, time, htimeout,
        heq, Nat.le_refl time, rfl⟩)⟩
  · rintro ⟨rfl, hresult⟩
    -- nothing comes before the ending, so what has come by then comes at that instant
    obtain ⟨hcompletion, hsignal, hexpiry⟩ := le_ending_iff.1 (Nat.le_refl fetch.ending)
    rcases hresult with ⟨⟨time, heq, hle⟩, rfl⟩ | ⟨hbefore, hle, rfl⟩ |
      ⟨hbefore, hlt, timeout, time, htimeout, heq, hle, rfl⟩
    · obtain rfl := Nat.le_antisymm hle (hsignal time heq)
      exact .cancelled heq hcompletion hexpiry
    · have heq := Nat.le_antisymm hle hcompletion
      rw [← heq] at hbefore hexpiry ⊢
      exact .completed ⟨hbefore, hexpiry⟩
    · obtain rfl := Nat.le_antisymm hle (hexpiry time heq)
      exact .expired htimeout heq hlt hbefore

end Fetch

theorem Race.Ends.unique {fetch : Fetch} {time time' : Nat}
    {result result' : Except FetchError (List ImageTag)} (h : fetch.race.Ends fetch time result)
    (h' : fetch.race.Ends fetch time' result') : time = time' ∧ result = result' := by
  obtain ⟨rfl, hresult⟩ := Fetch.ends_iff.1 h
  obtain ⟨rfl, hresult'⟩ := Fetch.ends_iff.1 h'
  exact ⟨rfl, Option.some.inj (hresult.symm.trans hresult')⟩

/-- A race ends when one of its instants comes. -/
theorem Race.Ends.comes {race : Race} {fetch : Fetch} {time : Nat}
    {result : Except FetchError (List ImageTag)} (h : race.Ends fetch time result) :
    time = race.completion ∨ race.expiry = some time ∨ race.cancellation = some time := by
  cases h with
  | cancelled hcancellation => exact Or.inr (Or.inr hcancellation)
  | completed => exact Or.inl rfl
  | expired _ hexpiry => exact Or.inr (Or.inl hexpiry)

/-- Only the answer brings tags. -/
theorem Race.Ends.of_ok {race : Race} {fetch : Fetch} {time : Nat} {tags : List ImageTag}
    (h : race.Ends fetch time (.ok tags)) :
    race.Completes ∧ fetch.behaviour.answer = .ok tags ∧ time = race.completion := by
  generalize hresult : Except.ok tags = result at h
  cases h with
  | cancelled => exact absurd hresult (by simp)
  | completed hcompletes => exact ⟨hcompletes, rfl, rfl⟩
  | expired => exact absurd hresult (by simp)

/-! ## One turn of the call -/

/-- The end of the request whose fetch has ended so. -/
def Request.concluded (request : Request) : Except FetchError (List ImageTag) → Outcome
  | .error cause => request.failed cause
  | .ok [] => .error (.emptyResult request.url)
  | .ok (tag :: tags) => request.answered (tag :: tags)

/-- A call with a fetch to look after ends if that has ended, and else waits for it. -/
theorem Resolver.Turn.eq_of_fetch {resolver later : Resolver} {call next : Call} {clients : Clients}
    {fetch : Fetch} (hturn : Turn resolver call clients later next)
    (hfetch : resolver.fetch? call clients = some fetch) :
    next = match fetch.result? resolver.store.now with
      | some result => resolver.ended call (call.request.concluded result)
      | none => ⟨call.request, .fetching fetch, call.hasAsked || resolver.asks call⟩ := by
  cases hturn with
  | idle hnone => exact absurd (hfetch.symm.trans hnone) (by simp)
  | immediate hpending hstart himmediate =>
    exact absurd (hfetch.symm.trans (fetch?_of_immediate? hpending himmediate)) (by simp)
  | waits hother hresult =>
    obtain rfl := Option.some.inj (hfetch.symm.trans hother)
    rw [hresult]
  | fails hother hresult =>
    obtain rfl := Option.some.inj (hfetch.symm.trans hother)
    rw [hresult]
    rfl
  | misses hother hresult =>
    obtain rfl := Option.some.inj (hfetch.symm.trans hother)
    rw [hresult]
    rfl
  | stores hother hresult hne =>
    obtain rfl := Option.some.inj (hfetch.symm.trans hother)
    obtain ⟨tag, tags, rfl⟩ := List.exists_cons_of_ne_nil hne
    rw [hresult]
    rfl

/-- A call that waits behind its turn waits for an end that is still to come. -/
theorem Resolver.Turn.lt_ending {resolver later : Resolver} {call next : Call} {clients : Clients}
    {fetch : Fetch} (hturn : Turn resolver call clients later next)
    (hprogress : next.progress = .fetching fetch) : resolver.store.now < fetch.ending := by
  cases hturn with
  | idle _ hwake => exact hwake fetch.ending (by rw [Call.wake?, hprogress]; rfl)
  | waits hfetch hresult =>
    obtain rfl := Progress.fetching.inj hprogress
    refine Nat.lt_of_not_le fun hle => ?_
    have hsome := (Fetch.result?_isSome_iff _ _).2 hle
    rw [hresult] at hsome
    exact absurd hsome (by simp)
  | immediate | fails | misses | stores => exact absurd hprogress (by simp [ended])

namespace Session

/-- The call at a position stores the tags of an image at a time. -/
def StoresBy (position : Nat) (url : String) (tags : List ImageTag) (time : Nat)
    (session : Session) (event : Event) : Prop :=
  (∃ clients, event = .poll position clients) ∧ Stores url tags time session event

variable {start session : Session} {events : List Event} {event : Event} {position : Nat}
  {call : Call} {request : Request} {clients : Clients} {fetch : Fetch} {url : String}
  {tags : List ImageTag} {time : Nat}

/-- A call stores tags at the poll at which its fetch has brought some. -/
theorem storesBy_poll_iff (hcall : session.calls[position]? = some call)
    (hfetch : session.resolver.fetch? call clients = some fetch) :
    StoresBy position url tags time session (.poll position clients) ↔
      url = call.request.url ∧ tags ≠ [] ∧
        fetch.result? session.resolver.store.now = some (.ok tags) ∧
        time = session.resolver.store.now := by
  rw [StoresBy, stores_iff, effect?_poll_eq_some_iff]
  constructor
  · rintro ⟨-, ⟨key, stored, heq, hne, hgets⟩, hnow⟩
    obtain ⟨rfl, rfl⟩ := TagStore.Action.insert.inj heq
    obtain ⟨other, others, otherFetch, hpoll, hother, hurl, hotherFetch, hresult, -⟩ := hgets
    obtain ⟨-, rfl⟩ := Event.poll.inj hpoll
    obtain rfl := Option.some.inj (hcall.symm.trans hother)
    obtain rfl := Option.some.inj (hfetch.symm.trans hotherFetch)
    exact ⟨hurl.symm, hne, hresult, hnow.symm⟩
  · rintro ⟨rfl, hne, hresult, rfl⟩
    exact ⟨⟨clients, rfl⟩, ⟨_, tags, rfl, hne, call, clients, fetch, rfl, hcall, rfl, hfetch,
      hresult, rfl⟩, rfl⟩

/-- A call that has no fetch stores nothing. -/
theorem not_storesBy (hcall : session.calls[position]? = some call)
    (hfetch : ∀ clients, session.resolver.fetch? call clients = none) :
    ¬ StoresBy position url tags time session event := by
  rintro ⟨⟨clients, rfl⟩, hstores⟩
  obtain ⟨key, stored, -, -, hgets⟩ := effect?_poll_eq_some_iff.1 (stores_iff.1 hstores).1
  obtain ⟨other, others, fetch, hpoll, hother, -, hsome, -⟩ := hgets
  obtain rfl := Option.some.inj (hcall.symm.trans hother)
  exact absurd ((hfetch others).symm.trans hsome) (by simp)

/-! ## The race of a call -/

/-- How far the call at a position has come in a run that does not pass over its time. -/
inductive Racing (start : Session) (events : List Event) (position : Nat) (request : Request)
    (fetch : Fetch) : Prop where
  /-- It waits for its fetch, whose end has not passed. -/
  | waits {call : Call} (hcall : (start.run events).calls[position]? = some call)
      (hrequest : call.request = request) (hprogress : call.progress = .fetching fetch)
      (hnow : (start.run events).resolver.store.now ≤ fetch.ending)
      (hstores : ∀ url tags time, ¬ Occurs start events (StoresBy position url tags time))
  /-- It has ended as the race has, and has stored what that has brought. -/
  | ended {call : Call} {time : Nat} {result : Except FetchError (List ImageTag)}
      (hcall : (start.run events).calls[position]? = some call)
      (hprogress : call.progress = .ended time (request.concluded result))
      (hends : fetch.race.Ends fetch time result)
      (hnow : time ≤ (start.run events).resolver.store.now)
      (hstores : ∀ url tags stored, Occurs start events (StoresBy position url tags stored) ↔
        url = request.url ∧ tags ≠ [] ∧ result = .ok tags ∧ stored = time)

theorem occurs_append_singleton {kind : Session → Event → Prop} :
    Occurs start (events ++ [event]) kind ↔
      Occurs start events kind ∨ kind (start.run events) event :=
  happens_append_singleton

/-- **One turn** of a call whose time has not passed: it ends if its fetch ends now. -/
theorem racing_poll (hcall : (start.run events).calls[position]? = some call)
    (hfetch : (start.run events).resolver.fetch? call clients = some fetch)
    (hnow : (start.run events).resolver.store.now ≤ fetch.ending)
    (hstores : ∀ url tags time, ¬ Occurs start events (StoresBy position url tags time)) :
    Racing start (events ++ [.poll position clients]) position call.request fetch := by
  obtain ⟨next, hnext, ⟨hnot, -⟩ | ⟨others, heq, hturn⟩⟩ :=
    exists_call_step (.poll position clients) hcall
  · exact absurd rfl (hnot clients)
  · obtain ⟨-, rfl⟩ := Event.poll.inj heq
    have hframe := hturn.frame.2.2.1
    have hprogress := hturn.eq_of_fetch hfetch
    rw [← run_append] at hnext hframe
    have hoccurs (url : String) (tags : List ImageTag) (time : Nat) :
        Occurs start (events ++ [.poll position clients]) (StoresBy position url tags time) ↔
          url = call.request.url ∧ tags ≠ [] ∧
            fetch.result? (start.run events).resolver.store.now = some (.ok tags) ∧
            time = (start.run events).resolver.store.now := by
      rw [occurs_append_singleton, or_iff_right (hstores url tags time),
        storesBy_poll_iff hcall hfetch]
    cases hresult : fetch.result? (start.run events).resolver.store.now with
    | none =>
      rw [hresult] at hprogress
      refine .waits hnext (by rw [hprogress]) (by rw [hprogress]) (hframe ▸ hnow) ?_
      intro url tags time hstored
      rw [hoccurs, hresult] at hstored
      exact absurd hstored.2.2.1 (by simp)
    | some result =>
      rw [hresult] at hprogress
      have hending : fetch.ending ≤ (start.run events).resolver.store.now :=
        (fetch.result?_isSome_iff _).1 (by rw [hresult]; rfl)
      have hends := Fetch.ends_iff.2 ⟨Nat.le_antisymm hnow hending, hresult⟩
      refine .ended hnext (by rw [hprogress]; rfl) hends (Nat.le_of_eq hframe.symm) ?_
      intro url tags time
      rw [hoccurs, hresult, Option.some.injEq]

/-- The clock stays before the end of what it does not pass over. -/
theorem now_step_le {wake : Nat} (hcall : session.calls[position]? = some call)
    (hwake : call.wake? = some wake) (hnow : session.resolver.store.now ≤ wake)
    (hnot : ¬ session.Overtakes position event) :
    (session.step event).resolver.store.now ≤ wake := by
  by_cases helapse : ∃ duration, event = .act (.elapse duration)
  · obtain ⟨duration, rfl⟩ := helapse
    have hle : ¬ max session.resolver.store.now wake < session.resolver.store.now + duration :=
      fun hlt => hnot ⟨duration, call, wake, rfl, hcall, hwake, hlt⟩
    show session.resolver.store.now + duration ≤ wake
    omega
  · rw [now_step_of_ne fun duration heq => helapse ⟨duration, heq⟩]
    exact hnow

/-- **One event** that does not pass over the time of the call takes its race on. -/
theorem Racing.append (h : Racing start events position request fetch)
    (hnot : ¬ (start.run events).Overtakes position event) :
    Racing start (events ++ [event]) position request fetch := by
  cases h with
  | waits hcall hrequest hprogress hnow hstores =>
    rename_i call
    by_cases hpoll : ∃ clients, event = .poll position clients
    · obtain ⟨clients, rfl⟩ := hpoll
      have hfetch : (start.run events).resolver.fetch? call clients = some fetch := by
        rw [Resolver.fetch?, hprogress]
      rw [← hrequest]
      exact racing_poll hcall hfetch hnow hstores
    · obtain ⟨later, hlater, ⟨-, rfl⟩ | ⟨clients, heq, -⟩⟩ := exists_call_step event hcall
      · have hwake : later.wake? = some fetch.ending := by rw [Call.wake?, hprogress]
        have hle := now_step_le hcall hwake hnow hnot
        rw [← run_append] at hlater hle
        refine .waits hlater hrequest hprogress hle ?_
        intro url tags time hstored
        rcases occurs_append_singleton.1 hstored with hbefore | ⟨hpolled, -⟩
        · exact hstores url tags time hbefore
        · exact hpoll hpolled
      · exact absurd ⟨clients, heq⟩ hpoll
  | ended hcall hprogress hends hnow hstores =>
    have hlater := call_run_of_ended [event] hcall hprogress
    rw [run_run] at hlater
    have hle := (frame_step (start.run events) event).2.2.2
    rw [← run_append] at hle
    refine .ended hlater hprogress hends (Nat.le_trans hnow hle) ?_
    intro url tags stored
    have hnone : ¬ StoresBy position url tags stored (start.run events) event :=
      not_storesBy hcall fun clients => by rw [Resolver.fetch?, hprogress]
    rw [occurs_append_singleton, or_iff_left hnone]
    exact hstores url tags stored

theorem Racing.run (h : Racing start events position request fetch) {later : List Event}
    (hnot : ¬ Occurs (start.run events) later (Overtakes position)) :
    Racing start (events ++ later) position request fetch := by
  induction later generalizing events with
  | nil => rwa [List.append_nil]
  | cons event later ih =>
    rw [occurs_cons, not_or, ← run_append] at hnot
    rw [List.append_cons]
    exact ih (h.append hnot.1) hnot.2

/-- A call that waits behind a poll waits for an end that is still to come. -/
theorem now_lt_ending
    (hcall : (session.step (.poll position clients)).calls[position]? = some call)
    (hprogress : call.progress = .fetching fetch) :
    (session.step (.poll position clients)).resolver.store.now < fetch.ending := by
  rw [step] at hcall ⊢
  rcases session.poll_cases position clients with
    ⟨hnone, hpoll⟩ | ⟨earlier, later, next, hearlier, hturn, hpoll⟩
  · rw [hpoll, hnone] at hcall
    exact absurd hcall (by simp)
  · rw [hpoll] at hcall ⊢
    rw [List.getElem?_set_self (List.getElem?_eq_some_iff.1 hearlier).1] at hcall
    obtain rfl := Option.some.inj hcall
    show later.store.now < fetch.ending
    rw [hturn.frame.2.2.1]
    exact hturn.lt_ending hprogress

section Settled

-- The call has been polled since the clock moved, so it does not wait for an end that has come.
variable (hpolled : ∀ call, (start.run events).calls[position]? = some call →
  call.progress = .fetching fetch → (start.run events).resolver.store.now < fetch.ending)

include hpolled

/-- The call has ended exactly if the end of the race has come. -/
theorem Racing.ended_iff (h : Racing start events position request fetch) {outcome : Outcome} :
    (start.run events).calls[position]?.map (·.progress) = some (.ended time outcome) ↔
      ∃ result, fetch.race.Ends fetch time result ∧
        time ≤ (start.run events).resolver.store.now ∧ outcome = request.concluded result := by
  cases h with
  | waits hcall hrequest hprogress hnow hstores =>
    rw [hcall, Option.map_some, hprogress]
    constructor
    · intro heq
      exact absurd heq (by simp)
    · rintro ⟨result, hends, hle, -⟩
      rw [(Fetch.ends_iff.1 hends).1] at hle
      exact absurd hle (Nat.not_le.2 (hpolled _ hcall hprogress))
  | ended hcall hprogress hends hnow hstores =>
    rw [hcall, Option.map_some, hprogress, Option.some.injEq, Progress.ended.injEq]
    constructor
    · rintro ⟨rfl, rfl⟩
      exact ⟨_, hends, hnow, rfl⟩
    · rintro ⟨result, hother, -, rfl⟩
      obtain ⟨rfl, rfl⟩ := hends.unique hother
      exact ⟨rfl, rfl⟩

/-- The call has stored tags exactly if the answer has come, has won and has some. -/
theorem Racing.storesBy_iff (h : Racing start events position request fetch) :
    Occurs start events (StoresBy position url tags time) ↔
      url = request.url ∧ tags ≠ [] ∧ fetch.race.Completes ∧ fetch.behaviour.answer = .ok tags ∧
        time = fetch.race.completion ∧ time ≤ (start.run events).resolver.store.now := by
  cases h with
  | waits hcall hrequest hprogress hnow hstores =>
    constructor
    · intro hstored
      exact absurd hstored (hstores url tags time)
    · rintro ⟨-, -, hcompletes, -, rfl, hle⟩
      rw [(Fetch.ends_iff.1 (.completed hcompletes)).1] at hle
      exact absurd hle (Nat.not_le.2 (hpolled _ hcall hprogress))
  | ended hcall hprogress hends hnow hstores =>
    rw [hstores]
    constructor
    · rintro ⟨rfl, hne, rfl, rfl⟩
      obtain ⟨hcompletes, hanswer, htime⟩ := hends.of_ok
      exact ⟨rfl, hne, hcompletes, hanswer, htime, hnow⟩
    · rintro ⟨rfl, hne, hcompletes, hanswer, rfl, -⟩
      obtain ⟨rfl, rfl⟩ := hends.unique (.completed hcompletes)
      exact ⟨rfl, hne, hanswer, rfl⟩

end Settled

/-- A call that begins, is not cancelled and finds no fresh tags enters its race. -/
theorem Begins.racing (hbegins : Begins position request start (.poll position clients))
    (hsignal : request.signal ≠ some 0) (hmiss : start.resolver.store.get? request.url = none) :
    Racing start [.poll position clients] position request
      (start.resolver.fetch request clients) := by
  obtain ⟨_, call, begins, heq, hcall, rfl, hpending, hle⟩ := hbegins
  have himmediate := Resolver.immediate?_eq_none_iff.2 ⟨hmiss, hsignal⟩
  have hasks := Resolver.asks_iff.2 ⟨begins, hpending, hle, himmediate⟩
  have hfetch : start.resolver.fetch? call clients =
      some (start.resolver.fetch call.request clients) := by
    rw [Resolver.fetch?, hpending]
    exact if_pos hasks
  have hnow := (start.resolver.fetch call.request clients).began_le_ending
  have hcall : (start.run []).calls[position]? = some call := hcall
  exact racing_poll hcall hfetch hnow fun _ _ _ => not_occurs_nil

/-- A call that begins and needs no fetch ends at once, stays so, and asks nobody. -/
theorem Begins.ended (hbegins : Begins position request start (.poll position clients))
    {outcome : Outcome} (himmediate : start.resolver.immediate? request = some outcome) :
    (start.step (.poll position clients)).resolver = start.resolver ∧
      ∀ later, start.questionsOf (.poll position clients :: later) position = [] ∧
        (start.run (.poll position clients :: later)).calls[position]?.map (·.progress) =
          some (.ended start.resolver.store.now outcome) := by
  have hnot : ¬ (start.resolver.store.get? request.url = none ∧ request.signal ≠ some 0) := by
    rw [← Resolver.immediate?_eq_none_iff, himmediate]
    simp
  have hquestions (later : List Event) :
      start.questionsOf (.poll position clients :: later) position = [] := by
    have hbegins' : Begins position request (start.run []) (.poll position clients) := hbegins
    exact (questionsOf_eq hbegins').trans (if_neg hnot)
  obtain ⟨others, call, begins, heq, hcall, rfl, hpending, hle⟩ := hbegins
  have hpoll : start.resolver.poll call clients = (start.resolver,
      { call with progress := .ended start.resolver.store.now outcome }) := by
    simp only [Resolver.poll, hpending, if_pos hle, Resolver.begin, himmediate, Resolver.finish]
  have hended : (start.step (.poll position clients)).calls[position]? =
      some { call with progress := .ended start.resolver.store.now outcome } := by
    rw [step, calls_poll_self clients hcall, hpoll]
  refine ⟨?_, fun later => ⟨hquestions later, ?_⟩⟩
  · rw [step, poll_eq clients hcall, hpoll]
  · have hlater := call_run_of_ended later hended rfl
    have hrun : start.run (.poll position clients :: later) =
        (start.step (.poll position clients)).run later := rfl
    rw [hrun, hlater]
    rfl

/-- **A race decides** how a call ends that begins. If its signal is there it is cancelled, whatever
the cache holds; else it is answered with the tags that are fresh, if there are any, whatever time
limit there is. Both happen at once and without a question to a client, and leave the resolver
alone.

Any other call has a race between the answer of its client, its time limit and its signal. If time
does not pass over the call, then behind any poll of it the call has ended exactly if the end of the
race has come, at that instant and with that result; and it has stored tags exactly if the answer
has won and has some. -/
theorem race_decided {session : Session} {position : Nat} {request : Request} {clients : Clients}
    (hbegins : Begins position request session (.poll position clients)) :
    let begin : Event := .poll position clients
    let now := session.resolver.store.now
    let fetch := session.resolver.fetch request clients
    (request.signal = some 0 → (session.step begin).resolver = session.resolver ∧
      ∀ later, session.questionsOf (begin :: later) position = [] ∧
        (session.run (begin :: later)).calls[position]?.map (·.progress) =
          some (.ended now (request.failed .cancelled))) ∧
    (∀ tags, request.signal ≠ some 0 → session.resolver.store.get? request.url = some tags →
      (session.step begin).resolver = session.resolver ∧
      ∀ later, session.questionsOf (begin :: later) position = [] ∧
        (session.run (begin :: later)).calls[position]?.map (·.progress) =
          some (.ended now (request.answered tags))) ∧
    (request.signal ≠ some 0 → session.resolver.store.get? request.url = none →
      fetch.race.IsTimed (min · Duration.longestWait) fetch ∧
      ∀ events others, ¬ Occurs (session.step begin) events (Overtakes position) →
        let last := session.run (begin :: (events ++ [.poll position others]))
        (∀ time outcome,
          last.calls[position]?.map (·.progress) = some (.ended time outcome) ↔
            ∃ result, fetch.race.Ends fetch time result ∧ time ≤ last.resolver.store.now ∧
              outcome = request.concluded result) ∧
        ∀ url tags time,
          Occurs session (begin :: (events ++ [.poll position others]))
              (StoresBy position url tags time) ↔
            url = request.url ∧ tags ≠ [] ∧ fetch.race.Completes ∧
              fetch.behaviour.answer = .ok tags ∧ time = fetch.race.completion ∧
              time ≤ last.resolver.store.now) := by
  intro begin now fetch
  refine ⟨fun hsignal => hbegins.ended (if_pos hsignal), fun tags hsignal hfresh => ?_,
    fun hsignal hmiss => ⟨fetch.isTimed_race, fun events others hnot => ?_⟩⟩
  · refine hbegins.ended ?_
    rw [Resolver.immediate?, if_neg hsignal, hfresh]
    rfl
  · have hpoll : ¬ (session.run (begin :: events)).Overtakes position (.poll position others) :=
      not_overtakes fun action => by simp
    have hracing : Racing session (begin :: events ++ [.poll position others]) position request
        fetch :=
      ((hbegins.racing hsignal hmiss).run hnot).append hpoll
    have hpolled (call : Call)
        (hcall : (session.run (begin :: events ++ [.poll position others])).calls[position]? =
          some call) (hprogress : call.progress = .fetching fetch) :
        (session.run (begin :: events ++ [.poll position others])).resolver.store.now <
          fetch.ending := by
      rw [run_append] at hcall ⊢
      exact now_lt_ending hcall hprogress
    exact ⟨fun time outcome => hracing.ended_iff hpolled, fun url tags time =>
      hracing.storesBy_iff hpolled⟩

instance (session : Session) (position : Nat) (event : Event) :
    Decidable (session.Overtakes position event) :=
  match event with
  | .act (.elapse duration) =>
    decidable_of_iff (∃ call ∈ session.calls[position]?, ∃ wake ∈ call.wake?,
      max session.resolver.store.now wake < session.resolver.store.now + duration)
      (by simp [Overtakes])
  | .act (.insert _ _) | .act (.remove _) | .act .clear | .act (.sweep _) | .act .tick
  | .act (.spawn _) | .act .stop | .call _ _ | .poll _ _ => isFalse (by simp [Overtakes])

/-- Three calls are about to begin: the first one is cancelled, though there are fresh tags, which
the second one gets, though it has no time; the third one has a time limit of a millisecond and a
half, and a signal that comes after three. -/
def contested : Session :=
  (new ⟨Duration.ofSeconds 1800, some 1500000⟩ (.ofFallback ⟨"docker", fun _ => true⟩)).run
    [.act (.insert "redis" [⟨"7.4.0", "", ⟨0, 0⟩⟩]), .call ⟨"redis", .latestUnless {} (some 0)⟩ 0,
      .call ⟨"redis", .latestWithin {} 0⟩ 0, .call ⟨"nginx", .latestUnless {} (some 3000000)⟩ 0]

/-- The client takes two milliseconds. -/
def slowly : Clients := fun _ _ => ⟨2000000, .ok [⟨"1.25.0", "", ⟨0, 0⟩⟩]⟩

/-- The third call is answered at the instant when its time limit ends. -/
theorem race_decided_of_contested :
    (contested.run [.poll 0 slowly]).calls[0]?.map (·.progress) =
        some (.ended 0 (.error (.fetch "redis" .cancelled))) ∧
      (contested.run [.poll 1 slowly]).calls[1]?.map (·.progress) =
        some (.ended 0 (.ok (.latest ⟨"7.4.0", "", ⟨0, 0⟩⟩))) ∧
      (contested.run [.poll 2 slowly, .act (.elapse 2000000), .poll 2 slowly]).calls[2]?.map
          (·.progress) = some (.ended 2000000 (.ok (.latest ⟨"1.25.0", "", ⟨0, 0⟩⟩))) ∧
      Occurs contested [.poll 2 slowly, .act (.elapse 2000000), .poll 2 slowly]
        (StoresBy 2 "nginx" [⟨"1.25.0", "", ⟨0, 0⟩⟩] 2000000) := by
  have hbegins (position : Nat) {request : Request}
      (hcall : contested.calls[position]? = some ⟨request, .pending 0, false⟩) :
      Begins position request contested (.poll position slowly) :=
    ⟨slowly, _, 0, rfl, hcall, rfl, rfl, Nat.zero_le _⟩
  have hfirst := (race_decided (hbegins 0 rfl)).1 rfl
  have hsecond := (race_decided (hbegins 1 rfl)).2.1 [⟨"7.4.0", "", ⟨0, 0⟩⟩] (by decide) (by decide)
  obtain ⟨-, hthird⟩ := (race_decided (hbegins 2 rfl)).2.2 (by decide) (by decide)
  have hnot : ¬ Occurs (contested.step (.poll 2 slowly)) [.act (.elapse 2000000)] (Overtakes 2) := by
    decide
  obtain ⟨hended, hstored⟩ := hthird [.act (.elapse 2000000)] slowly hnot
  have hcompletes : (contested.resolver.fetch ⟨"nginx", .latestUnless {} (some 3000000)⟩
      slowly).race.Completes := by
    unfold Race.Completes
    decide
  refine ⟨(hfirst.2 []).2, (hsecond.2 []).2, ?_, ?_⟩
  · exact (hended 2000000 _).2 ⟨.ok [⟨"1.25.0", "", ⟨0, 0⟩⟩], .completed hcompletes, by decide, rfl⟩
  · exact (hstored "nginx" [⟨"1.25.0", "", ⟨0, 0⟩⟩] 2000000).2
      ⟨rfl, by decide, hcompletes, rfl, rfl, by decide⟩

/-- The calls of the session that begin and need a fetch end, if they do and time does not pass over
them, as the race that the rule makes of the fetch. -/
def DecidedBy (rule : Fetch → Race) (session : Session) : Prop :=
  ∀ (position : Nat) (request : Request) (clients others : Clients) (events : List Event),
    let begin : Event := .poll position clients
    let fetch := session.resolver.fetch request clients
    Begins position request session begin → request.signal ≠ some 0 →
    session.resolver.store.get? request.url = none →
    ¬ Occurs (session.step begin) events (Overtakes position) →
    ∀ time outcome,
      (session.run (begin :: (events ++ [.poll position others]))).calls[position]?.map
          (·.progress) = some (.ended time outcome) →
        ∃ result, (rule fetch).Ends fetch time result ∧ outcome = request.concluded result

/-- The clock stands at three tenths of a millisecond, and a call with a time limit of a millisecond
is about to begin. -/
def offbeat : Session :=
  (new ⟨Duration.ofSeconds 60, some 1000000⟩ (.ofFallback ⟨"docker", fun _ => true⟩)).run
    [.act .stop, .act (.elapse 300000), .call ⟨"nginx", .latest {}⟩ 300000]

/-- A call whose signal is to come after thirty-five years. -/
def patient : Session :=
  (new ⟨Duration.ofSeconds 1800, none⟩ (.ofFallback ⟨"docker", fun _ => true⟩)).run
    [.call ⟨"nginx", .latestUnless {} (some 1103760000000000000)⟩ 0]

/-- The client takes thirty-one years. -/
def forever : Clients := fun _ _ => ⟨977616000000000000, .ok [⟨"1.25.0", "", ⟨0, 0⟩⟩]⟩

/-- **Timers do not all fire at the first whole millisecond** that is not before they are due. The
time limit of a call that begins at 0.3 ms and has 1 ms ends at 2.3 ms, not at 2 ms; and a call that
begins at a whole millisecond is cancelled after thirty years, though its answer would come after
thirty-one and its signal after thirty-five. -/
theorem race_not_whole :
    ¬ offbeat.DecidedBy Fetch.wholeRace ∧ ¬ patient.DecidedBy Fetch.wholeRace := by
  constructor
  · intro hdecided
    have hbegins : Begins 0 ⟨"nginx", .latest {}⟩ offbeat (.poll 0 slowly) :=
      ⟨slowly, _, 300000, rfl, rfl, rfl, rfl, Nat.le_refl _⟩
    have hended : (offbeat.run [.poll 0 slowly, .act (.elapse 2000000),
        .poll 0 slowly]).calls[0]?.map (·.progress) =
          some (.ended 2300000 (.error (.fetch "nginx" (.timeout 1000000)))) := rfl
    obtain ⟨result, hends, -⟩ := hdecided 0 _ slowly slowly [.act (.elapse 2000000)] hbegins
      (by decide) (by decide) (by decide) _ _ hended
    -- the time limit would end at 2 ms and the answer come at 3 ms
    rcases hends.comes with heq | heq | heq <;> exact absurd heq (by decide)
  · intro hdecided
    have hbegins : Begins 0 ⟨"nginx", .latestUnless {} (some 1103760000000000000)⟩ patient
        (.poll 0 forever) := ⟨forever, _, 0, rfl, rfl, rfl, rfl, Nat.zero_le _⟩
    have hended : (patient.run [.poll 0 forever, .act (.elapse 946080000000000000),
        .poll 0 forever]).calls[0]?.map (·.progress) =
          some (.ended 946080000000000000 (.error (.fetch "nginx" .cancelled))) := rfl
    obtain ⟨result, hends, -⟩ := hdecided 0 _ forever forever [.act (.elapse 946080000000000000)]
      hbegins (by decide) (by decide) (by decide) _ _ hended
    -- after thirty years nothing would have come
    rcases hends.comes with heq | heq | heq <;> exact absurd heq (by decide)

end Session

end LatestTag
