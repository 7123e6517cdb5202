import LatestTag.Proofs.Occurrences

/-!
# Runs without a call

What would a run have been if one of its calls had not been made? `Session.without` leaves a call
out of a session and `Event.without?` its polls out of the events, which the polls of later calls
survive under a new position.

> `run_without`: if none of its polls changes the resolver, a run with the call is the run without
> it, but for the call itself.

All other events do with the call what they do without it (`step_without`), so that nothing else is
needed. The same goes for two sessions that differ in one call each, its twins (`Twins.run`): if
polls of the twins do the same to the resolver, the runs differ in nothing but the twins.
-/

namespace LatestTag

namespace Session

/-- The session without the call at a position. -/
def without (session : Session) (position : Nat) : Session :=
  { session with calls := session.calls.eraseIdx position }

/-- The event as it is without the call at a position, if it is not a poll of that. -/
def Event.without? (position : Nat) : Event → Option Event
  | .poll polled clients =>
    if polled < position then some (.poll polled clients)
    else if polled = position then none
    else some (.poll (polled - 1) clients)
  | .act action => some (.act action)
  | .call request start => some (.call request start)

/-- The call at a position is polled, and that changes the resolver. -/
def Alters (position : Nat) (session : Session) (event : Event) : Prop :=
  ∃ clients, event = .poll position clients ∧
    (session.step event).resolver ≠ session.resolver

variable {session start : Session} {position : Nat} {event other : Event} {clients : Clients}

theorem Event.eq_of_without?_eq_none (h : event.without? position = none) :
    ∃ clients, event = .poll position clients := by
  cases event with
  | act action => exact absurd h (by simp [without?])
  | call request start => exact absurd h (by simp [without?])
  | poll polled clients =>
    simp only [without?] at h
    split at h
    next => exact absurd h (by simp)
    next =>
      split at h
      next heq => exact ⟨clients, heq ▸ rfl⟩
      next => exact absurd h (by simp)

/-- The call stays as it is when another one is polled. -/
theorem calls_step_of_without? {call : Call} (hother : event.without? position = some other)
    (hcall : session.calls[position]? = some call) :
    (session.step event).calls[position]? = some call := by
  obtain ⟨later, hlater, ⟨-, rfl⟩ | ⟨clients, rfl, -⟩⟩ := exists_call_step event hcall
  · exact hlater
  · simp [Event.without?] at hother

/-- A session that is new up to a call is as it was without that. -/
theorem without_call (session : Session) (request : Request) (start : Nat) :
    (session.call request start).without session.calls.length = session := by
  rw [without, Session.call, List.eraseIdx_append_of_length_le (Nat.le_refl _), Nat.sub_self]
  simp

/-- A poll of the call leaves the others as they are. -/
theorem without_poll_self (session : Session) (position : Nat) (clients : Clients) :
    (session.poll position clients).without position =
      ⟨(session.poll position clients).resolver, (session.without position).calls⟩ := by
  rcases session.poll_cases position clients with
    ⟨-, hpoll⟩ | ⟨call, later, next, hcall, hturn, hpoll⟩
  · rw [hpoll, without]
  · rw [hpoll, without, List.eraseIdx_set_eq]
    rfl

/-- An earlier call goes on in the same way. -/
theorem poll_without_of_lt {polled : Nat} (hlt : polled < position) :
    (session.poll polled clients).without position =
      (session.without position).poll polled clients := by
  have hcalls : (session.without position).calls[polled]? = session.calls[polled]? :=
    List.getElem?_eraseIdx_of_lt hlt
  unfold poll
  rw [hcalls]
  cases session.calls[polled]? with
  | none => rfl
  | some call => simp only [without, List.eraseIdx_set_gt hlt]

/-- A later call goes on in the same way, one position before. -/
theorem poll_without_of_gt {polled : Nat} (hlt : position < polled) :
    (session.poll polled clients).without position =
      (session.without position).poll (polled - 1) clients := by
  have hcalls : (session.without position).calls[polled - 1]? = session.calls[polled]? := by
    rw [without, List.getElem?_eraseIdx_of_ge (Nat.le_sub_one_of_lt hlt),
      Nat.sub_add_cancel (Nat.one_le_of_lt hlt)]
  unfold poll
  rw [hcalls]
  cases session.calls[polled]? with
  | none => rfl
  | some call => simp only [without, List.eraseIdx_set_lt hlt]

/-- **One event** of other calls or of the store does the same without the call. -/
theorem step_without (hlt : position < session.calls.length)
    (hother : event.without? position = some other) :
    (session.step event).without position = (session.without position).step other := by
  cases event with
  | act action =>
    obtain rfl := Option.some.inj hother
    rfl
  | call request start =>
    obtain rfl := Option.some.inj hother
    rw [step, step, Session.call, without, List.eraseIdx_append_of_lt_length hlt]
    rfl
  | poll polled clients =>
    simp only [Event.without?] at hother
    split at hother
    next hbefore =>
      obtain rfl := Option.some.inj hother
      exact poll_without_of_lt hbefore
    next hnot =>
      split at hother
      next => exact absurd hother (by simp)
      next hne =>
        obtain rfl := Option.some.inj hother
        exact poll_without_of_gt (by omega)

/-- **A run** with a call that does not change the resolver is the run without it. -/
theorem run_without {events : List Event} (hlt : position < start.calls.length)
    (hquiet : ¬ Occurs start events (Alters position)) :
    (start.run events).without position =
      (start.without position).run (events.filterMap (·.without? position)) := by
  induction events generalizing start with
  | nil => rfl
  | cons event events ih =>
    rw [occurs_cons, not_or] at hquiet
    obtain ⟨later, hlater, -⟩ := exists_call_step event (List.getElem?_eq_getElem hlt)
    have hlt' := (List.getElem?_eq_some_iff.1 hlater).1
    have hrun : ((start.step event).run events).without position =
        ((start.step event).without position).run
          (events.filterMap (·.without? position)) := ih hlt' hquiet.2
    cases hother : event.without? position with
    | none =>
      -- a poll of the call itself, which is left out
      obtain ⟨clients, rfl⟩ := Event.eq_of_without?_eq_none hother
      have hsame : (start.poll position clients).resolver = start.resolver := by
        by_contra hne
        exact hquiet.1 ⟨clients, rfl, hne⟩
      have hstep : (start.step (.poll position clients)).without position =
          start.without position := by
        rw [step, without_poll_self, hsame]
        rfl
      rw [List.filterMap_cons_none hother, ← hstep]
      exact hrun
    | some other =>
      rw [step_without hlt hother] at hrun
      rw [List.filterMap_cons_some hother]
      exact hrun

/-! ## Twins -/

/-- The sessions are the same but for a call each at the position, and these are related. -/
structure Twins (related : Call → Call → Prop) (position : Nat) (session other : Session) :
    Prop where
  without_eq : other.without position = session.without position
  calls : ∃ call twin, session.calls[position]? = some call ∧ other.calls[position]? = some twin ∧
    related call twin

namespace Twins

variable {related : Call → Call → Prop} {twins : Session}

theorem resolver_eq (h : Twins related position session twins) :
    twins.resolver = session.resolver := by
  have hboth : (twins.without position).resolver = (session.without position).resolver := by
    rw [h.without_eq]
  exact hboth

/-- Polls of the twins do the same to the resolver, and keep them related. -/
def Keeps (related : Call → Call → Prop) (position : Nat) (session : Session) : Prop :=
  ∀ call twin clients, session.calls[position]? = some call → related call twin →
    (session.resolver.poll twin clients).1 = (session.resolver.poll call clients).1 ∧
      related (session.resolver.poll call clients).2 (session.resolver.poll twin clients).2

/-- **One event** keeps the sessions the same but for the twins. -/
theorem step (h : Twins related position session twins)
    (hkeeps : Keeps related position session) (event : Event) :
    Twins related position (session.step event) (twins.step event) := by
  obtain ⟨call, twin, hcall, htwin, hrelated⟩ := h.calls
  cases hevent : event.without? position with
  | none =>
    -- the twins themselves are polled
    obtain ⟨clients, rfl⟩ := Event.eq_of_without?_eq_none hevent
    obtain ⟨hsame, hnext⟩ := hkeeps call twin clients hcall hrelated
    have hcall' := calls_poll_self clients hcall
    have htwin' := calls_poll_self clients htwin
    rw [h.resolver_eq] at htwin'
    refine ⟨?_, _, _, hcall', htwin', hnext⟩
    rw [Session.step, Session.step, without_poll_self, without_poll_self, h.without_eq,
      poll_eq clients hcall, poll_eq clients htwin, h.resolver_eq, hsame]
  | some later =>
    have hlt := (List.getElem?_eq_some_iff.1 hcall).1
    have hlt' := (List.getElem?_eq_some_iff.1 htwin).1
    refine ⟨?_, call, twin, calls_step_of_without? hevent hcall,
      calls_step_of_without? hevent htwin, hrelated⟩
    rw [step_without hlt' hevent, step_without hlt hevent, h.without_eq]

/-- **Two runs** differ in nothing but the twins. -/
theorem run {events : List Event} (h : Twins related position session twins)
    (hkeeps : ∀ before after, events = before ++ after →
      Keeps related position (session.run before)) :
    Twins related position (session.run events) (twins.run events) := by
  induction events generalizing session twins with
  | nil => exact h
  | cons event events ih =>
    refine ih (h.step (hkeeps [] _ rfl) event) ?_
    rintro before after rfl
    exact hkeeps (event :: before) after rfl

/-- What the twins have in common, all calls have. -/
theorem map_calls_eq {β : Type} {f : Call → β} (h : Twins related position session twins)
    (hf : ∀ call twin, session.calls[position]? = some call → related call twin →
      f twin = f call) : twins.calls.map f = session.calls.map f := by
  obtain ⟨call, twin, hcall, htwin, hrelated⟩ := h.calls
  have herase : twins.calls.eraseIdx position = session.calls.eraseIdx position :=
    congrArg Session.calls h.without_eq
  refine List.ext_getElem? fun i => ?_
  rw [List.getElem?_map, List.getElem?_map]
  rcases Nat.lt_trichotomy i position with hlt | rfl | hlt
  · rw [← List.getElem?_eraseIdx_of_lt hlt, herase, List.getElem?_eraseIdx_of_lt hlt]
  · rw [hcall, htwin, Option.map_some, Option.map_some, hf call twin hcall hrelated]
  · have hbehind (calls : List Call) : calls[i]? = (calls.eraseIdx position)[i - 1]? := by
      rw [List.getElem?_eraseIdx_of_ge (Nat.le_sub_one_of_lt hlt),
        Nat.sub_add_cancel (Nat.one_le_of_lt hlt)]
    rw [hbehind, herase, ← hbehind]

end Twins

end Session

end LatestTag
