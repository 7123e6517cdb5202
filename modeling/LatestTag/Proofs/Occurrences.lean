import LatestTag.Proofs.Slots
import LatestTag.Proofs.Turns

/-!
# What happens in a run

A property of single events, in the session in which they come, becomes one of runs: in the run
there is such an event (`Session.Occurs`). The events that matter to callers are those that bring
tags: somebody puts some into the cache (`Session.Edits`), a call asks a client for them
(`Session.Asks`) and gets them (`Session.Gets`). Tags that have come in such a way were delivered
(`Session.Delivered`).

What has happened in a run stays so when the run goes on (`Occurs.append`).
-/

namespace LatestTag

/-- The client with a name, which is its position, or none for the default. -/
def Dispatcher.named (dispatcher : Dispatcher) (name : Option Nat) : Client :=
  (name.bind (dispatcher.clients[·]?)).getD dispatcher.fallback

theorem Dispatcher.named_position? (dispatcher : Dispatcher) (url : String) :
    dispatcher.named (dispatcher.position? url) = dispatcher.select url := by
  rw [select, List.find?_eq_bind_findIdx?_getElem?]
  rfl

namespace Session

/-! ## What has happened in a run -/

/-- In the run an event comes that is of the kind, in the session as it is then. -/
def Occurs (start : Session) (events : List Event) (kind : Session → Event → Prop) : Prop :=
  ∃ before event after, events = before ++ event :: after ∧ kind (start.run before) event

/-- The tags of an image are put into the cache at a time. -/
def Edits (url : String) (tags : List ImageTag) (time : Nat) (session : Session) (event : Event) :
    Prop :=
  event = .act (.insert url tags) ∧ session.resolver.store.now = time

/-- The call at a position asks a client for the tags of an image, whose answer will be the one
given. -/
def Asks (position : Nat) (client : Client) (url : String)
    (answer : Except FetchError (List ImageTag)) (session : Session) (event : Event) : Prop :=
  ∃ call clients name, event = .poll position clients ∧ session.calls[position]? = some call ∧
    session.resolver.asks call = true ∧ call.request.url = url ∧
    session.resolver.dispatcher.position? url = name ∧
    session.resolver.dispatcher.named name = client ∧ (clients name url).answer = answer

/-- The call at a position gets the tags of an image from its fetch at a time. -/
def Gets (position : Nat) (url : String) (tags : List ImageTag) (time : Nat) (session : Session)
    (event : Event) : Prop :=
  ∃ call clients fetch, event = .poll position clients ∧ session.calls[position]? = some call ∧
    call.request.url = url ∧ session.resolver.fetch? call clients = some fetch ∧
    fetch.result? session.resolver.store.now = some (.ok tags) ∧
    session.resolver.store.now = time

/-- Who delivers tags. -/
inductive Source where
  /-- Somebody who edits the cache. -/
  | edit
  /-- The client that the call at a position asks. -/
  | call (position : Nat)

/-- The tags of an image were delivered in the run at a time: by an edit, or by the client that
serves the image, in answer to a call that got them at that time. -/
def Delivered (start : Session) (events : List Event) (url : String) (tags : List ImageTag)
    (time : Nat) : Source → Prop
  | .edit => Occurs start events (Edits url tags time)
  | .call position =>
    Occurs start events (Asks position (start.resolver.dispatcher.select url) url (.ok tags)) ∧
      Occurs start events (Gets position url tags time)

section Append

variable {start : Session} {events : List Event} {event : Event}

theorem run_append : start.run (events ++ [event]) = (start.run events).step event := by
  rw [run, List.foldl_append]
  rfl

/-- What has happened stays so when the run goes on. -/
theorem Occurs.append {kind : Session → Event → Prop} (h : Occurs start events kind) :
    Occurs start (events ++ [event]) kind := by
  obtain ⟨before, earlier, after, hevents, hkind⟩ := h
  refine ⟨before, earlier, after ++ [event], ?_, hkind⟩
  rw [hevents, List.append_assoc, List.cons_append]

theorem Occurs.last {kind : Session → Event → Prop} (h : kind (start.run events) event) :
    Occurs start (events ++ [event]) kind :=
  ⟨events, event, [], rfl, h⟩

theorem not_occurs_nil {kind : Session → Event → Prop} : ¬ Occurs start [] kind :=
  not_happens_nil

/-- What happens in a run happens at its first event or in the rest of it. -/
theorem occurs_cons {kind : Session → Event → Prop} : Occurs start (event :: events) kind ↔
    kind start event ∨ Occurs (start.step event) events kind :=
  happens_cons

instance {kind : Session → Event → Prop} [∀ session event, Decidable (kind session event)] :
    Decidable (Occurs start events kind) :=
  inferInstanceAs (Decidable (Happens step start events kind))

theorem Delivered.append {url : String} {tags : List ImageTag} {time : Nat} {source : Source}
    (h : Delivered start events url tags time source) :
    Delivered start (events ++ [event]) url tags time source := by
  cases source with
  | edit => exact Occurs.append h
  | call position => exact ⟨h.1.append, h.2.append⟩

/-- What was delivered in a part of a run was delivered in the run. -/
theorem Delivered.extend {url : String} {tags : List ImageTag} {time : Nat} {source : Source}
    (h : Delivered start events url tags time source) (later : List Event) :
    Delivered start (events ++ later) url tags time source := by
  induction later generalizing events with
  | nil => rwa [List.append_nil]
  | cons event later ih =>
    rw [List.append_cons]
    exact ih h.append

end Append

/-! ## Questions and answers -/

/-- A fetch that has brought tags has brought the answer of its client. -/
theorem answer_of_result? {fetch : Fetch} {now : Nat} {tags : List ImageTag}
    (h : fetch.result? now = some (.ok tags)) : fetch.behaviour.answer = .ok tags := by
  unfold Fetch.result? at h
  split at h
  next => exact absurd h (by simp)
  next =>
    split at h
    next => exact Option.some.inj h
    next =>
      split at h
      next =>
        obtain ⟨timeout, -, htimeout⟩ := Option.map_eq_some_iff.1 h
        exact absurd htimeout (by simp)
      next => exact absurd h (by simp)

/-- A fetch that is looked after began with a question to the client that serves the image. That is
so if it begins right now, and else if it was so before. -/
theorem asked_of_fetch? {start : Session} {events : List Event} {position : Nat}
    {clients : Clients} {call : Call} {fetch : Fetch}
    (hcall : (start.run events).calls[position]? = some call)
    (hfetch : (start.run events).resolver.fetch? call clients = some fetch)
    (hbefore : ∀ fetch, call.progress = .fetching fetch → Occurs start events
      (Asks position (start.resolver.dispatcher.select call.request.url) call.request.url
        fetch.behaviour.answer)) :
    Occurs start (events ++ [.poll position clients])
      (Asks position (start.resolver.dispatcher.select call.request.url) call.request.url
        fetch.behaviour.answer) := by
  unfold Resolver.fetch? at hfetch
  split at hfetch
  next begins hprogress =>
    -- it begins right now
    obtain ⟨hasks, hbegins⟩ := Option.ite_none_right_eq_some.1 hfetch
    obtain rfl := Option.some.inj hbegins
    refine Occurs.last ⟨call, clients, _, rfl, hcall, hasks, rfl, rfl, ?_, rfl⟩
    rw [Dispatcher.named_position?, (frame_run start events).2.1]
  next other hprogress =>
    obtain rfl := Option.some.inj hfetch
    exact (hbefore other hprogress).append
  next => exact absurd hfetch (by simp)

end Session

end LatestTag
