import LatestTag.Proofs.CacheHistory
import LatestTag.Proofs.Occurrences

/-!
# What events do to the cache

Of all that happens in a session two kinds of events change the cache: actions on the store, and the
poll at which a call gets tags from its own fetch, which stores them. `Session.effect?` gives the
action on the store that an event amounts to, so that

> `store_step`: an event acts on the store as its effect does,

and what is known of stores carries over to sessions. In particular

> `find?_step_iff`, `find?_run_iff`: an image has an entry if that has been stored
> (`Session.Stores`) and not been displaced since (`Session.Displaces`).
-/

namespace LatestTag

namespace Session

/-- The action on the store that an event amounts to, if it is one: the event itself, or the insert
of a call that gets tags. -/
def effect? (session : Session) : Event → Option TagStore.Action
  | .act action => some action
  | .call _ _ => none
  | .poll position clients => do
    let call ← session.calls[position]?
    let fetch ← session.resolver.fetch? call clients
    match ← fetch.result? session.resolver.store.now with
    | .ok (tag :: tags) => some (.insert call.request.url (tag :: tags))
    | _ => none

/-- The event stores tags for an image at a time: somebody puts them into the cache, or a call gets
them from its fetch, and there are some. -/
def Stores (url : String) (tags : List ImageTag) (time : Nat) (session : Session) (event : Event) :
    Prop :=
  Edits url tags time session event ∨
    ∃ position, tags ≠ [] ∧ Gets position url tags time session event

/-- The event takes the entry of an image out of the cache, or puts another one in its place: an
action on the store does so, or tags are stored for the image. -/
def Displaces (url : String) (entry : CacheEntry) (session : Session) (event : Event) : Prop :=
  (∃ action, event = .act action ∧ session.resolver.store.Displaces url entry action) ∨
    ∃ tags time, Stores url tags time session event

variable {session : Session} {event : Event} {position : Nat} {clients : Clients} {url : String}
  {tags : List ImageTag} {entry : CacheEntry} {action : TagStore.Action}

/-! ## The effect of a poll -/

theorem effect?_poll_eq_some_iff : session.effect? (.poll position clients) = some action ↔
    ∃ url tags, action = .insert url tags ∧ tags ≠ [] ∧
      Gets position url tags session.resolver.store.now session (.poll position clients) := by
  simp only [effect?, Option.bind_eq_bind, Option.bind_eq_some_iff]
  constructor
  · rintro ⟨call, hcall, fetch, hfetch, result, hresult, heffect⟩
    match result with
    | .ok (tag :: tags) =>
      obtain rfl := Option.some.inj heffect
      exact ⟨_, _, rfl, List.cons_ne_nil tag tags, call, clients, fetch, rfl, hcall, rfl, hfetch,
        hresult, rfl⟩
    | .ok [] => exact absurd heffect (by simp)
    | .error cause => exact absurd heffect (by simp)
  · rintro ⟨url, tags, rfl, hne, call, _, fetch, ⟨⟩, hcall, rfl, hfetch, hresult, -⟩
    obtain ⟨tag, tags, rfl⟩ := List.exists_cons_of_ne_nil hne
    exact ⟨call, hcall, fetch, hfetch, _, hresult, rfl⟩

/-- **One event** acts on the store as its effect does. Of the turns that a call can take only one
changes the store, by an insert. -/
theorem store_step (session : Session) (event : Event) : (session.step event).resolver.store =
    (session.effect? event).elim session.resolver.store session.resolver.store.step := by
  cases event with
  | act action => rfl
  | call request start => rfl
  | poll position clients =>
    rw [step]
    rcases session.poll_cases position clients with
      ⟨hnone, hpoll⟩ | ⟨call, later, next, hcall, hturn, hpoll⟩
    · rw [hpoll, effect?, hnone]
      rfl
    · rw [hpoll, effect?, hcall]
      -- each turn says what has become of the fetch, and that decides the effect
      cases hturn with
      | idle hfetch => simp [hfetch]
      | immediate hpending hstart himmediate =>
        simp [Resolver.fetch?_of_immediate? hpending himmediate]
      | waits hfetch hresult => simp [hfetch, hresult]
      | fails hfetch hresult => simp [hfetch, hresult]
      | misses hfetch hresult => simp [hfetch, hresult]
      | @stores fetch tags hfetch hresult hne =>
        obtain ⟨tag, tags, rfl⟩ := List.exists_cons_of_ne_nil hne
        simp [hfetch, hresult, Resolver.storing]

/-! ## Entries -/

/-- To store tags is to have the effect of an insert. -/
theorem stores_iff {time : Nat} : Stores url tags time session event ↔
    session.effect? event = some (.insert url tags) ∧ session.resolver.store.now = time := by
  cases event with
  | act action => simp [Stores, Edits, Gets, effect?]
  | call request start => simp [Stores, Edits, Gets, effect?]
  | poll position clients =>
    rw [effect?_poll_eq_some_iff]
    constructor
    · rintro (⟨heq, -⟩ | ⟨other, hne, hgets⟩)
      · exact absurd heq (by simp)
      · obtain ⟨call, clients', fetch, heq, hcall, hurl, hfetch, hresult, rfl⟩ := hgets
        obtain ⟨rfl, rfl⟩ := Event.poll.inj heq
        exact ⟨⟨url, tags, rfl, hne, call, clients, fetch, rfl, hcall, hurl, hfetch, hresult, rfl⟩,
          rfl⟩
    · rintro ⟨⟨key, other, heq, hne, hgets⟩, rfl⟩
      obtain ⟨rfl, rfl⟩ := TagStore.Action.insert.inj heq
      exact Or.inr ⟨position, hne, hgets⟩

/-- What displaces an entry does so by its effect. -/
theorem displaces_iff : Displaces url entry session event ↔
    ∃ action, session.effect? event = some action ∧
      session.resolver.store.Displaces url entry action := by
  constructor
  · rintro (⟨action, rfl, hdisplaces⟩ | ⟨tags, time, hstores⟩)
    · exact ⟨action, rfl, hdisplaces⟩
    · exact ⟨_, (stores_iff.1 hstores).1, rfl⟩
  · rintro ⟨action, heffect, hdisplaces⟩
    cases event with
    | act other =>
      obtain rfl := Option.some.inj heffect
      exact Or.inl ⟨other, rfl, hdisplaces⟩
    | call request start => exact absurd heffect (by simp [effect?])
    | poll position clients =>
      obtain ⟨key, tags, rfl, hne, hgets⟩ := effect?_poll_eq_some_iff.1 heffect
      obtain rfl : key = url := hdisplaces
      exact Or.inr ⟨tags, _, Or.inr ⟨position, hne, hgets⟩⟩

/-- **One event**: an image has an entry behind it if that has just been stored, or if it was there
before and has not been displaced. -/
theorem find?_step_iff : (session.step event).resolver.store.cache.find? url = some entry ↔
    Stores url entry.tags entry.storedAt session event ∨
      session.resolver.store.cache.find? url = some entry ∧
        ¬ Displaces url entry session event := by
  rw [store_step, stores_iff, displaces_iff]
  cases session.effect? event with
  | none => simp
  | some action => simp [TagStore.find?_step_iff]

/-- The entry of an image, as a slot that events fill and void. -/
def entrySlot (url : String) : Slot Session Event CacheEntry where
  next := step
  held? session := session.resolver.store.cache.find? url
  Fills session event entry := Stores url entry.tags entry.storedAt session event
  Voids session event entry := Displaces url entry session event
  held?_next _ _ _ := find?_step_iff

/-- **One run**: an image has an entry at its end if that was stored in the run, and has not been
displaced since. -/
theorem find?_run_iff {start : Session} (hempty : start.resolver.store.cache.find? url = none)
    (events : List Event) :
    (start.run events).resolver.store.cache.find? url = some entry ↔
      ∃ before event after, events = before ++ event :: after ∧
        Stores url entry.tags entry.storedAt (start.run before) event ∧
        ¬ Occurs (start.run (before ++ [event])) after (Displaces url entry) :=
  (entrySlot url).held?_run_iff hempty events entry

end Session

end LatestTag
