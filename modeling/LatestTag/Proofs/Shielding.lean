import LatestTag.Proofs.Provenance
import LatestTag.Proofs.Questions

/-!
# What the cache keeps from the clients

Registries are to be asked as seldom as the tags in the cache allow.

> `cache_shields_clients`: a call asks one client or none, and which of the two it is depends only
> on the lookup with which it begins and on its signal to give up; and once tags of an image have
> been stored, no call for it asks for as long as they are fresh, unless somebody takes them out.

Behind the second half is that an entry may be replaced while it is fresh, but only by a newer one
(`kept_step`), whatever calls end in the meantime and however the sweeper behaves.
-/

namespace LatestTag

namespace Session

/-- Somebody takes the tags of an image out of the cache: by a removal, by a clearing, or by a sweep
that is ahead of the clock. -/
def TakesOut (url : String) (session : Session) (event : Event) : Prop :=
  event = .act (.remove url) ∨ event = .act .clear ∨
    ∃ time, event = .act (.sweep time) ∧ session.resolver.store.now < time

variable {session : Session} {event : Event} {events : List Event} {url : String}
  {entry : CacheEntry}

/-- An entry that is still fresh behind an event is not displaced by it, unless tags are stored for
the image or somebody takes them out. The sweeper only takes out what is stale by its deadline, and
that has come. -/
theorem not_displaces_of_fresh (hstored : entry.storedAt ≤ session.resolver.store.now)
    (hstores : ∀ tags time, ¬ Stores url tags time session event)
    (hkept : ¬ TakesOut url session event)
    (hfresh : session.resolver.store.now < entry.storedAt + session.resolver.store.cache.ttl) :
    ¬ Displaces url entry session event := by
  rintro (⟨action, rfl, hdisplaces⟩ | ⟨tags, time, hnew⟩)
  · cases action with
    | insert key tags =>
      obtain rfl : key = url := hdisplaces
      exact hstores tags _ (Or.inl ⟨rfl, rfl⟩)
    | remove key =>
      obtain rfl : key = url := hdisplaces
      exact hkept (Or.inl rfl)
    | clear => exact hkept (Or.inr (Or.inl rfl))
    | sweep time =>
      have hstale : session.resolver.store.cache.ttl ≤ time - entry.storedAt := hdisplaces
      -- fresh by the clock and stale by the time of the sweep
      have hahead : session.resolver.store.now < time := by omega
      exact hkept (Or.inr (Or.inr ⟨time, rfl, hahead⟩))
    | tick =>
      obtain ⟨sweeper, -, hdue, hstale⟩ := hdisplaces
      omega
    | elapse | spawn | stop => exact hdisplaces
  · exact hstores tags time hnew

/-- **One event** leaves the entry of an image, or a newer one in its place, while the entry is
fresh and nobody takes it out. -/
theorem kept_step (hentry : session.resolver.store.cache.find? url = some entry)
    (hstored : entry.storedAt ≤ session.resolver.store.now)
    (hkept : ¬ TakesOut url session event)
    (hfresh : session.resolver.store.now < entry.storedAt + session.resolver.store.cache.ttl) :
    ∃ later, (session.step event).resolver.store.cache.find? url = some later ∧
      entry.storedAt ≤ later.storedAt ∧
      later.storedAt ≤ (session.step event).resolver.store.now := by
  have hclock := (session.frame_step event).2.2.2
  by_cases hstores : ∃ tags time, Stores url tags time session event
  · -- the new entry is as old as the clock, so not older than the one before
    obtain ⟨tags, time, hnew⟩ := hstores
    obtain rfl := (stores_iff.1 hnew).2
    exact ⟨⟨_, tags⟩, find?_step_iff.2 (Or.inl hnew), hstored, hclock⟩
  · push Not at hstores
    have hnot := not_displaces_of_fresh hstored hstores hkept hfresh
    exact ⟨entry, find?_step_iff.2 (Or.inr ⟨hentry, hnot⟩), Nat.le_refl _,
      Nat.le_trans hstored hclock⟩

/-- **A run** leaves fresh tags of an image to be found, for as long as an entry was fresh at its
beginning and if nobody takes it out. -/
theorem get?_run_ne_none (hentry : session.resolver.store.cache.find? url = some entry)
    (hstored : entry.storedAt ≤ session.resolver.store.now)
    (hkept : ¬ Occurs session events (TakesOut url))
    (hfresh : (session.run events).resolver.store.now <
      entry.storedAt + session.resolver.store.cache.ttl) :
    (session.run events).resolver.store.get? url ≠ none := by
  -- from event to event the entry may be replaced, so the induction is for all entries
  induction events generalizing session entry with
  | nil =>
    have hage : session.resolver.store.now - entry.storedAt <
        session.resolver.store.cache.ttl := by
      have hnow : session.resolver.store.now <
        entry.storedAt + session.resolver.store.cache.ttl := hfresh
      omega
    show session.resolver.store.get? url ≠ none
    rw [TagStore.get?, Cache.get?_eq_map_fresh?,
      (Cache.fresh?_eq_some_iff ..).2 ⟨hentry, hage⟩]
    exact Option.some_ne_none _
  | cons event events ih =>
    rw [occurs_cons, not_or] at hkept
    have hnow : (session.step event).resolver.store.now ≤
        (session.run (event :: events)).resolver.store.now :=
      (frame_run (session.step event) events).2.2.2
    obtain ⟨-, -, httl, hclock⟩ := session.frame_step event
    obtain ⟨later, hlater, hle, hlate⟩ := kept_step hentry hstored hkept.1 (by omega)
    refine ih hlater hlate hkept.2 ?_
    rw [httl]
    exact Nat.lt_of_lt_of_le hfresh (Nat.add_le_add_right hle _)

/-- **Stored tags** are found, or newer ones, for as long as they are fresh and if nobody takes them
out. -/
theorem get?_ne_none_of_stores {start : Session} {before between : List Event} {store : Event}
    {tags : List ImageTag} {time : Nat} (hstores : Stores url tags time (start.run before) store)
    (hkept : ¬ Occurs (start.run (before ++ [store])) between (TakesOut url))
    (hnow : (start.run (before ++ store :: between)).resolver.store.now <
      time + start.resolver.store.cache.ttl) :
    (start.run (before ++ store :: between)).resolver.store.get? url ≠ none := by
  have hrun : start.run (before ++ store :: between) =
      (start.run (before ++ [store])).run between := by
    rw [run_run, ← List.append_cons]
  have hentry : (start.run (before ++ [store])).resolver.store.cache.find? url =
      some ⟨time, tags⟩ := by
    rw [run_append]
    exact find?_step_iff.2 (Or.inl hstores)
  have hstored : time ≤ (start.run (before ++ [store])).resolver.store.now := by
    rw [run_append, ← (stores_iff.1 hstores).2]
    exact (frame_step (start.run before) store).2.2.2
  rw [hrun] at hnow ⊢
  refine get?_run_ne_none hentry hstored hkept ?_
  rw [(frame_run start (before ++ [store])).2.2.1]
  exact hnow

/-- **The cache shields the clients**, in any run on a new resolver. A question is put whenever a
poll depends on a client, the session counts the questions, and each of them goes to the client that
serves the image. A call that has not begun has put none. One that has begun has put one exactly if
its lookup found no fresh tags and its signal to give up, if it has one, had not come by then. And
it has put none if tags for the image were stored less than `ttl` before and nobody has taken them
out since. -/
theorem cache_shields_clients (config : Config) (dispatcher : Dispatcher) (events : List Event) :
    let start := new config dispatcher
    (∀ question, question ∈ start.questions events ↔
      Occurs start events fun session event => ∃ clients, event = .poll question.caller clients ∧
        session.Consults question.caller question.client question.url) ∧
    (∀ client, (start.run events).askedCount client =
      (start.questions events).countP fun question => question.client == client) ∧
    (∀ question ∈ start.questions events,
      dispatcher.named question.client = dispatcher.select question.url) ∧
    (∀ position, (∀ request, ¬ Occurs start events (Begins position request)) →
      start.questionsOf events position = []) ∧
    (∀ before lookup after position request, events = before ++ lookup :: after →
      Begins position request (start.run before) lookup →
      start.questionsOf events position =
        if (start.run before).resolver.store.get? request.url = none ∧
            request.signal ≠ some 0 then
          [⟨position, dispatcher.position? request.url, request.url⟩]
        else []) ∧
    ∀ before store between lookup after position request tags time,
      events = before ++ store :: (between ++ lookup :: after) →
      Stores request.url tags time (start.run before) store →
      ¬ Occurs (start.run (before ++ [store])) between (TakesOut request.url) →
      Begins position request (start.run (before ++ store :: between)) lookup →
      (start.run (before ++ store :: between)).resolver.store.now < time + config.cacheTtl →
      start.questionsOf events position = [] := by
  intro start
  refine ⟨fun question => mem_questions_iff_consults, askedCount_run config dispatcher events, ?_,
    fun position => questionsOf_eq_nil, ?_, ?_⟩
  · intro question hmem
    obtain ⟨before, event, -, -, hasked⟩ := mem_questions_iff.1 hmem
    obtain ⟨request, -, -, hclient, hurl⟩ := asked?_eq_some_iff.1 hasked
    rw [hclient, hurl, (frame_run start before).2.1]
    exact dispatcher.named_position? request.url
  · rintro before lookup after position request rfl hbegins
    exact questionsOf_eq hbegins
  · rintro before store between lookup after position request tags time rfl hstores hkept hbegins
      hnow
    have hfound := get?_ne_none_of_stores hstores hkept hnow
    rw [← List.cons_append, ← List.append_assoc, questionsOf_eq hbegins,
      if_neg fun hnone => hfound hnone.1]

/-- In `sharing` the first call asks the default client, and its tags shield that one from the
second. -/
theorem cache_shields_clients_of_sharing :
    (new {} docker).questionsOf sharing 0 = [⟨0, none, "nginx"⟩] ∧
      (new {} docker).questionsOf sharing 1 = [] := by
  obtain ⟨-, -, -, -, hbegun, hshielded⟩ := cache_shields_clients {} docker sharing
  have hfirst : Begins 0 ⟨"nginx", .allTags⟩ ((new {} docker).run (sharing.take 2))
      (.poll 0 fun _ _ => ⟨0, .ok [⟨"1.27.0", "", ⟨0, 0⟩⟩, ⟨"1.28.0", "", ⟨0, 0⟩⟩]⟩) :=
    ⟨_, _, 0, rfl, rfl, rfl, rfl, Nat.le_refl _⟩
  have hsecond : Begins 1 ⟨"nginx", .latest {}⟩ ((new {} docker).run (sharing.take 5))
      (.poll 1 fun _ _ => ⟨0, .ok []⟩) :=
    ⟨_, _, 5, rfl, rfl, rfl, rfl, by decide⟩
  have hstores : Stores "nginx" [⟨"1.27.0", "", ⟨0, 0⟩⟩, ⟨"1.28.0", "", ⟨0, 0⟩⟩] 0
      ((new {} docker).run (sharing.take 2))
      (.poll 0 fun _ _ => ⟨0, .ok [⟨"1.27.0", "", ⟨0, 0⟩⟩, ⟨"1.28.0", "", ⟨0, 0⟩⟩]⟩) :=
    Or.inr ⟨0, List.cons_ne_nil _ _, _, _, _, rfl, rfl, rfl, rfl, rfl, rfl⟩
  have hkept : ¬ Occurs ((new {} docker).run (sharing.take 3)) [.act (.elapse 7), .act .tick]
      (TakesOut "nginx") := by
    simp [occurs_cons, not_occurs_nil, TakesOut]
  exact ⟨(hbegun _ _ (sharing.drop 3) 0 _ rfl hfirst).trans (if_pos ⟨rfl, by decide⟩),
    hshielded (sharing.take 2) _ [.act (.elapse 7), .act .tick] _ [] 1 ⟨"nginx", .latest {}⟩ _ 0
      rfl hstores hkept hsecond (by decide)⟩

end Session

end LatestTag
