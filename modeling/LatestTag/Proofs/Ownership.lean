import LatestTag.Proofs.Provenance
import LatestTag.Proofs.Stories

/-!
# Concurrent fetches

Several calls may fetch the tags of one image together, and they may end in any order. This file
shows that they do not get in each other's way:

> `own_answer_last_store`: a call that gets tags from its own fetch is answered from those, whatever
> is in the cache by then; and the entry of an image is the one that was stored last.

The first part is the story of a call (`Session.Story`), which does not mention the cache. For the
second the entry of an image is a slot, which is filled when a fetch ends with tags or somebody puts
some into the cache (`Session.Stores`).
-/

namespace LatestTag

/-- Under its reference a cache lists the entry of an image and nothing else. -/
theorem Cache.filter_key_eq (cache : Cache) (url : String) :
    cache.entries.filter (·.1 == url) = ((cache.find? url).map (url, ·)).toList := by
  obtain ⟨ttl, entries, hnodup⟩ := cache
  show entries.filter (·.1 == url) = ((entries.lookup url).map (url, ·)).toList
  induction entries with
  | nil => rfl
  | cons first entries ih =>
    obtain ⟨key, entry⟩ := first
    obtain ⟨hnotMem, hnodup⟩ := List.nodup_cons.1 hnodup
    by_cases hkey : url = key
    · -- no other entry has the same key
      subst hkey
      have hrest : entries.filter (·.1 == url) = [] := by
        rw [List.filter_eq_nil_iff]
        intro other hother heq
        exact hnotMem (List.mem_map.2 ⟨other, hother, beq_iff_eq.1 heq⟩)
      simp [hrest]
    · have hne : (url == key) = false := beq_eq_false_iff_ne.2 hkey
      have hne' : (key == url) = false := beq_eq_false_iff_ne.2 (Ne.symm hkey)
      rw [List.lookup_cons, hne, ← ih hnodup, List.filter_cons_of_neg (by simp [hne'])]

namespace Session

variable {start : Session} {events : List Event} {position : Nat} {url : String}
  {tags : List ImageTag} {time : Nat}

/-- A call whose fetch brings tags ends with the answer from those. -/
theorem call_of_brought {session : Session} {call : Call} {clients : Clients} {fetch : Fetch}
    (hcall : session.calls[position]? = some call)
    (hfetch : session.resolver.fetch? call clients = some fetch)
    (hresult : fetch.result? session.resolver.store.now = some (.ok tags)) (hne : tags ≠ []) :
    (session.step (.poll position clients)).calls[position]? =
      some (session.resolver.ended call (call.request.answered tags)) := by
  obtain ⟨later, hlater, ⟨hnot, -⟩ | ⟨others, heq, hturn⟩⟩ :=
    exists_call_step (.poll position clients) hcall
  · exact absurd rfl (hnot clients)
  · obtain ⟨-, rfl⟩ := Event.poll.inj heq
    obtain ⟨-, rfl⟩ := hturn.eq_of_brought hfetch hresult hne
    exact hlater

/-- A call that has got tags in a run has ended with the answer from those, and they are what the
client that serves the image has delivered to it. -/
theorem answered_of_gets
    (hstart : ∀ call, start.calls[position]? = some call → call.IsNew) (hne : tags ≠ [])
    (hgets : Occurs start events (Gets position url tags time)) :
    Delivered start events url tags time (.call position) ∧
      ∃ call, (start.run events).calls[position]? = some call ∧ call.request.url = url ∧
        call.hasAsked = true ∧ call.progress = .ended time (call.request.answered tags) := by
  obtain ⟨before, event, after, rfl, call, clients, fetch, rfl, hcall, rfl, hfetch, hresult, rfl⟩ :=
    hgets
  have hstory := story_run hstart before hcall
  have hended := call_of_brought hcall hfetch hresult hne
  rw [← run_append] at hended
  have hlast := call_run_of_ended after hended rfl
  rw [run_run, ← List.append_cons] at hlast
  refine ⟨?_, _, hlast, rfl, hstory.hasAsked_of_fetch? hfetch, rfl⟩
  rw [List.append_cons]
  exact (hstory.delivered hcall hfetch hresult).extend after

/-- **Concurrent calls** on a new resolver, in any order. A call that gets tags from its own fetch
is answered from those, which are what its client has delivered to it; and a call that has asked a
client and ended without an error of the fetch was answered in that way. The entry of an image is
the one that was stored last, by a fetch that brought tags or by an edit, if nothing has displaced
it since; and an image has no more than one entry. -/
theorem own_answer_last_store (config : Config) (dispatcher : Dispatcher) (events : List Event) :
    let start := new config dispatcher
    let session := start.run events
    (∀ position url tags time, tags ≠ [] → Occurs start events (Gets position url tags time) →
      Delivered start events url tags time (.call position) ∧
        ∃ call, session.calls[position]? = some call ∧ call.request.url = url ∧
          call.hasAsked = true ∧ call.progress = .ended time (call.request.answered tags)) ∧
    (∀ position call time outcome, session.calls[position]? = some call → call.hasAsked = true →
      call.progress = .ended time outcome →
      (∃ cause, outcome = call.request.failed cause) ∨
      outcome = .error (.emptyResult call.request.url) ∨
      ∃ tags, tags ≠ [] ∧ outcome = call.request.answered tags ∧
        Delivered start events call.request.url tags time (.call position)) ∧
    (∀ url entry, session.resolver.store.cache.find? url = some entry ↔
      ∃ before event after, events = before ++ event :: after ∧
        Stores url entry.tags entry.storedAt (start.run before) event ∧
        ¬ Occurs (start.run (before ++ [event])) after (Displaces url entry)) ∧
    ∀ url, session.resolver.store.cache.entries.filter (·.1 == url) =
      ((session.resolver.store.cache.find? url).map (url, ·)).toList := by
  intro start session
  have hstart (position : Nat) (call : Call) (hcall : start.calls[position]? = some call) :
      call.IsNew := absurd hcall (by simp [start, new])
  refine ⟨?_, ?_, ?_, session.resolver.store.cache.filter_key_eq⟩
  · intro position url tags time hne hgets
    exact answered_of_gets (hstart position) hne hgets
  · intro position call time outcome hcall hasked hended
    rcases (story_run (hstart position) events hcall).ended_cases hended with
      ⟨hnot, -⟩ | hfailed | ⟨hmissed, -⟩ | hbrought
    · exact absurd (hasked.symm.trans hnot) (by simp)
    · exact Or.inl hfailed
    · exact Or.inr (Or.inl hmissed)
    · exact Or.inr (Or.inr hbrought)
  · intro url entry
    exact find?_run_iff rfl events

/-- A run in which two calls fetch the tags of one image together, and the one that began first ends
last. -/
def racing : List Event :=
  [.call ⟨"nginx", .allTags⟩ 0, .call ⟨"nginx", .latest {}⟩ 0,
    .poll 0 fun _ _ => ⟨Duration.ofMillis 2, .ok [⟨"1.27.0", "", ⟨0, 0⟩⟩]⟩,
    .poll 1 fun _ _ => ⟨Duration.ofMillis 1, .ok [⟨"1.28.0", "", ⟨0, 0⟩⟩]⟩,
    .act (.elapse (Duration.ofMillis 1)), .poll 1 fun _ _ => ⟨0, .ok []⟩,
    .act (.elapse (Duration.ofMillis 1)), .poll 0 fun _ _ => ⟨0, .ok []⟩]

/-- The first call is answered from its own tags, though those of the second were in the cache. -/
theorem own_answer_last_store_of_racing :
    Delivered (.new {} docker) racing "nginx" [⟨"1.27.0", "", ⟨0, 0⟩⟩] (Duration.ofMillis 2)
        (.call 0) ∧
      (∃ call, ((new {} docker).run racing).calls[0]? = some call ∧ call.request.url = "nginx" ∧
        call.hasAsked = true ∧ call.progress = .ended (Duration.ofMillis 2)
          (call.request.answered [⟨"1.27.0", "", ⟨0, 0⟩⟩])) ∧
      ∃ before event after, racing = before ++ event :: after ∧
        Stores "nginx" [⟨"1.27.0", "", ⟨0, 0⟩⟩] (Duration.ofMillis 2)
          ((new {} docker).run before) event ∧
        ¬ Occurs ((new {} docker).run (before ++ [event])) after
          (Displaces "nginx" ⟨Duration.ofMillis 2, [⟨"1.27.0", "", ⟨0, 0⟩⟩]⟩) := by
  obtain ⟨hown, -, hentry, -⟩ := own_answer_last_store {} docker racing
  have hgets : Occurs (.new {} docker) racing
      (Gets 0 "nginx" [⟨"1.27.0", "", ⟨0, 0⟩⟩] (Duration.ofMillis 2)) :=
    ⟨racing.take 7, _, [], rfl, _, _, _, rfl, rfl, rfl, rfl, rfl, rfl⟩
  obtain ⟨hdelivered, hcall⟩ := hown 0 "nginx" _ _ (List.cons_ne_nil _ _) hgets
  exact ⟨hdelivered, hcall, (hentry "nginx" ⟨Duration.ofMillis 2, _⟩).1 rfl⟩

end Session

end LatestTag
