import LatestTag.Proofs.Effects

/-!
# Where answers come from

A resolver hands out lists of tags that it got at some time from somewhere. This file follows them
back, along any run: any actions on the store in any order, any number of calls under way together,
polled at any time or never, and clients that may behave in another way each time they are asked.

> `answer_provenance`: the tags behind an answer were delivered for the image of the request, by the
> client that serves it or by an edit of the cache; and that happened just now, for the call itself,
> or less than `ttl` ago.

This holds of a run that stops with the call as well, so the delivery does not come after it.

What carries the proof along a run is `Traced`: every entry of the cache was delivered at the time
that it says, every fetch under way began with a question to the right client, and every answer so
far was given from a delivery. A delivery is a fact about the events so far, so it stays one when
more of them come (`Occurs.append`).
-/

namespace LatestTag

/-- The answer says of the tags what is asked about them. -/
def Query.IsAnswer (query : Query) (tags : List ImageTag) (answer : Answer) : Prop :=
  match query with
  | .allTags => answer = .tags tags
  | .latest options | .latestWithin options _ | .latestUnless options _ =>
    ∃ tag, select? options tags = some tag ∧ answer = .latest tag

theorem Request.isAnswer_of_answered {request : Request} {tags : List ImageTag} {answer : Answer}
    (h : request.answered tags = .ok answer) : request.query.IsAnswer tags answer := by
  have hlatest {options : Options} (h : latest options tags = .ok answer) :
      ∃ tag, select? options tags = some tag ∧ answer = .latest tag := by
    unfold latest at h
    split at h
    next tag hselect => exact ⟨tag, hselect, (Except.ok.inj h).symm⟩
    next => exact absurd h (by simp)
  obtain ⟨url, query⟩ := request
  cases query with
  | allTags => exact (Except.ok.inj h).symm
  | latest options => exact hlatest h
  | latestWithin options timeout => exact hlatest h
  | latestUnless options signal => exact hlatest h

namespace Session

/-- For the call at a position the tags of an image are there at a time: its own fetch has brought
them just then, or they were delivered before and are fresh. -/
def Supplied (start : Session) (events : List Event) (position : Nat) (url : String)
    (tags : List ImageTag) (time : Nat) : Prop :=
  Delivered start events url tags time (.call position) ∨
    ∃ source delivered, Delivered start events url tags delivered source ∧ delivered ≤ time ∧
      time < delivered + start.resolver.store.cache.ttl

theorem Supplied.append {start : Session} {events : List Event} {event : Event} {position : Nat}
    {url : String} {tags : List ImageTag} {time : Nat}
    (h : Supplied start events position url tags time) :
    Supplied start (events ++ [event]) position url tags time := by
  rcases h with hown | ⟨source, delivered, hdelivered, htime⟩
  · exact Or.inl hown.append
  · exact Or.inr ⟨source, delivered, hdelivered.append, htime⟩

/-! ## The invariant -/

/-- All that a session holds at the end of a run comes from what has happened in it. -/
structure Traced (start : Session) (events : List Event) (session : Session) : Prop where
  run_eq : start.run events = session
  dispatcher_eq : session.resolver.dispatcher = start.resolver.dispatcher
  ttl_eq : session.resolver.store.cache.ttl = start.resolver.store.cache.ttl
  stored : ∀ url entry, session.resolver.store.cache.find? url = some entry →
    entry.storedAt ≤ session.resolver.store.now ∧
      ∃ source, Delivered start events url entry.tags entry.storedAt source
  fetching : ∀ position call fetch, session.calls[position]? = some call →
    call.progress = .fetching fetch →
    Occurs start events (Asks position (start.resolver.dispatcher.select call.request.url)
      call.request.url fetch.behaviour.answer)
  ended : ∀ position call time answer, session.calls[position]? = some call →
    call.progress = .ended time (.ok answer) →
    ∃ tags, Supplied start events position call.request.url tags time ∧
      call.request.answered tags = .ok answer

theorem traced_new (config : Config) (dispatcher : Dispatcher) :
    Traced (.new config dispatcher) [] (.new config dispatcher) where
  run_eq := rfl
  dispatcher_eq := rfl
  ttl_eq := rfl
  stored := by
    intro url entry hentry
    exact absurd hentry (by simp [Session.new, Resolver.new, Cache.empty, Cache.find?])
  fetching := by
    intro position call fetch hcall
    exact absurd hcall (by simp [Session.new])
  ended := by
    intro position call time answer hcall
    exact absurd hcall (by simp [Session.new])

/-- A request that is answered without a fetch is answered from fresh tags. -/
theorem fresh_of_immediate? {resolver : Resolver} {request : Request} {answer : Answer}
    (h : resolver.immediate? request = some (.ok answer)) :
    ∃ entry, resolver.store.cache.fresh? resolver.store.now request.url = some entry ∧
      request.answered entry.tags = .ok answer := by
  unfold Resolver.immediate? at h
  split at h
  next => exact absurd h (by simp [Request.failed])
  next =>
    obtain ⟨tags, htags, hanswered⟩ := Option.map_eq_some_iff.1 h
    rw [TagStore.get?, Cache.get?_eq_map_fresh?] at htags
    obtain ⟨entry, hentry, rfl⟩ := Option.map_eq_some_iff.1 htags
    exact ⟨entry, hentry, hanswered⟩

namespace Traced

variable {start session : Session} {events : List Event} {event : Event}

/-- A fetch that is looked after began with a question to the client that serves the image. -/
theorem asked (h : Traced start events session) {position : Nat} {clients : Clients} {call : Call}
    {fetch : Fetch} (hcall : session.calls[position]? = some call)
    (hfetch : session.resolver.fetch? call clients = some fetch) :
    Occurs start (events ++ [.poll position clients])
      (Asks position (start.resolver.dispatcher.select call.request.url) call.request.url
        fetch.behaviour.answer) := by
  obtain rfl := h.run_eq
  exact asked_of_fetch? hcall hfetch fun other => h.fetching position call other hcall

/-- What a call gets from its fetch is delivered by the client that serves the image. -/
theorem delivered (h : Traced start events session) {position : Nat} {url : String}
    {tags : List ImageTag} {time : Nat} (hgets : Gets position url tags time session event) :
    Delivered start (events ++ [event]) url tags time (.call position) := by
  have hlast : Occurs start (events ++ [event]) (Gets position url tags time) :=
    Occurs.last (h.run_eq ▸ hgets)
  obtain ⟨call, clients, fetch, rfl, hcall, rfl, hfetch, hresult, -⟩ := hgets
  have hasked := h.asked hcall hfetch
  rw [answer_of_result? hresult] at hasked
  exact ⟨hasked, hlast⟩

/-- What is fresh in the cache was delivered, and less than `ttl` ago. -/
theorem supplied (h : Traced start events session) {url : String} {entry : CacheEntry}
    (hfresh : session.resolver.store.cache.fresh? session.resolver.store.now url = some entry)
    (position : Nat) :
    Supplied start events position url entry.tags session.resolver.store.now := by
  obtain ⟨hentry, hage⟩ := (Cache.fresh?_eq_some_iff ..).1 hfresh
  obtain ⟨hle, source, hdelivered⟩ := h.stored url entry hentry
  rw [h.ttl_eq] at hage
  exact Or.inr ⟨source, entry.storedAt, hdelivered, hle, by omega⟩

/-- **One step** keeps everything traced. -/
theorem step (h : Traced start events session) :
    Traced start (events ++ [event]) (session.step event) where
  run_eq := by rw [run_append, h.run_eq]
  dispatcher_eq := (frame_step session event).2.1.trans h.dispatcher_eq
  ttl_eq := (frame_step session event).2.2.1.trans h.ttl_eq
  stored := by
    have hclock := (frame_step session event).2.2.2
    intro url entry hentry
    rcases find?_step_iff.1 hentry with (hedits | ⟨position, -, hgets⟩) | ⟨hold, -⟩
    · refine ⟨hedits.2 ▸ hclock, .edit, Occurs.last ?_⟩
      rw [h.run_eq]
      exact hedits
    · have hnow : session.resolver.store.now = entry.storedAt := by
        obtain ⟨-, -, -, -, -, -, -, -, hnow⟩ := hgets
        exact hnow
      exact ⟨hnow ▸ hclock, .call position, h.delivered hgets⟩
    · obtain ⟨hle, source, hdelivered⟩ := h.stored url entry hold
      exact ⟨Nat.le_trans hle hclock, source, hdelivered.append⟩
  fetching := by
    intro position call fetch hcall hprogress
    rcases call_of_step hcall with
      hold | ⟨request, begins, rfl, rfl⟩ | ⟨clients, earlier, later, rfl, hearlier, -, hturn⟩
    · exact (h.fetching position call fetch hold hprogress).append
    · exact absurd hprogress (by simp)
    · cases hturn with
      | idle => exact (h.fetching position call fetch hearlier hprogress).append
      | waits hfetch =>
        obtain rfl := Progress.fetching.inj hprogress
        have hasked := h.asked hearlier hfetch
        exact hasked
      | immediate | fails | misses | stores =>
        exact absurd hprogress (by simp [Resolver.ended])
  ended := by
    intro position call time answer hcall hprogress
    rcases call_of_step hcall with
      hold | ⟨request, begins, rfl, rfl⟩ | ⟨clients, earlier, later, rfl, hearlier, -, hturn⟩
    · obtain ⟨tags, hsupplied, hanswered⟩ := h.ended position call time answer hold hprogress
      exact ⟨tags, hsupplied.append, hanswered⟩
    · exact absurd hprogress (by simp)
    · cases hturn with
      | idle =>
        obtain ⟨tags, hsupplied, hanswered⟩ := h.ended position call time answer hearlier hprogress
        exact ⟨tags, hsupplied.append, hanswered⟩
      | waits => exact absurd hprogress (by simp)
      | immediate hpending hstart himmediate =>
        obtain ⟨rfl, rfl⟩ := Progress.ended.inj hprogress
        obtain ⟨entry, hfresh, hanswered⟩ := fresh_of_immediate? himmediate
        exact ⟨entry.tags, (h.supplied hfresh position).append, hanswered⟩
      | fails => exact absurd hprogress (by simp [Resolver.ended, Request.failed])
      | misses => exact absurd hprogress (by simp [Resolver.ended])
      | @stores fetch tags hfetch hresult hne =>
        obtain ⟨rfl, hanswered⟩ := Progress.ended.inj hprogress
        have hgets : Gets position earlier.request.url tags session.resolver.store.now session
            (.poll position clients) :=
          ⟨earlier, clients, fetch, rfl, hearlier, rfl, hfetch, hresult, rfl⟩
        exact ⟨tags, Or.inl (h.delivered hgets), hanswered⟩

end Traced

/-- **A run** keeps everything traced. -/
theorem traced_run (config : Config) (dispatcher : Dispatcher) (events : List Event) :
    Traced (.new config dispatcher) events ((new config dispatcher).run events) := by
  induction events using List.reverseRecOn with
  | nil => exact traced_new config dispatcher
  | append_singleton events event ih =>
    rw [run_append]
    exact ih.step

/-- **Where an answer comes from**: the tags behind it were delivered for the image of the request,
either just when the call ended, by the client that serves the image and in answer to that very
call, or less than `ttl` before. -/
theorem answer_provenance (config : Config) (dispatcher : Dispatcher) (events : List Event)
    (position : Nat) (call : Call) (time : Nat) (answer : Answer)
    (hcall : ((new config dispatcher).run events).calls[position]? = some call)
    (hended : call.progress = .ended time (.ok answer)) :
    ∃ tags, call.request.query.IsAnswer tags answer ∧
      (Delivered (.new config dispatcher) events call.request.url tags time (.call position) ∨
        ∃ source delivered,
          Delivered (.new config dispatcher) events call.request.url tags delivered source ∧
          delivered ≤ time ∧ time < delivered + config.cacheTtl) := by
  obtain ⟨tags, hsupplied, hanswered⟩ :=
    (traced_run config dispatcher events).ended position call time answer hcall hended
  exact ⟨tags, Request.isAnswer_of_answered hanswered, hsupplied⟩

/-- A dispatcher with one client for all images. -/
def docker : Dispatcher := .ofFallback ⟨"docker", fun _ => true⟩

/-- A run in which the second call is answered from the fetch of the first. -/
def sharing : List Event :=
  [.call ⟨"nginx", .allTags⟩ 0, .call ⟨"nginx", .latest {}⟩ 5,
    .poll 0 fun _ _ => ⟨0, .ok [⟨"1.27.0", "", ⟨0, 0⟩⟩, ⟨"1.28.0", "", ⟨0, 0⟩⟩]⟩,
    .act (.elapse 7), .act .tick, .poll 1 fun _ _ => ⟨0, .ok []⟩]

theorem answer_provenance_of_sharing :
    ∃ call, ((new {} docker).run sharing).calls[1]? = some call ∧
      call.progress = .ended 7 (.ok (.latest ⟨"1.28.0", "", ⟨0, 0⟩⟩)) ∧
      ∃ tags, call.request.query.IsAnswer tags (.latest ⟨"1.28.0", "", ⟨0, 0⟩⟩) ∧
        (Delivered (.new {} docker) sharing call.request.url tags 7 (.call 1) ∨
          ∃ source delivered,
            Delivered (.new {} docker) sharing call.request.url tags delivered source ∧
            delivered ≤ 7 ∧ 7 < delivered + ({} : Config).cacheTtl) :=
  ⟨_, rfl, rfl, answer_provenance {} docker sharing 1 _ 7 _ rfl rfl⟩

end Session

end LatestTag
