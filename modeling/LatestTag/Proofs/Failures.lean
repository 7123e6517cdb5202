import LatestTag.Proofs.Ownership
import LatestTag.Proofs.WithoutCall

/-!
# What failed calls leave behind

A call can fail in three ways: its fetch fails, its fetch brings no tags, or no tag matches the
options. The first two leave nothing behind; the third is found out after the tags were stored.

> `failures_leave_no_trace`: with a call that failed to get tags a run is what it would have been
> without that call (`Session.without`), at any point; and the options of a call make no difference
> to anything but its answer, so one that matches nothing stores what it has fetched.

The only turn of a call that changes the resolver is the one in which it gets tags, and such a call
is answered from them (`answered_of_gets`), so it does not fail in the first two ways. For the
options two runs are compared in which the calls have `Call.SameCourse`.
-/

namespace LatestTag

/-- What is asked, with other options if there are any. -/
def Query.withOptions (query : Query) (options : Options) : Query :=
  match query with
  | .allTags => .allTags
  | .latest _ => .latest options
  | .latestWithin _ timeout => .latestWithin options timeout
  | .latestUnless _ signal => .latestUnless options signal

/-- The request with other options, if it has any. -/
def Request.withOptions (request : Request) (options : Options) : Request :=
  { request with query := request.query.withOptions options }

/-- Options are all that can be wrong with tags. -/
theorem Request.eq_noMatch_of_answered {request : Request} {tags : List ImageTag}
    {error : ResolveError} (h : request.answered tags = .error error) :
    ∃ options, error = .noMatch options := by
  have hlatest {options : Options} (h : latest options tags = .error error) :
      ∃ options, error = .noMatch options := by
    unfold latest at h
    split at h
    next => exact absurd h (by simp)
    next => exact ⟨options, (Except.error.inj h).symm⟩
  obtain ⟨url, query⟩ := request
  cases query with
  | allTags => exact absurd h (by simp [answered])
  | latest options => exact hlatest h
  | latestWithin options timeout => exact hlatest h
  | latestUnless options signal => exact hlatest h

section Options

variable {request : Request} {options : Options} {resolver : Resolver} {clients : Clients}

theorem Request.signal_withOptions : (request.withOptions options).signal = request.signal := by
  obtain ⟨url, query⟩ := request
  cases query <;> rfl

theorem Request.timeout_withOptions (config : Config) :
    (request.withOptions options).timeout config = request.timeout config := by
  obtain ⟨url, query⟩ := request
  cases query <;> rfl

namespace Resolver

theorem fetch_withOptions :
    resolver.fetch (request.withOptions options) clients = resolver.fetch request clients := by
  simp only [fetch, Request.signal_withOptions, Request.timeout_withOptions]
  rfl

theorem immediate?_withOptions_eq_none_iff :
    resolver.immediate? (request.withOptions options) = none ↔
      resolver.immediate? request = none := by
  rw [immediate?_eq_none_iff, immediate?_eq_none_iff, Request.signal_withOptions]
  rfl

/-- What a fetch brings is stored before the options are looked at. -/
theorem conclude_withOptions (result : Except FetchError (List ImageTag)) :
    (resolver.conclude (request.withOptions options) result).1 =
      (resolver.conclude request result).1 := by
  unfold conclude
  split <;> rfl

end Resolver

end Options

/-! ## Calls that differ in the options -/

/-- Two calls have come equally far, whatever they have been answered. -/
def Progress.Same : Progress → Progress → Prop
  | .pending start, .pending other => start = other
  | .fetching fetch, .fetching other => fetch = other
  | .ended _ _, .ended _ _ => True
  | _, _ => False

/-- The other call is one for the same request but for the options, and has come equally far. -/
structure Call.SameCourse (call other : Call) (options : Options) : Prop where
  request_eq : other.request = call.request.withOptions options
  progress : call.progress.Same other.progress

namespace Resolver

variable {resolver : Resolver} {call other : Call} {options : Options}

theorem await_sameCourse (hrequest : other.request = call.request.withOptions options)
    (fetch : Fetch) : (resolver.await other fetch).1 = (resolver.await call fetch).1 ∧
      (resolver.await call fetch).2.SameCourse (resolver.await other fetch).2 options := by
  unfold await
  split
  next result hresult =>
    have hconclude : (resolver.conclude other.request result).1 =
        (resolver.conclude call.request result).1 := by
      rw [hrequest]
      exact conclude_withOptions result
    exact ⟨hconclude, hrequest, trivial⟩
  next => exact ⟨rfl, hrequest, rfl⟩

theorem begin_sameCourse (hrequest : other.request = call.request.withOptions options)
    (clients : Clients) : (resolver.begin other clients).1 = (resolver.begin call clients).1 ∧
      (resolver.begin call clients).2.SameCourse (resolver.begin other clients).2 options := by
  have hnone : resolver.immediate? other.request = none ↔
      resolver.immediate? call.request = none := by
    rw [hrequest]
    exact immediate?_withOptions_eq_none_iff
  unfold begin
  -- both end at once, if with other answers, or both wait for the same fetch
  cases himmediate : resolver.immediate? call.request with
  | none =>
    have hfetch : resolver.fetch other.request clients = resolver.fetch call.request clients := by
      rw [hrequest, fetch_withOptions]
    rw [hnone.2 himmediate, hfetch]
    exact @await_sameCourse resolver { call with hasAsked := true } { other with hasAsked := true }
      options hrequest (resolver.fetch call.request clients)
  | some outcome =>
    obtain ⟨answer, hother⟩ := Option.ne_none_iff_exists'.1
      (fun h => absurd (himmediate.symm.trans (hnone.1 h)) (by simp) :
        resolver.immediate? other.request ≠ none)
    rw [hother]
    exact ⟨rfl, hrequest, trivial⟩

/-- **One poll** of calls with the same course leaves the same resolver, and they still have the
same course. -/
theorem poll_sameCourse (h : call.SameCourse other options) (clients : Clients) :
    (resolver.poll other clients).1 = (resolver.poll call clients).1 ∧
      (resolver.poll call clients).2.SameCourse (resolver.poll other clients).2 options := by
  obtain ⟨request, progress, hasAsked⟩ := call
  obtain ⟨otherRequest, otherProgress, otherAsked⟩ := other
  obtain ⟨hrequest, hprogress⟩ := h
  unfold Progress.Same at hprogress
  split at hprogress
  next start other hpending hother =>
    dsimp only at hpending hother
    subst hpending hother hprogress
    simp only [poll]
    split
    next hstart => exact begin_sameCourse hrequest clients
    next => exact ⟨rfl, hrequest, rfl⟩
  next fetch other hfetching hother =>
    dsimp only at hfetching hother
    subst hfetching hother hprogress
    exact await_sameCourse hrequest _
  next hended hother =>
    dsimp only at hended hother
    subst hended hother
    exact ⟨rfl, hrequest, trivial⟩
  next => exact hprogress.elim

end Resolver

namespace Session

variable {start : Session} {events : List Event} {position : Nat} {call : Call} {time : Nat}

/-- **Two runs** with calls of the same course differ in nothing but these calls. -/
theorem run_sameCourse {session other : Session} {call otherCall : Call} {options : Options}
    (hwithout : other.without position = session.without position)
    (hcall : session.calls[position]? = some call)
    (hother : other.calls[position]? = some otherCall)
    (hcourse : call.SameCourse otherCall options) (events : List Event) :
    (other.run events).without position = (session.run events).without position := by
  have htwins : Twins (fun call other => call.SameCourse other options) position session other :=
    ⟨hwithout, call, otherCall, hcall, hother, hcourse⟩
  refine (htwins.run fun before after _ => ?_).without_eq
  exact fun call twin clients _ hcourse => Resolver.poll_sameCourse hcourse clients

/-- A call that ends with an error, but not for its options, has not changed the resolver. -/
theorem not_alters_of_failed {error : ResolveError}
    (hstart : ∀ call, start.calls[position]? = some call → call.IsNew)
    (hcall : (start.run events).calls[position]? = some call)
    (hended : call.progress = .ended time (.error error))
    (hmatch : ∀ options, error ≠ .noMatch options) : ¬ Occurs start events (Alters position) := by
  rintro ⟨before, event, after, hevents, clients, rfl, halters⟩
  rcases (start.run before).poll_cases position clients with
    ⟨-, hpoll⟩ | ⟨earlier, later, next, hearlier, hturn, hpoll⟩
  · exact halters (by rw [step, hpoll])
  · cases hturn with
    | @stores fetch tags hfetch hresult hne =>
      -- such a call would have been answered from the tags
      have hgets : Occurs start events
          (Gets position earlier.request.url tags (start.run before).resolver.store.now) :=
        ⟨before, _, after, hevents, earlier, clients, fetch, rfl, hearlier, rfl, hfetch, hresult,
          rfl⟩
      obtain ⟨-, answered, hanswered, -, -, hprogress⟩ := answered_of_gets hstart hne hgets
      obtain rfl := Option.some.inj (hcall.symm.trans hanswered)
      obtain ⟨-, houtcome⟩ := Progress.ended.inj (hended.symm.trans hprogress)
      obtain ⟨options, rfl⟩ := Request.eq_noMatch_of_answered houtcome.symm
      exact hmatch options rfl
    | idle | immediate | waits | fails | misses => exact halters (by rw [step, hpoll])

/-- A call ends without tags if the client that serves the image has answered it with none. -/
theorem delivered_of_emptyResult {url : String}
    (hstart : ∀ call, start.calls[position]? = some call → call.IsNew)
    (hcall : (start.run events).calls[position]? = some call)
    (hended : call.progress = .ended time (.error (.emptyResult url))) :
    url = call.request.url ∧ Delivered start events call.request.url [] time (.call position) := by
  have hanswered (tags : List ImageTag) :
      .error (.emptyResult url) ≠ call.request.answered tags := by
    intro h
    obtain ⟨options, hoptions⟩ := Request.eq_noMatch_of_answered h.symm
    exact absurd hoptions (by simp)
  have hfailed (cause : FetchError) : .error (.emptyResult url) ≠ call.request.failed cause := by
    simp [Request.failed]
  rcases (story_run hstart events hcall).ended_cases hended with
    ⟨-, hcancelled | ⟨tags, htags⟩⟩ | ⟨cause, hcause⟩ | ⟨hmissed, hdelivered⟩ | ⟨tags, -, htags, -⟩
  · exact absurd hcancelled (hfailed _)
  · exact absurd htags (hanswered tags)
  · exact absurd hcause (hfailed cause)
  · exact ⟨ResolveError.emptyResult.inj (Except.error.inj hmissed), hdelivered⟩
  · exact absurd htags (hanswered tags)

/-- A call that has asked and for which no tag matches has got tags, and they were stored. -/
theorem stored_of_noMatch {options : Options}
    (hstart : ∀ call, start.calls[position]? = some call → call.IsNew)
    (hcall : (start.run events).calls[position]? = some call)
    (hended : call.progress = .ended time (.error (.noMatch options)))
    (hasked : call.hasAsked = true) :
    ∃ before event after tags, events = before ++ event :: after ∧ tags ≠ [] ∧
      Gets position call.request.url tags time (start.run before) event ∧
      ((start.run before).step event).resolver.store.cache.find? call.request.url =
        some ⟨time, tags⟩ := by
  -- of the ways in which a call ends after it has asked, only an answer can be for its options
  rcases (story_run hstart events hcall).ended_cases hended with
    ⟨hnot, -⟩ | ⟨cause, hcause⟩ | ⟨hmissed, -⟩ | ⟨tags, hne, -, -, hgot⟩
  · exact absurd (hasked.symm.trans hnot) (by simp)
  · exact absurd hcause (by simp [Request.failed])
  · exact absurd hmissed (by simp)
  · obtain ⟨before, event, after, hevents, hgets⟩ := hgot
    exact ⟨before, event, after, tags, hevents, hne, hgets,
      find?_step_iff.2 (Or.inl (Or.inr ⟨position, hne, hgets⟩))⟩

/-- **Failed calls leave no trace**, on any session and in any run on from it. If a call ends with
an error of its fetch or without tags, then at any point of the run everything else is as it would
be if the call had not been made. It ends without tags only if the client that serves the image has
answered it with none. And whatever the options of a call, everything else is as it would be with
others; so a call for which no tag matches has stored the tags if it has fetched them. -/
theorem failures_leave_no_trace (session : Session) (request : Request) (start : Nat)
    (events : List Event) :
    let position := session.calls.length
    let called := session.call request start
    (∀ call time error, (called.run events).calls[position]? = some call →
      call.progress = .ended time (.error error) → (∀ options, error ≠ .noMatch options) →
      ∀ before after, events = before ++ after →
        (called.run before).without position =
          session.run (before.filterMap (·.without? position))) ∧
    (∀ call time url, (called.run events).calls[position]? = some call →
      call.progress = .ended time (.error (.emptyResult url)) →
      url = request.url ∧ Delivered called events url [] time (.call position)) ∧
    (∀ options, ((session.call (request.withOptions options) start).run events).without position =
      (called.run events).without position) ∧
    ∀ call time options, (called.run events).calls[position]? = some call →
      call.progress = .ended time (.error (.noMatch options)) → call.hasAsked = true →
      ∃ before event after tags, events = before ++ event :: after ∧ tags ≠ [] ∧
        Gets position request.url tags time (called.run before) event ∧
        ((called.run before).step event).resolver.store.cache.find? request.url =
          some ⟨time, tags⟩ := by
  intro position called
  have hcalled : called.calls[position]? = some ⟨request, .pending start, false⟩ :=
    List.getElem?_concat_length
  have hnew (call : Call) (hcall : called.calls[position]? = some call) : call.IsNew := by
    obtain rfl := Option.some.inj (hcalled.symm.trans hcall)
    exact ⟨⟨start, rfl⟩, rfl⟩
  refine ⟨?_, ?_, ?_, ?_⟩
  · rintro call time error hcall hended hmatch before after rfl
    have hquiet : ¬ Occurs called before (Alters position) := by
      rintro ⟨earlier, event, later, rfl, halters⟩
      refine not_alters_of_failed hnew hcall hended hmatch
        ⟨earlier, event, later ++ after, ?_, halters⟩
      rw [List.append_assoc, List.cons_append]
    rw [run_without (List.getElem?_eq_some_iff.1 hcalled).1 hquiet, session.without_call]
  · intro call time url hcall hended
    have hrequest : call.request = request := request_run hcalled hcall
    obtain ⟨rfl, hdelivered⟩ := delivered_of_emptyResult hnew hcall hended
    exact ⟨congrArg Request.url hrequest, hdelivered⟩
  · intro options
    have hother : (session.call (request.withOptions options) start).calls[position]? =
        some ⟨request.withOptions options, .pending start, false⟩ := List.getElem?_concat_length
    have hwithout : (session.call (request.withOptions options) start).without position =
        called.without position := by
      rw [session.without_call, session.without_call]
    exact run_sameCourse hwithout hcalled hother ⟨rfl, rfl⟩ events
  · intro call time options hcall hended hasked
    have hrequest : call.request = request := request_run hcalled hcall
    rw [← hrequest]
    exact stored_of_noMatch hnew hcall hended hasked

/-- A call that is answered at once, and some time. -/
def answering (answer : Except FetchError (List ImageTag)) : List Event :=
  [.poll 0 fun _ _ => ⟨0, answer⟩, .act (.elapse 5)]

theorem failures_leave_no_trace_of_answering :
    (((new {} docker).call ⟨"nginx", .allTags⟩ 0).run
        (answering (.error (.status 503 "")))).without 0 =
      (new {} docker).run [.act (.elapse 5)] ∧
    Delivered ((new {} docker).call ⟨"nginx", .allTags⟩ 0) (answering (.ok [])) "nginx" [] 0
      (.call 0) ∧
    ∃ before event after tags, answering (.ok [⟨"stable", "", ⟨0, 0⟩⟩]) = before ++ event :: after ∧
      tags ≠ [] ∧
      Gets 0 "nginx" tags 0 (((new {} docker).call ⟨"nginx", .latest {}⟩ 0).run before) event ∧
      ((((new {} docker).call ⟨"nginx", .latest {}⟩ 0).run before).step
        event).resolver.store.cache.find? "nginx" = some ⟨0, tags⟩ := by
  obtain ⟨hfailed, -, -, -⟩ := failures_leave_no_trace (new {} docker) ⟨"nginx", .allTags⟩ 0
    (answering (.error (.status 503 "")))
  obtain ⟨-, hempty, -, -⟩ := failures_leave_no_trace (new {} docker) ⟨"nginx", .allTags⟩ 0
    (answering (.ok []))
  obtain ⟨-, -, -, hunmatched⟩ := failures_leave_no_trace (new {} docker) ⟨"nginx", .latest {}⟩ 0
    (answering (.ok [⟨"stable", "", ⟨0, 0⟩⟩]))
  exact ⟨hfailed _ _ _ rfl rfl (by simp) _ [] rfl, (hempty _ _ _ rfl rfl).2,
    hunmatched _ _ _ rfl rfl rfl⟩

end Session

end LatestTag
