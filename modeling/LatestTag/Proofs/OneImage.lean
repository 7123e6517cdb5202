import LatestTag.Proofs.Questions

/-!
# A session for one image

What is left of a session if one looks at one image only: the entry of that image and the calls
about it (`Session.only`). This file shows that a session goes on for one image as if there were no
others:

> `step_only`: an event that concerns the image (`Session.about?`) does to what is left what it does
> in the session, and any other event leaves that as it is.
> `run_only`: a run leaves of a session what the events that concern the image make of it.

In what is left a call has another position, so its polls are put under that. A poll concerns the
image if its call is about it and can go on, and of the clients it tells no more than the call gets
to know: how the one that it asks behaves, if it asks one.
-/

namespace LatestTag

/-! ## Lists -/

section Filter

variable {α : Type} {p q : α → Bool} {l : List α} {i : Nat} {x : α}

theorem exists_split (h : l[i]? = some x) :
    ∃ before after, l = before ++ x :: after ∧ before.length = i := by
  obtain ⟨hlt, rfl⟩ := List.getElem?_eq_some_iff.1 h
  refine ⟨l.take i, l.drop (i + 1), ?_, List.length_take_of_le (Nat.le_of_lt hlt)⟩
  rw [List.getElem_cons_drop, List.take_append_drop]

/-- Among those that pass a test an element stands behind as many as pass it before. -/
theorem getElem?_filter_countP (h : l[i]? = some x) (hp : p x = true) :
    (l.filter p)[(l.take i).countP p]? = some x := by
  obtain ⟨before, after, rfl, rfl⟩ := exists_split h
  rw [List.take_left, List.filter_append, List.filter_cons_of_pos hp, List.countP_eq_length_filter,
    List.getElem?_append_right (Nat.le_refl _), Nat.sub_self, List.getElem?_cons_zero]

theorem filter_set (h : l[i]? = some x) {y : α} (hp : p x = true) (hy : p y = true) :
    (l.set i y).filter p = (l.filter p).set ((l.take i).countP p) y := by
  obtain ⟨before, after, rfl, rfl⟩ := exists_split h
  rw [List.take_left, List.set_append_right _ _ (Nat.le_refl _), Nat.sub_self, List.set_cons_zero,
    List.filter_append, List.filter_cons_of_pos hy, List.filter_append, List.filter_cons_of_pos hp,
    List.countP_eq_length_filter, List.set_append_right _ _ (Nat.le_refl _), Nat.sub_self,
    List.set_cons_zero]

theorem filter_set_of_not (h : l[i]? = some x) {y : α} (hp : ¬ p x = true) (hy : ¬ p y = true) :
    (l.set i y).filter p = l.filter p := by
  obtain ⟨before, after, rfl, rfl⟩ := exists_split h
  rw [List.set_append_right _ _ (Nat.le_refl _), Nat.sub_self, List.set_cons_zero,
    List.filter_append, List.filter_cons_of_neg hy, List.filter_append, List.filter_cons_of_neg hp]

/-- The first element of a kind is still the first one among those that pass, if it does. -/
theorem findIdx?_filter_countP (h : l.findIdx? q = some i) (hcall : l[i]? = some x)
    (hp : p x = true) : (l.filter p).findIdx? q = some ((l.take i).countP p) := by
  obtain ⟨before, after, rfl, rfl⟩ := exists_split hcall
  obtain ⟨hlt, hfound, hfirst⟩ := List.findIdx?_eq_some_iff_getElem.1 h
  have hx : q x = true := by simpa using hfound
  have hnone : (before.filter p).findIdx? q = none := by
    rw [List.findIdx?_eq_none_iff]
    intro y hy
    obtain ⟨j, hj, rfl⟩ := List.getElem_of_mem (List.mem_filter.1 hy).1
    simpa [List.getElem_append_left hj] using hfirst j hj
  rw [List.take_left, List.filter_append, List.filter_cons_of_pos hp, List.findIdx?_append, hnone,
    List.findIdx?_cons, if_pos hx, List.countP_eq_length_filter]
  simp

end Filter

/-! ## Caches -/

namespace Cache

variable (cache : Cache) (now time : Nat) (url key : String) (tags : List ImageTag)

/-- What the cache holds for one image. -/
def only : Cache := cache.filter fun key _ => key == url

theorem eq_of_entries_eq {cache other : Cache} (httl : cache.ttl = other.ttl)
    (hentries : cache.entries = other.entries) : cache = other := by
  obtain ⟨ttl, entries, hnodup⟩ := cache
  obtain ⟨ttl', entries', hnodup'⟩ := other
  obtain rfl : ttl = ttl' := httl
  obtain rfl : entries = entries' := hentries
  rfl

theorem find?_only : (cache.only url).find? url = cache.find? url := by
  rw [only, find?_filter]
  cases cache.find? url with
  | none => rfl
  | some entry => exact Option.filter_some_pos (beq_self_eq_true url)

theorem get?_only : (cache.only url).get? now url = cache.get? now url := by
  show ((cache.only url).find? url |>.filter _).map _ = _
  rw [find?_only]
  rfl

theorem only_filter (keeps : String → CacheEntry → Bool) :
    (cache.filter keeps).only url = (cache.only url).filter keeps := by
  refine eq_of_entries_eq rfl ?_
  show List.filter _ (List.filter _ _) = List.filter _ (List.filter _ _)
  rw [List.filter_filter, List.filter_filter]
  exact List.filter_congr fun entry _ => Bool.and_comm _ _

theorem only_remove_of_ne (hne : key ≠ url) : (cache.remove key).only url = cache.only url := by
  refine eq_of_entries_eq rfl ?_
  show List.filter _ (List.filter _ _) = List.filter _ _
  rw [List.filter_filter]
  refine List.filter_congr fun entry _ => ?_
  by_cases hkey : entry.1 = url
  · simp [hkey, Ne.symm hne]
  · simp [hkey]

theorem only_insert : (cache.insert now url tags).only url = (cache.only url).insert now url tags := by
  refine eq_of_entries_eq rfl ?_
  show List.filter (fun entry => entry.1 == url) ((url, ⟨now, tags⟩) :: (cache.remove url).entries) =
    (url, ⟨now, tags⟩) :: ((cache.only url).remove url).entries
  rw [List.filter_cons, if_pos (beq_self_eq_true url)]
  exact congrArg (List.cons _) (congrArg entries (cache.only_filter url _))

theorem only_insert_of_ne (hne : key ≠ url) :
    (cache.insert now key tags).only url = cache.only url := by
  refine eq_of_entries_eq rfl ?_
  show List.filter (fun entry => entry.1 == url) ((key, ⟨now, tags⟩) :: (cache.remove key).entries) =
    (cache.only url).entries
  rw [List.filter_cons_of_neg (by simpa using hne)]
  exact congrArg entries (cache.only_remove_of_ne url key hne)

end Cache

/-! ## Stores -/

namespace TagStore

variable {store : TagStore} {action : Action} {url : String}

/-- What the store holds for one image. -/
def only (url : String) (store : TagStore) : TagStore :=
  { store with cache := store.cache.only url }

/-- The action concerns the image: it is not an edit for another one. -/
def Action.concerns (url : String) : Action → Bool
  | .insert key _ | .remove key => key == url
  | .clear | .sweep _ | .elapse _ | .tick | .spawn _ | .stop => true

theorem step_only (h : action.concerns url = true) :
    (store.step action).only url = (store.only url).step action := by
  cases action with
  | insert key tags =>
    obtain rfl : key = url := beq_iff_eq.1 h
    exact congrArg (TagStore.mk · _ _) (store.cache.only_insert store.now key tags)
  | remove key => exact congrArg (TagStore.mk · _ _) (store.cache.only_filter url _)
  | sweep time => exact congrArg (TagStore.mk · _ _) (store.cache.only_filter url _)
  | tick =>
    show store.tick.only url = (store.only url).tick
    rw [tick, tick]
    have hlive : (store.only url).live? = store.live? := rfl
    rw [hlive]
    cases store.live? with
    | none => rfl
    | some sweeper =>
      dsimp only
      by_cases hdue : sweeper.deadline ≤ store.now
      · rw [if_pos hdue]
        refine Eq.trans ?_ (if_pos hdue).symm
        exact congrArg (TagStore.mk · _ _) (store.cache.only_filter url _)
      · rw [if_neg hdue]
        exact (if_neg hdue).symm
  | clear | elapse | spawn | stop => rfl

theorem step_only_of_not (h : action.concerns url = false) :
    (store.step action).only url = store.only url := by
  cases action with
  | insert key tags =>
    exact congrArg (TagStore.mk · _ _)
      (store.cache.only_insert_of_ne store.now url key tags (beq_eq_false_iff_ne.1 h))
  | remove key =>
    exact congrArg (TagStore.mk · _ _)
      (store.cache.only_remove_of_ne url key (beq_eq_false_iff_ne.1 h))
  | clear | sweep | elapse | tick | spawn | stop => exact absurd h (by simp [Action.concerns])

end TagStore

/-! ## Resolvers -/

namespace Resolver

variable {resolver : Resolver} {call : Call} {clients : Clients} {url : String}

/-- What the resolver has for one image. -/
def only (url : String) (resolver : Resolver) : Resolver :=
  { resolver with store := resolver.store.only url }

theorem immediate?_only {request : Request} (h : request.url = url) :
    (resolver.only url).immediate? request = resolver.immediate? request := by
  subst h
  have hget : (resolver.only request.url).store.get? request.url =
      resolver.store.get? request.url := resolver.store.cache.get?_only _ _
  rw [immediate?, immediate?, hget]

theorem asks_only (h : call.request.url = url) :
    (resolver.only url).asks call = resolver.asks call := by
  unfold asks
  rw [immediate?_only h]
  rfl

theorem conclude_only {request : Request} (h : request.url = url)
    (result : Except FetchError (List ImageTag)) : (resolver.only url).conclude request result =
      ((resolver.conclude request result).1.only url, (resolver.conclude request result).2) := by
  match result with
  | .error cause => rfl
  | .ok [] => rfl
  | .ok (tag :: tags) =>
    have hstep : (resolver.store.step (.insert request.url (tag :: tags))).only url =
        (resolver.store.only url).step (.insert request.url (tag :: tags)) :=
      TagStore.step_only (beq_iff_eq.2 h)
    exact Prod.ext (congrArg (Resolver.mk _ _) hstep.symm) rfl

theorem await_only (h : call.request.url = url) (fetch : Fetch) :
    (resolver.only url).await call fetch =
      ((resolver.await call fetch).1.only url, (resolver.await call fetch).2) := by
  have hnow : (resolver.only url).store.now = resolver.store.now := rfl
  rw [await, await, hnow]
  cases fetch.result? resolver.store.now with
  | none => rfl
  | some result =>
    dsimp only
    rw [conclude_only h]
    rfl

theorem begin_only (h : call.request.url = url) (clients : Clients) :
    (resolver.only url).begin call clients =
      ((resolver.begin call clients).1.only url, (resolver.begin call clients).2) := by
  have hfetch : (resolver.only url).fetch call.request clients =
      resolver.fetch call.request clients := rfl
  rw [begin, begin, immediate?_only h, hfetch]
  cases resolver.immediate? call.request with
  | some outcome => rfl
  | none =>
    have hasking : ({ call with hasAsked := true } : Call).request.url = url := h
    exact await_only hasking _

/-- A call about the image goes on as if there were no others. -/
theorem poll_only (h : call.request.url = url) (clients : Clients) :
    (resolver.only url).poll call clients =
      ((resolver.poll call clients).1.only url, (resolver.poll call clients).2) := by
  have hnow : (resolver.only url).store.now = resolver.store.now := rfl
  rw [poll, poll, hnow]
  cases call.progress with
  | pending start =>
    by_cases hstart : start ≤ resolver.store.now
    · dsimp only
      rw [if_pos hstart, if_pos hstart]
      exact begin_only h clients
    · dsimp only
      rw [if_neg hstart, if_neg hstart]
  | fetching fetch => exact await_only h fetch
  | ended time outcome => rfl

/-- A call about another image leaves alone what there is for this one. -/
theorem Turn.only_eq {later : Resolver} {next : Call} (hturn : Turn resolver call clients later next)
    (h : call.request.url ≠ url) : later.only url = resolver.only url := by
  cases hturn with
  | @stores fetch tags hfetch hresult hne =>
    have hstep : (resolver.store.step (.insert call.request.url tags)).only url =
        resolver.store.only url :=
      TagStore.step_only_of_not (beq_eq_false_iff_ne.2 h)
    exact congrArg (Resolver.mk _ _) hstep
  | idle | immediate | waits | fails | misses => rfl

end Resolver

/-! ## Sessions -/

namespace Session

variable {session start : Session} {event other : Event} {events : List Event} {position : Nat}
  {call : Call} {clients : Clients} {url : String}

/-- What the session has for one image: its entry and the calls about it. -/
def only (url : String) (session : Session) : Session where
  resolver := session.resolver.only url
  calls := session.calls.filter (·.request.url == url)

/-- The position of a call among those about the image: how many of these are before it. -/
def rank (url : String) (session : Session) (position : Nat) : Nat :=
  (session.calls.take position).countP (·.request.url == url)

/-- What the call gets to know of the clients if it is polled: how the one behaves that it asks. -/
def heard (session : Session) (call : Call) (clients : Clients) : Clients := fun _ _ =>
  if session.resolver.asks call then
    clients (session.resolver.dispatcher.position? call.request.url) call.request.url
  else ⟨0, .ok []⟩

/-- The event as it is for what the session has for one image, if it concerns that: an edit of the
entry or of the whole cache, the passing of time and background work, a call about the image, and
the poll of such a call that can go on. -/
def about? (url : String) (session : Session) : Event → Option Event
  | .act action => if action.concerns url then some (.act action) else none
  | .call request start => if request.url == url then some (.call request start) else none
  | .poll position clients => do
    let call ← session.calls[position]?
    if call.request.url == url && call.isDue session.resolver.store.now then
      some (.poll (session.rank url position) (session.heard call clients))
    else none

theorem about?_act_eq_some_iff {action : TagStore.Action} :
    session.about? url (.act action) = some other ↔
      action.concerns url = true ∧ other = .act action := by
  rw [about?, Option.ite_none_right_eq_some, Option.some.injEq, @eq_comm _ other]

theorem about?_call_eq_some_iff {request : Request} {begins : Nat} :
    session.about? url (.call request begins) = some other ↔
      request.url = url ∧ other = .call request begins := by
  rw [about?, Option.ite_none_right_eq_some, Option.some.injEq, @eq_comm _ other, beq_iff_eq]

/-- A poll concerns the image if it is one of a call about it that can go on. -/
theorem about?_poll_eq_some_iff : session.about? url (.poll position clients) = some other ↔
    ∃ call, session.calls[position]? = some call ∧ call.request.url = url ∧
      call.isDue session.resolver.store.now = true ∧
      other = .poll (session.rank url position) (session.heard call clients) := by
  rw [about?]
  cases session.calls[position]? with
  | none => simp
  | some call => simp [and_assoc, @eq_comm _ _ other]

theorem isDue_of_about?_eq_none (h : session.about? url (.poll position clients) = none)
    (hcall : session.calls[position]? = some call) (hurl : call.request.url = url) :
    call.isDue session.resolver.store.now = false := by
  rw [about?, hcall] at h
  simpa [hurl] using h

/-- The events of a run that concern the image. -/
def about (url : String) (session : Session) : List Event → List Event
  | [] => []
  | event :: events => (session.about? url event).toList ++ about url (session.step event) events

theorem getElem?_only (hcall : session.calls[position]? = some call)
    (hurl : call.request.url = url) :
    (session.only url).calls[session.rank url position]? = some call :=
  getElem?_filter_countP hcall (beq_iff_eq.2 hurl)

/-- A call gets to know what it asks for. -/
theorem poll_heard (resolver : Resolver) (hresolver : session.resolver.asks call = resolver.asks call)
    (hdispatcher : session.resolver.dispatcher = resolver.dispatcher) :
    resolver.poll call (session.heard call clients) = resolver.poll call clients := by
  refine Resolver.poll_congr fun hasks => ?_
  rw [heard, hresolver, if_pos hasks, hdispatcher]

/-- The poll of a call about the image. -/
theorem poll_only (hcall : session.calls[position]? = some call) (hurl : call.request.url = url) :
    (session.poll position clients).only url =
      (session.only url).poll (session.rank url position) (session.heard call clients) := by
  have hresolver : (session.only url).resolver.poll call (session.heard call clients) =
      ((session.resolver.poll call clients).1.only url, (session.resolver.poll call clients).2) :=
    (poll_heard (session.resolver.only url) (Resolver.asks_only hurl).symm rfl).trans
      (Resolver.poll_only hurl clients)
  have hrequest := (session.resolver.turn_poll call clients).frame.2.2.2.2
  rw [poll_eq clients hcall, poll_eq _ (getElem?_only hcall hurl), hresolver]
  refine congrArg (Session.mk _) ?_
  exact filter_set hcall (beq_iff_eq.2 hurl) (beq_iff_eq.2 ((congrArg Request.url hrequest).trans hurl))

/-- The poll of a call about another image. -/
theorem poll_only_of_ne (hcall : session.calls[position]? = some call)
    (hurl : call.request.url ≠ url) : (session.poll position clients).only url = session.only url := by
  have hturn := session.resolver.turn_poll call clients
  have hrequest := hturn.frame.2.2.2.2
  rw [poll_eq clients hcall, only, only, hturn.only_eq hurl]
  refine congrArg (Session.mk _) ?_
  have hnext : (session.resolver.poll call clients).2.request.url ≠ url := by rwa [hrequest]
  exact filter_set_of_not hcall (by simpa using hurl) (by simpa using hnext)

/-- **One event** that concerns the image does to what is left of the session what it does there. -/
theorem step_only (h : session.about? url event = some other) :
    (session.step event).only url = (session.only url).step other := by
  cases event with
  | act action =>
    obtain ⟨hconcerns, rfl⟩ := about?_act_eq_some_iff.1 h
    exact congrArg (Session.mk · _) (congrArg (Resolver.mk _ _) (TagStore.step_only hconcerns))
  | call request start =>
    obtain ⟨hurl, rfl⟩ := about?_call_eq_some_iff.1 h
    refine congrArg (Session.mk _) ?_
    show List.filter _ (session.calls ++ _) = List.filter _ session.calls ++ _
    have hnew : List.filter (fun call : Call => call.request.url == url)
        [⟨request, .pending start, false⟩] = [⟨request, .pending start, false⟩] :=
      List.filter_cons_of_pos (beq_iff_eq.2 hurl)
    rw [List.filter_append, hnew]
  | poll position clients =>
    obtain ⟨call, hcall, hurl, -, rfl⟩ := about?_poll_eq_some_iff.1 h
    exact poll_only hcall hurl

/-- **One event** that does not concern the image leaves that as it is. -/
theorem step_only_of_none (h : session.about? url event = none) :
    (session.step event).only url = session.only url := by
  cases event with
  | act action =>
    have hconcerns : action.concerns url = false := by simpa [about?] using h
    exact congrArg (Session.mk · _)
      (congrArg (Resolver.mk _ _) (TagStore.step_only_of_not hconcerns))
  | call request start =>
    have hurl : ¬ (request.url == url) = true := by simpa [about?] using h
    refine congrArg (Session.mk _) ?_
    show List.filter _ (session.calls ++ _) = List.filter _ session.calls
    have hnew : List.filter (fun call : Call => call.request.url == url)
        [⟨request, .pending start, false⟩] = [] :=
      List.filter_cons_of_neg hurl
    rw [List.filter_append, hnew, List.append_nil]
  | poll position clients =>
    show (session.poll position clients).only url = _
    cases hcall : session.calls[position]? with
    | none => rw [poll, hcall]
    | some call =>
      by_cases hurl : call.request.url = url
      · -- the call can not go on yet, so the poll does nothing
        rw [poll_eq clients hcall, Resolver.poll_of_early (isDue_of_about?_eq_none h hcall hurl)]
        obtain ⟨hlt, rfl⟩ := List.getElem?_eq_some_iff.1 hcall
        rw [List.set_getElem_self]
      · exact poll_only_of_ne hcall hurl

/-- **One run** leaves of a session what the events that concern the image make of it. -/
theorem run_only (start : Session) (events : List Event) (url : String) :
    (start.run events).only url = (start.only url).run (start.about url events) := by
  induction events generalizing start with
  | nil => rfl
  | cons event events ih =>
    show ((start.step event).run events).only url = _
    rw [ih, about]
    cases h : start.about? url event with
    | none => rw [step_only_of_none h, Option.toList_none, List.nil_append]
    | some other =>
      rw [step_only h]
      rfl

/-! ## Questions about the image -/

/-- What clients do about the questions about the image that are put in a run. -/
def answersFor (url : String) (start : Session) (events : List Event) : List Behaviour :=
  ((start.exchanges events).filter (·.1.url == url)).map (·.2)

theorem countP_questions (start : Session) (events : List Event) (url : String) :
    (start.questions events).countP (·.url == url) = (start.answersFor url events).length := by
  rw [answersFor, List.length_map, ← List.countP_eq_length_filter, ← map_exchanges,
    List.countP_map]
  rfl

/-- A call puts the same question. -/
theorem question?_only (hcall : session.calls[position]? = some call)
    (hurl : call.request.url = url) :
    (session.only url).question? (session.rank url position) =
      (session.question? position).map fun question =>
        ⟨session.rank url position, question.client, question.url⟩ := by
  have hasks : (session.only url).resolver.asks call = session.resolver.asks call :=
    Resolver.asks_only hurl
  rw [question?, question?, getElem?_only hcall hurl, hcall, Option.filter_some,
    Option.filter_some, hasks]
  cases session.resolver.asks call with
  | true => rfl
  | false => rfl

theorem exchange?_only (h : session.about? url event = some other) :
    ((session.only url).exchange? other).map (·.2) =
      ((session.exchange? event).filter (·.1.url == url)).map (·.2) := by
  cases event with
  | act action =>
    obtain ⟨-, rfl⟩ := about?_act_eq_some_iff.1 h
    rfl
  | call request start =>
    obtain ⟨-, rfl⟩ := about?_call_eq_some_iff.1 h
    rfl
  | poll position clients =>
    obtain ⟨call, hcall, hurl, -, rfl⟩ := about?_poll_eq_some_iff.1 h
    rw [exchange?, exchange?, question?_only hcall hurl]
    cases hquestion : session.question? position with
    | none => rfl
    | some question =>
      obtain ⟨asking, hasking, hasks, rfl⟩ := question?_eq_some_iff.1 hquestion
      obtain rfl := Option.some.inj (hcall.symm.trans hasking)
      show some (session.heard call clients none url) = Option.map _ (Option.filter _ (some _))
      rw [Option.filter_some, if_pos (beq_iff_eq.2 hurl), heard, if_pos hasks]
      rfl

theorem exchange?_of_none (h : session.about? url event = none) :
    (session.exchange? event).filter (·.1.url == url) = none := by
  rw [Option.filter_eq_none_iff]
  intro exchange hexchange hurl
  cases event with
  | act action => exact absurd hexchange (by simp [exchange?])
  | call request start => exact absurd hexchange (by simp [exchange?])
  | poll position clients =>
    -- a call that asks can go on
    obtain ⟨question, hquestion, rfl⟩ := Option.map_eq_some_iff.1 hexchange
    obtain ⟨call, hcall, hasks, rfl⟩ := question?_eq_some_iff.1 hquestion
    obtain ⟨start, hpending, hstart, -⟩ := Resolver.asks_iff.1 hasks
    have hdue : call.isDue session.resolver.store.now = true := by
      simp [Call.isDue, Call.wake?, hpending, hstart]
    have hearly := isDue_of_about?_eq_none h hcall (beq_iff_eq.1 hurl)
    exact absurd (hdue.symm.trans hearly) (by simp)

theorem answersFor_eq (start : Session) (events : List Event) (url : String) :
    start.answersFor url events = (start.only url).answers (start.about url events) := by
  have hfilter {exchange? : Option (Question × Behaviour)} :
      (exchange?.toList.filter (·.1.url == url)).map (·.2) =
        ((exchange?.filter (·.1.url == url)).map (·.2)).toList := by
    cases exchange? with
    | none => rfl
    | some exchange =>
      by_cases hurl : (exchange.1.url == url) = true
      · have hlist : [exchange].filter (·.1.url == url) = [exchange] := List.filter_cons_of_pos hurl
        rw [Option.filter_some, if_pos hurl, Option.toList_some, hlist]
        rfl
      · have hlist : [exchange].filter (·.1.url == url) = [] := List.filter_cons_of_neg hurl
        rw [Option.filter_some, if_neg hurl, Option.toList_some, hlist]
        rfl
  induction events generalizing start with
  | nil => rfl
  | cons event events ih =>
    have hrest : start.answersFor url (event :: events) =
        (((start.exchange? event).filter (·.1.url == url)).map (·.2)).toList ++
          (start.step event).answersFor url events := by
      rw [answersFor, exchanges, List.filter_append, List.map_append, hfilter]
      rfl
    rw [hrest, ih, about]
    cases h : start.about? url event with
    | none =>
      rw [step_only_of_none h, exchange?_of_none h]
      rfl
    | some other =>
      rw [step_only h, ← exchange?_only h, Option.toList_map, answers, answers, ← List.map_append]
      rfl

end Session

end LatestTag
