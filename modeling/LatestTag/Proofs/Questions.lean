import LatestTag.Proofs.Stories

/-!
# What clients are asked

When a call begins and can not be answered at once, it asks a client for tags. The session counts
these questions; this file says which there are in a run.

> `consults_iff`: a poll depends on what a client would do about an image exactly if it puts that
> question (`Session.question?`).
> `asked?_eq_some_iff`: a question is put by a call that begins (`Session.Begins`), for want of
> fresh tags and of a signal to give up.
> `begins_once`: a call begins once.

So a call puts one question or none, and no client has a part in a run beyond the questions that are
put to it.
-/

namespace LatestTag

namespace Resolver

variable {resolver : Resolver} {call : Call} {clients clients' : Clients} {cause : FetchError}

/-- A call asks if it begins and can not be answered at once. -/
theorem asks_iff : resolver.asks call = true ↔ ∃ start, call.progress = .pending start ∧
    start ≤ resolver.store.now ∧ resolver.immediate? call.request = none := by
  unfold asks
  cases call.progress <;> simp

/-- A poll depends on the clients only if it asks one, and then on that one alone. -/
theorem poll_congr (h : resolver.asks call = true →
      clients (resolver.dispatcher.position? call.request.url) call.request.url =
        clients' (resolver.dispatcher.position? call.request.url) call.request.url) :
    resolver.poll call clients = resolver.poll call clients' := by
  unfold poll
  split
  next start hpending =>
    split
    next hstart =>
      unfold begin
      split
      next => rfl
      next himmediate =>
        -- the only place where clients are looked at
        rw [fetch, fetch, h (asks_iff.2 ⟨start, hpending, hstart, himmediate⟩)]
    next => rfl
  next => rfl
  next => rfl

/-- A request whose signal has not come when its fetch begins gets an answer that comes at once. -/
theorem result?_fetch {request : Request} (himmediate : resolver.immediate? request = none)
    (hclients : clients (resolver.dispatcher.position? request.url) request.url =
      ⟨0, .error cause⟩) :
    (resolver.fetch request clients).result? resolver.store.now = some (.error cause) := by
  have hsignal := (immediate?_eq_none_iff.1 himmediate).2
  have hcancellation : (resolver.fetch request clients).cancellation.any
      (· ≤ resolver.store.now) = false := by
    rw [Fetch.cancellation, fetch]
    cases h : request.signal with
    | none => rfl
    | some signal =>
      -- it comes some time after the request, and a timer is never early
      have hpos : 0 < signal := Nat.pos_of_ne_zero fun hzero => hsignal (hzero ▸ h)
      exact decide_eq_false (Nat.not_le.2 (Duration.lt_wake hpos))
  have hcompletion : (resolver.fetch request clients).completion = resolver.store.now := by
    rw [Fetch.completion, fetch, hclients]
    rfl
  rw [Fetch.result?, hcancellation, hcompletion, if_neg Bool.false_ne_true,
    if_pos (Nat.le_refl _), fetch, hclients]

/-- A call that asks a client which refuses at once has failed. -/
theorem progress_poll (hasks : resolver.asks call = true)
    (hclients : clients (resolver.dispatcher.position? call.request.url) call.request.url =
      ⟨0, .error cause⟩) :
    (resolver.poll call clients).2.progress =
      .ended resolver.store.now (call.request.failed cause) := by
  obtain ⟨start, hpending, hstart, himmediate⟩ := asks_iff.1 hasks
  have hresult := result?_fetch himmediate hclients
  simp only [poll, hpending, if_pos hstart, begin, himmediate, await, hresult, conclude, finish]

/-- A turn notes down whether the call has asked. -/
theorem Turn.hasAsked_eq {later : Resolver} {next : Call}
    (hturn : Turn resolver call clients later next) :
    next.hasAsked = (call.hasAsked || resolver.asks call) := by
  cases hturn with
  | idle hfetch =>
    have hasks : resolver.asks call = false := by
      rw [Bool.eq_false_iff]
      intro hasks
      obtain ⟨start, hpending, -⟩ := asks_iff.1 hasks
      simp [fetch?, hpending, hasks] at hfetch
    rw [hasks, Bool.or_false]
  | immediate | waits | fails | misses | stores => rfl

/-- A call that has begun, or is polled when its start has come, has begun behind its turn. -/
theorem Turn.progress_ne_pending {later : Resolver} {next : Call}
    (hturn : Turn resolver call clients later next)
    (h : (∀ start, call.progress ≠ .pending start) ∨
      ∃ wake ∈ call.wake?, wake ≤ resolver.store.now) (start : Nat) :
    next.progress ≠ .pending start := by
  cases hturn with
  | idle hfetch hwake =>
    rcases h with hnot | ⟨wake, hmem, hle⟩
    · exact hnot start
    · exact absurd hle (Nat.not_le.2 (hwake wake hmem))
  | immediate | waits | fails | misses | stores => simp [ended]

end Resolver

/-- A question to a registry client: the position of the call that puts it, the name of the client,
and the image. -/
structure Question where
  /-- The position of the call. -/
  caller : Nat
  /-- The name of the client. -/
  client : Option Nat
  /-- The reference of the image. -/
  url : String
deriving DecidableEq

namespace Session

/-- The question that the call at a position puts if it is polled. -/
def question? (session : Session) (position : Nat) : Option Question :=
  (session.calls[position]?.filter session.resolver.asks).map fun call =>
    ⟨position, session.resolver.dispatcher.position? call.request.url, call.request.url⟩

/-- The question that is put at an event. -/
def asked? (session : Session) : Event → Option Question
  | .poll position _ => session.question? position
  | .act _ | .call _ _ => none

/-- The questions that are put in a run. -/
def questions (start : Session) : List Event → List Question
  | [] => []
  | event :: events => (start.asked? event).toList ++ questions (start.step event) events

/-- The question that is put at an event, with what the client does that is asked. -/
def exchange? (session : Session) : Event → Option (Question × Behaviour)
  | .poll position clients => (session.question? position).map fun question =>
    (question, clients question.client question.url)
  | .act _ | .call _ _ => none

/-- The questions that are put in a run, with what clients do about them. -/
def exchanges (start : Session) : List Event → List (Question × Behaviour)
  | [] => []
  | event :: events => (start.exchange? event).toList ++ exchanges (start.step event) events

/-- What clients do about the questions that are put in a run. -/
def answers (start : Session) (events : List Event) : List Behaviour :=
  (start.exchanges events).map (·.2)

/-- The poll of the call at a position depends on what the client would do about the image. -/
def Consults (session : Session) (position : Nat) (client : Option Nat) (url : String) : Prop :=
  ∃ clients clients' : Clients,
    (∀ name image, (name, image) ≠ (client, url) → clients name image = clients' name image) ∧
      session.poll position clients ≠ session.poll position clients'

/-- The call at a position begins: it is polled for the first time since its start has come. -/
def Begins (position : Nat) (request : Request) (session : Session) (event : Event) : Prop :=
  ∃ clients call start, event = .poll position clients ∧ session.calls[position]? = some call ∧
    call.request = request ∧ call.progress = .pending start ∧ start ≤ session.resolver.store.now

variable {session start : Session} {event : Event} {events : List Event} {position : Nat}
  {request : Request} {question : Question} {clients clients' : Clients}

/-! ## One question -/

theorem question?_eq_some_iff : session.question? position = some question ↔
    ∃ call, session.calls[position]? = some call ∧ session.resolver.asks call = true ∧
      question = ⟨position, session.resolver.dispatcher.position? call.request.url,
        call.request.url⟩ := by
  simp only [question?, Option.map_eq_some_iff, Option.filter_eq_some_iff, and_assoc,
    @eq_comm _ _ question]

theorem poll_congr (h : ∀ question, session.question? position = some question →
      clients question.client question.url = clients' question.client question.url) :
    session.poll position clients = session.poll position clients' := by
  cases hcall : session.calls[position]? with
  | none => rw [poll, poll, hcall]
  | some call =>
    have hpoll : session.resolver.poll call clients = session.resolver.poll call clients' :=
      Resolver.poll_congr fun hasks =>
        h _ (question?_eq_some_iff.2 ⟨call, hcall, hasks, rfl⟩)
    rw [poll_eq clients hcall, poll_eq clients' hcall, hpoll]

/-- **What a poll asks** is what it depends on. If it puts the question, two ways for the client to
refuse make a difference. -/
theorem consults_iff {client : Option Nat} {url : String} :
    session.Consults position client url ↔
      session.question? position = some ⟨position, client, url⟩ := by
  constructor
  · rintro ⟨clients, clients', hagree, hdiffer⟩
    by_contra hquestion
    refine hdiffer (poll_congr fun question hother => ?_)
    obtain ⟨call, -, -, rfl⟩ := question?_eq_some_iff.1 hother
    refine hagree _ _ fun heq => hquestion ?_
    obtain ⟨rfl, rfl⟩ := Prod.mk.inj heq
    exact hother
  · intro hquestion
    obtain ⟨call, hcall, hasks, heq⟩ := question?_eq_some_iff.1 hquestion
    obtain ⟨-, rfl, rfl⟩ := Question.mk.inj heq
    let refusing (cause : FetchError) : Clients := fun name image =>
      if (name, image) =
          (session.resolver.dispatcher.position? call.request.url, call.request.url) then
        ⟨0, .error cause⟩
      else ⟨0, .ok []⟩
    -- two clients that refuse for different reasons, which the caller is told
    refine ⟨refusing .cancelled, refusing (.timeout 0), ?_, ?_⟩
    · intro name image hne
      simp only [refusing, if_neg hne]
    · intro heq
      have hprogress (cause : FetchError) :
          (session.poll position (refusing cause)).calls[position]?.map (·.progress) =
            some (.ended session.resolver.store.now (call.request.failed cause)) := by
        rw [calls_poll_self _ hcall, Option.map_some,
          Resolver.progress_poll hasks (if_pos rfl)]
      have hsame := (hprogress .cancelled).symm.trans (heq ▸ hprogress (.timeout 0))
      simp [Request.failed] at hsame

/-- A question is put by a call that begins and can not be answered at once. -/
theorem asked?_eq_some_iff : session.asked? event = some question ↔
    ∃ request, Begins question.caller request session event ∧
      session.resolver.immediate? request = none ∧
      question.client = session.resolver.dispatcher.position? request.url ∧
      question.url = request.url := by
  obtain ⟨caller, client, url⟩ := question
  constructor
  · intro hasked
    cases event with
    | act action => exact absurd hasked (by simp [asked?])
    | call request start => exact absurd hasked (by simp [asked?])
    | poll position clients =>
      obtain ⟨call, hcall, hasks, heq⟩ := question?_eq_some_iff.1 hasked
      obtain ⟨rfl, rfl, rfl⟩ := Question.mk.inj heq
      obtain ⟨begins, hpending, hbegins, himmediate⟩ := Resolver.asks_iff.1 hasks
      exact ⟨call.request, ⟨clients, call, begins, rfl, hcall, rfl, hpending, hbegins⟩, himmediate,
        rfl, rfl⟩
  · rintro ⟨request, ⟨clients, call, begins, rfl, hcall, rfl, hpending, hbegins⟩, himmediate, rfl,
      rfl⟩
    have hasks := Resolver.asks_iff.2 ⟨begins, hpending, hbegins, himmediate⟩
    exact question?_eq_some_iff.2 ⟨call, hcall, hasks, rfl⟩

/-- A call that begins asks the client that serves the image, unless there are fresh tags or the
signal to give up has come. -/
theorem Begins.asked?_eq (h : Begins position request session event) : session.asked? event =
    if session.resolver.store.get? request.url = none ∧ request.signal ≠ some 0 then
      some ⟨position, session.resolver.dispatcher.position? request.url, request.url⟩
    else none := by
  obtain ⟨clients, call, begins, rfl, hcall, rfl, hpending, hbegins⟩ := h
  have hasks : session.resolver.asks call = true ↔
      session.resolver.store.get? call.request.url = none ∧ call.request.signal ≠ some 0 := by
    simp [Resolver.asks_iff, Resolver.immediate?_eq_none_iff, hpending, hbegins]
  simp only [asked?, question?, hcall, Option.filter_some, hasks]
  split <;> rfl

/-! ## The questions of a run -/

theorem questions_append (start : Session) (events later : List Event) :
    start.questions (events ++ later) =
      start.questions events ++ (start.run events).questions later := by
  induction events generalizing start with
  | nil => rfl
  | cons event events ih =>
    rw [List.cons_append, questions, questions, ih, List.append_assoc]
    rfl

theorem map_exchanges (start : Session) (events : List Event) :
    (start.exchanges events).map (·.1) = start.questions events := by
  induction events generalizing start with
  | nil => rfl
  | cons event events ih =>
    have hevent : (start.exchange? event).map (·.1) = start.asked? event := by
      cases event with
      | act action => rfl
      | call request begins => rfl
      | poll position clients =>
        rw [exchange?, asked?, Option.map_map]
        exact Option.map_id'
    rw [exchanges, questions, List.map_append, ih, ← hevent, Option.toList_map]

theorem mem_questions_iff : question ∈ start.questions events ↔
    Occurs start events fun session event => session.asked? event = some question := by
  induction events generalizing start with
  | nil => simp [questions, not_occurs_nil]
  | cons event events ih =>
    rw [questions, List.mem_append, Option.mem_toList, ih, occurs_cons]

/-- **The questions of a run** are put at the polls that depend on a client. -/
theorem mem_questions_iff_consults : question ∈ start.questions events ↔
    Occurs start events fun session event => ∃ clients, event = .poll question.caller clients ∧
      session.Consults question.caller question.client question.url := by
  have hasked (session : Session) (event : Event) : session.asked? event = some question ↔
      ∃ clients, event = .poll question.caller clients ∧
        session.question? question.caller = some question := by
    cases event with
    | act action => simp [asked?]
    | call request begins => simp [asked?]
    | poll position clients =>
      constructor
      · intro hquestion
        obtain ⟨call, -, -, heq⟩ := question?_eq_some_iff.1 hquestion
        have hcaller : question.caller = position := congrArg Question.caller heq
        exact ⟨clients, by rw [hcaller], hcaller ▸ hquestion⟩
      · rintro ⟨_, ⟨⟩, hquestion⟩
        exact hquestion
  simp only [mem_questions_iff, hasked, consults_iff]

/-! ## A call begins once -/

/-- The call at a position has begun. -/
def HasBegun (position : Nat) (session : Session) : Prop :=
  ∃ call, session.calls[position]? = some call ∧ ∀ start, call.progress ≠ .pending start

theorem HasBegun.not_begins (h : HasBegun position session) :
    ¬ Begins position request session event := by
  rintro ⟨clients, call, begins, -, hcall, -, hpending, -⟩
  obtain ⟨begun, hbegun, hnot⟩ := h
  obtain rfl := Option.some.inj (hbegun.symm.trans hcall)
  exact hnot begins hpending

theorem HasBegun.step (h : HasBegun position session) : HasBegun position (session.step event) := by
  obtain ⟨call, hcall, hnot⟩ := h
  obtain ⟨later, hlater, ⟨-, rfl⟩ | ⟨clients, -, hturn⟩⟩ := exists_call_step event hcall
  · exact ⟨later, hlater, hnot⟩
  · exact ⟨later, hlater, hturn.progress_ne_pending (Or.inl hnot)⟩

theorem HasBegun.run (h : HasBegun position start) (events : List Event) :
    HasBegun position (start.run events) := by
  induction events generalizing start with
  | nil => exact h
  | cons event events ih => exact ih h.step

theorem Begins.hasBegun (h : Begins position request session event) :
    HasBegun position (session.step event) := by
  obtain ⟨clients, call, begins, rfl, hcall, -, hpending, hbegins⟩ := h
  obtain ⟨later, hlater, ⟨hnot, -⟩ | ⟨others, -, hturn⟩⟩ :=
    exists_call_step (.poll position clients) hcall
  · exact absurd rfl (hnot clients)
  · have hwake : begins ∈ call.wake? := by simp [Call.wake?, hpending]
    exact ⟨later, hlater, hturn.progress_ne_pending (Or.inr ⟨begins, hwake, hbegins⟩)⟩

/-- **A call begins once**: if it does so at some event, it does not before and not after. -/
theorem begins_once {before : List Event}
    (h : Begins position request (start.run before) event) :
    (∀ other, ¬ Occurs start before (Begins position other)) ∧
      ∀ after other, ¬ Occurs ((start.run before).step event) after (Begins position other) := by
  constructor
  · -- else the call would have begun before, and could not do so now
    rintro other ⟨earlier, first, rest, rfl, hfirst⟩
    have hbegun := hfirst.hasBegun.run rest
    rw [← run_append, run_run, ← List.append_cons] at hbegun
    exact hbegun.not_begins h
  · rintro after other ⟨earlier, second, rest, rfl, hsecond⟩
    exact (h.hasBegun.run earlier).not_begins hsecond

/-! ## The questions of a call -/

/-- The questions that the call at a position puts in a run. -/
def questionsOf (start : Session) (events : List Event) (position : Nat) : List Question :=
  (start.questions events).filter (·.caller == position)

theorem questionsOf_eq_nil (h : ∀ request, ¬ Occurs start events (Begins position request)) :
    start.questionsOf events position = [] := by
  rw [questionsOf, List.filter_eq_nil_iff]
  intro question hmem hcaller
  obtain ⟨before, event, after, hevents, hasked⟩ := mem_questions_iff.1 hmem
  obtain ⟨request, hbegins, -⟩ := asked?_eq_some_iff.1 hasked
  rw [beq_iff_eq.1 hcaller] at hbegins
  exact h request ⟨before, event, after, hevents, hbegins⟩

/-- **What a call asks** is settled when it begins: nothing, if there are fresh tags or the signal
to give up has come, and else the client that serves the image. -/
theorem questionsOf_eq {before after : List Event}
    (h : Begins position request (start.run before) event) :
    start.questionsOf (before ++ event :: after) position =
      if (start.run before).resolver.store.get? request.url = none ∧ request.signal ≠ some 0 then
        [⟨position, start.resolver.dispatcher.position? request.url, request.url⟩]
      else [] := by
  have hbefore := questionsOf_eq_nil (begins_once h).1
  have hafter := questionsOf_eq_nil ((begins_once h).2 after)
  have hsplit : start.questionsOf (before ++ event :: after) position =
      ((start.run before).asked? event).toList.filter (·.caller == position) := by
    rw [questionsOf] at hbefore hafter ⊢
    rw [questions_append, questions, List.filter_append, List.filter_append, hbefore, hafter,
      List.nil_append, List.append_nil]
  rw [hsplit, h.asked?_eq, (frame_run start before).2.1]
  split <;> simp

/-! ## The count of questions -/

/-- **One event** adds the question that is put at it to the count. -/
theorem askedCount_step (hnew : ∀ (position : Nat) (call : Call) (begins : Nat),
      session.calls[position]? = some call → call.progress = .pending begins →
        call.hasAsked = false) (event : Event) (client : Option Nat) :
    (session.step event).askedCount client = session.askedCount client +
      (session.asked? event).toList.countP fun question => question.client == client := by
  cases event with
  | act action => rfl
  | call request begins => simp [step, Session.call, askedCount, asked?]
  | poll position clients =>
    rcases session.poll_cases position clients with
      ⟨hnone, hpoll⟩ | ⟨call, later, next, hcall, hturn, hpoll⟩
    · simp [step, hpoll, asked?, question?, hnone]
    · obtain ⟨hlt, hget⟩ := List.getElem?_eq_some_iff.1 hcall
      obtain ⟨-, hdispatcher, -, -, hrequest⟩ := hturn.frame
      have hle := List.boole_getElem_le_countP (p := fun call : Call => call.hasAsked &&
        session.resolver.dispatcher.position? call.request.url == client) hlt
      rw [step, hpoll, askedCount, askedCount, asked?, question?, hcall, Option.filter_some]
      dsimp only
      rw [hdispatcher, List.countP_set hlt, hturn.hasAsked_eq, hrequest]
      rw [hget] at hle ⊢
      cases hasks : session.resolver.asks call with
      | false =>
        rw [Bool.or_false, Nat.sub_add_cancel hle]
        rfl
      | true =>
        -- the call begins, so it had not asked before
        obtain ⟨begins, hpending, -⟩ := Resolver.asks_iff.1 hasks
        simp [hnew position call begins hcall hpending]

/-- The session counts the questions that are put in a run. -/
theorem askedCount_run (config : Config) (dispatcher : Dispatcher) (events : List Event)
    (client : Option Nat) :
    ((new config dispatcher).run events).askedCount client =
      ((new config dispatcher).questions events).countP fun question =>
        question.client == client := by
  induction events using List.reverseRecOn with
  | nil => rfl
  | append_singleton events event ih =>
    have hstart (position : Nat) (call : Call)
        (hcall : (new config dispatcher).calls[position]? = some call) : call.IsNew :=
      absurd hcall (by simp [new])
    rw [run_append, questions_append, List.countP_append, ← ih, questions, questions,
      List.append_nil]
    refine askedCount_step (fun position call begins hcall hpending => ?_) event client
    exact (story_run (hstart position) events hcall).hasAsked_of_pending hpending

end Session

end LatestTag
