import LatestTag.Proofs.Provenance
import LatestTag.Proofs.Timely
import LatestTag.Proofs.WithoutCall

/-!
# The ways to ask for the latest tag

There are four ways to the latest tag of an image: one may ask for it, for all tags and then pick
the latest (`Request.latestOf`), for it within the time limit that is configured anyway, or for it
unless a signal comes, one that comes too late (`Session.ComesLate`).

> `entry_points_agree`: on any session and in any run on from it, it makes no difference which way
> is taken: the caller has the same answer at the same instant, and all else is the same.

The requests are answered from the same tags, and have the same time limit (`Request.Agrees`). So
the calls, one in each of two sessions that are the same otherwise, come equally far at every poll
(`Call.Agrees`), and do the same to the resolver. A signal to give up could change that, but only
while the call waits for its fetch.
-/

namespace LatestTag

/-- The outcome of all tags for a caller who then picks the latest. -/
def Request.latestOf (options : Options) : Outcome → Outcome
  | .ok (.tags tags) => latest options tags
  | outcome => outcome

/-! ## Requests that agree -/

/-- The signal to give up, which comes after such a time if ever, is still to come for the fetch. -/
def Fetch.IsSpared (fetch : Fetch) (signal : Option Nat) (now : Nat) : Prop :=
  ∀ wait ∈ signal, now < Duration.wake fetch.began wait

/-- The other request takes its answer from the same tags within the same time, and outcomes of it
stand for those of the request, which heeds no signal. -/
structure Request.Agrees (translate : Outcome → Outcome) (config : Config)
    (request other : Request) : Prop where
  url_eq : other.url = request.url
  timeout_eq : other.timeout config = request.timeout config
  signal_eq : request.signal = none
  signal_ne : other.signal ≠ some 0
  answered : ∀ tags, translate (other.answered tags) = request.answered tags
  error : ∀ error, translate (.error error) = .error error

/-- The other call has come equally far. -/
inductive Progress.Agrees (translate : Outcome → Outcome) (signal : Option Nat) :
    Progress → Progress → Prop where
  /-- It begins at the same instant. -/
  | pending {start : Nat} : Agrees translate signal (.pending start) (.pending start)
  /-- It waits for the same fetch, but for a signal to give up. -/
  | fetching {fetch : Fetch} (hnone : fetch.signal = none) :
      Agrees translate signal (.fetching fetch) (.fetching { fetch with signal := signal })
  /-- It has ended at the same instant. -/
  | ended {time : Nat} {result : Outcome} :
      Agrees translate signal (.ended time (translate result)) (.ended time result)

/-- The calls are for two requests and have come equally far. -/
structure Call.Agrees (translate : Outcome → Outcome) (request other : Request)
    (call twin : Call) : Prop where
  request_eq : call.request = request
  other_eq : twin.request = other
  progress : call.progress.Agrees translate other.signal twin.progress
  hasAsked_eq : twin.hasAsked = call.hasAsked

/-- A signal that is still to come makes no difference to a fetch. -/
theorem Fetch.result?_withSignal {fetch : Fetch} {signal : Option Nat} {now : Nat}
    (hnone : fetch.signal = none) (hspared : fetch.IsSpared signal now) :
    { fetch with signal := signal }.result? now = fetch.result? now := by
  have hbefore : fetch.cancellation.any (· ≤ now) = false := by
    rw [cancellation, hnone]
    rfl
  have hstill : { fetch with signal := signal }.cancellation.any (· ≤ now) = false := by
    rw [cancellation]
    cases signal with
    | none => rfl
    | some wait => exact decide_eq_false (Nat.not_le.2 (hspared wait rfl))
  rw [result?, result?, hbefore, hstill]
  rfl

namespace Resolver

variable {translate : Outcome → Outcome} {resolver : Resolver} {request other : Request}
  {call twin : Call} {fetch : Fetch}

theorem immediate?_agrees (h : request.Agrees translate resolver.config other) :
    resolver.immediate? request = (resolver.immediate? other).map translate := by
  have hsignal : request.signal ≠ some 0 := by simp [h.signal_eq]
  rw [immediate?, immediate?, if_neg hsignal, if_neg h.signal_ne, Option.map_map, h.url_eq]
  exact congrArg (Option.map · _) (funext fun tags => (h.answered tags).symm)

theorem fetch_agrees (h : request.Agrees translate resolver.config other) (clients : Clients) :
    resolver.fetch other clients =
      { resolver.fetch request clients with signal := other.signal } := by
  rw [fetch, fetch, h.url_eq, h.timeout_eq]

theorem conclude_agrees (h : request.Agrees translate resolver.config other)
    (result : Except FetchError (List ImageTag)) :
    (resolver.conclude other result).1 = (resolver.conclude request result).1 ∧
      translate (resolver.conclude other result).2 = (resolver.conclude request result).2 := by
  match result with
  | .error cause =>
    refine ⟨rfl, (h.error _).trans ?_⟩
    rw [conclude, Request.failed, h.url_eq]
  | .ok [] =>
    refine ⟨rfl, (h.error _).trans ?_⟩
    rw [conclude, h.url_eq]
  | .ok (tag :: tags) =>
    rw [conclude, conclude, h.url_eq]
    exact ⟨rfl, h.answered _⟩

theorem await_agrees (h : request.Agrees translate resolver.config other)
    (progress later : Progress) (hasAsked : Bool) (hnone : fetch.signal = none)
    (hspared : fetch.IsSpared other.signal resolver.store.now) :
    (resolver.await ⟨other, later, hasAsked⟩ { fetch with signal := other.signal }).1 =
        (resolver.await ⟨request, progress, hasAsked⟩ fetch).1 ∧
      (resolver.await ⟨request, progress, hasAsked⟩ fetch).2.Agrees translate request other
        (resolver.await ⟨other, later, hasAsked⟩ { fetch with signal := other.signal }).2 := by
  unfold await
  rw [Fetch.result?_withSignal hnone hspared]
  split
  next result hresult =>
    obtain ⟨hsame, houtcome⟩ := conclude_agrees h result
    dsimp only [finish]
    rw [hsame, ← houtcome]
    exact ⟨rfl, rfl, rfl, .ended, rfl⟩
  next => exact ⟨rfl, rfl, rfl, .fetching hnone, rfl⟩

theorem begin_agrees (h : request.Agrees translate resolver.config other)
    (progress later : Progress) (hasAsked : Bool) (clients : Clients) :
    (resolver.begin ⟨other, later, hasAsked⟩ clients).1 =
        (resolver.begin ⟨request, progress, hasAsked⟩ clients).1 ∧
      (resolver.begin ⟨request, progress, hasAsked⟩ clients).2.Agrees translate request other
        (resolver.begin ⟨other, later, hasAsked⟩ clients).2 := by
  unfold begin
  dsimp only
  rw [immediate?_agrees h, fetch_agrees h clients]
  cases resolver.immediate? other with
  | some outcome => exact ⟨rfl, rfl, rfl, .ended, rfl⟩
  | none =>
    -- a signal that is not there at once comes later
    have hspared : (resolver.fetch request clients).IsSpared other.signal resolver.store.now := by
      intro wait hwait
      refine Duration.lt_wake (Nat.pos_of_ne_zero ?_)
      rintro rfl
      exact h.signal_ne hwait
    exact await_agrees h progress later true h.signal_eq hspared

/-- **One poll** of calls that agree leaves the same resolver, and they still agree, if the signal
is still to come while they wait. -/
theorem poll_agrees (h : request.Agrees translate resolver.config other)
    (hcalls : call.Agrees translate request other twin)
    (hspared : ∀ fetch, call.progress = .fetching fetch →
      fetch.IsSpared other.signal resolver.store.now) (clients : Clients) :
    (resolver.poll twin clients).1 = (resolver.poll call clients).1 ∧
      (resolver.poll call clients).2.Agrees translate request other
        (resolver.poll twin clients).2 := by
  obtain ⟨_, progress, hasAsked⟩ := call
  obtain ⟨_, later, _⟩ := twin
  obtain ⟨rfl, rfl, hprogress, rfl⟩ := hcalls
  dsimp only at hprogress
  cases hprogress with
  | @pending start =>
    simp only [poll]
    split
    next hstart => exact begin_agrees h _ _ _ clients
    next => exact ⟨rfl, rfl, rfl, .pending, rfl⟩
  | @fetching fetch hnone => exact await_agrees h _ _ _ hnone (hspared fetch rfl)
  | ended => exact ⟨rfl, rfl, rfl, .ended, rfl⟩

end Resolver

/-- Calls that agree can go on at the same times, if the signal is still to come while they wait. -/
theorem Call.Agrees.isDue_eq {translate : Outcome → Outcome} {request other : Request}
    {call twin : Call} {now : Nat} (h : call.Agrees translate request other twin)
    (hspared : ∀ fetch, call.progress = .fetching fetch → fetch.IsSpared other.signal now) :
    twin.isDue now = call.isDue now := by
  obtain ⟨_, progress, hasAsked⟩ := call
  obtain ⟨_, otherProgress, otherAsked⟩ := twin
  have hprogress := h.progress
  dsimp only at hprogress
  cases hprogress with
  | pending => rfl
  | @fetching fetch hnone =>
    refine decide_eq_decide.2 ?_
    rw [← Fetch.result?_isSome_iff, ← Fetch.result?_isSome_iff,
      Fetch.result?_withSignal hnone (hspared fetch rfl)]
  | ended => rfl

namespace Session

variable {session twins : Session} {events : List Event} {position : Nat}

/-! ## Twins in timely runs -/

namespace Twins

variable {related : Call → Call → Prop}

/-- The twins can go on now or not, both of them. -/
def SameDue (related : Call → Call → Prop) (position : Nat) (session : Session) : Prop :=
  ∀ call twin, session.calls[position]? = some call → related call twin →
    twin.isDue session.resolver.store.now = call.isDue session.resolver.store.now

theorem due?_eq (h : Twins related position session twins)
    (hdue : SameDue related position session) : twins.due? = session.due? := by
  have hmap : twins.calls.map (·.isDue session.resolver.store.now) =
      session.calls.map (·.isDue session.resolver.store.now) := h.map_calls_eq hdue
  have hfind := congrArg (List.findIdx? id) hmap
  rw [List.findIdx?_map, List.findIdx?_map] at hfind
  rw [due?, h.resolver_eq]
  exact hfind

theorem isIdle_iff (h : Twins related position session twins)
    (hdue : SameDue related position session) : twins.IsIdle ↔ session.IsIdle := by
  have heq := h.due?_eq hdue
  have hresolver := h.resolver_eq
  exact ⟨fun hidle => ⟨heq ▸ hidle.calls, hresolver ▸ hidle.sweeper⟩,
    fun hidle => ⟨heq.trans hidle.calls, hresolver.symm ▸ hidle.sweeper⟩⟩

theorem admits_iff (h : Twins related position session twins)
    (hdue : SameDue related position session) (event : Event) :
    twins.Admits event ↔ session.Admits event := by
  have heq := h.due?_eq hdue
  have hidle := h.isIdle_iff hdue
  cases event with
  | poll polled clients => exact iff_of_eq (congrArg (· = some polled) heq)
  | call request start => exact iff_of_eq (congrArg (·.store.IsSettled) h.resolver_eq)
  | act action =>
    cases action with
    | tick => exact iff_of_eq (congrArg (· = none) heq)
    | elapse duration => exact imp_congr_right fun _ => hidle
    | insert | remove | clear | sweep | spawn | stop => exact hidle

/-- Of two runs that differ in nothing but the twins one is timely if the other is. -/
theorem isTimely_iff (h : Twins related position session twins)
    (hkeeps : ∀ before after, events = before ++ after →
      Keeps related position (session.run before) ∧ SameDue related position (session.run before)) :
    twins.IsTimely events ↔ session.IsTimely events := by
  induction events generalizing session twins with
  | nil => exact h.isIdle_iff (hkeeps [] [] rfl).2
  | cons event events ih =>
    obtain ⟨hstep, hdue⟩ := hkeeps [] _ rfl
    refine and_congr (h.admits_iff hdue event) (ih (h.step hstep event) ?_)
    rintro before after rfl
    exact hkeeps (event :: before) after rfl

end Twins

/-! ## Calls that agree -/

/-- The signal to give up on the call at the position, if it comes at all, comes some time after the
call has begun, and when it comes the call does not wait for its fetch any longer. -/
structure ComesLate (signal : Option Nat) (position : Nat) (start : Session)
    (events : List Event) : Prop where
  ne_zero : signal ≠ some 0
  spared : ∀ before after call fetch, events = before ++ after →
    (start.run before).calls[position]? = some call → call.progress = .fetching fetch →
      fetch.IsSpared signal (start.run before).resolver.store.now

/-- The call at the position has ended. -/
def HasEnded (position time : Nat) (outcome : Outcome) (session : Session) : Prop :=
  ∃ call, session.calls[position]? = some call ∧ call.progress = .ended time outcome

/-- The same events do the same to both sessions: at the end of the run the resolver is the same,
with its cache and its clock, and so are the calls except for those at the position, and the counts
of questions to clients. The call at the position has ended in both at the same instant, or in none,
and the outcome in the other session stands for that in the first. Nothing is put off in one of the
runs if nothing is in the other. -/
structure Concurs (translate : Outcome → Outcome) (position : Nat) (session other : Session)
    (events : List Event) : Prop where
  resolver_eq : (other.run events).resolver = (session.run events).resolver
  without_eq : (other.run events).without position = (session.run events).without position
  askedCount_eq : ∀ client, (other.run events).askedCount client =
    (session.run events).askedCount client
  hasEnded_iff : ∀ time outcome, HasEnded position time outcome (session.run events) ↔
    ∃ result, HasEnded position time result (other.run events) ∧ translate result = outcome
  isTimely_iff : other.IsTimely events ↔ session.IsTimely events

section Agreeing

variable {translate : Outcome → Outcome} {request other : Request}

/-- Calls that agree have ended at the same time, or not at all. -/
theorem Twins.hasEnded_iff {time : Nat} {outcome : Outcome}
    (h : Twins (Call.Agrees translate request other) position session twins) :
    HasEnded position time outcome session ↔
      ∃ result, HasEnded position time result twins ∧ translate result = outcome := by
  obtain ⟨call, twin, hcall, htwin, -, -, hprogress, -⟩ := h.calls
  constructor
  · rintro ⟨ended, hended, hended'⟩
    obtain rfl := Option.some.inj (hcall.symm.trans hended)
    rw [hended'] at hprogress
    generalize hother : twin.progress = progress at hprogress
    cases hprogress with
    | ended => exact ⟨_, ⟨twin, htwin, hother⟩, rfl⟩
  · rintro ⟨result, ⟨ended, hended, hended'⟩, rfl⟩
    obtain rfl := Option.some.inj (htwin.symm.trans hended)
    rw [hended'] at hprogress
    generalize hfirst : call.progress = progress at hprogress
    cases hprogress with
    | ended => exact ⟨call, hcall, hfirst⟩

/-- Calls that agree count the same questions. -/
theorem Twins.askedCount_eq (h : Twins (Call.Agrees translate request other) position session twins)
    (hurl : other.url = request.url) (client : Option Nat) :
    twins.askedCount client = session.askedCount client := by
  have hmap : twins.calls.map (fun call => (call.hasAsked, call.request.url)) =
      session.calls.map (fun call => (call.hasAsked, call.request.url)) := by
    refine h.map_calls_eq fun call twin _ hcalls => Prod.ext hcalls.hasAsked_eq ?_
    rw [hcalls.request_eq, hcalls.other_eq]
    exact hurl
  -- the count goes by no more of the calls than that
  have hcount := congrArg (List.countP fun asked : Bool × String => asked.1 &&
    session.resolver.dispatcher.position? asked.2 == client) hmap
  rw [List.countP_map, List.countP_map] at hcount
  rw [askedCount, h.resolver_eq]
  exact hcount

/-- New calls for requests that agree have the same course. -/
theorem concurs_of_agrees (session : Session) (start : Nat)
    (h : request.Agrees translate session.resolver.config other)
    (hlate : ComesLate other.signal session.calls.length (session.call request start) events) :
    Concurs translate session.calls.length (session.call request start)
      (session.call other start) events := by
  have htwins : Twins (Call.Agrees translate request other) session.calls.length
      (session.call request start) (session.call other start) := by
    refine ⟨?_, _, _, List.getElem?_concat_length, List.getElem?_concat_length,
      rfl, rfl, .pending, rfl⟩
    rw [session.without_call, session.without_call]
  -- all along the run the configuration, and so the time limit, is the one of the first session
  have hkeeps (before after : List Event) (hevents : events = before ++ after) :
      Twins.Keeps (Call.Agrees translate request other) session.calls.length
          ((session.call request start).run before) ∧
        Twins.SameDue (Call.Agrees translate request other) session.calls.length
          ((session.call request start).run before) := by
    have hagrees : request.Agrees translate
        ((session.call request start).run before).resolver.config other := by
      rw [(frame_run _ before).1]
      exact h
    constructor
    · intro call twin clients hcall hcalls
      exact Resolver.poll_agrees hagrees hcalls
        (fun fetch => hlate.spared before after call fetch hevents hcall) clients
    · intro call twin hcall hcalls
      exact hcalls.isDue_eq fun fetch => hlate.spared before after call fetch hevents hcall
  have hlast := htwins.run fun before after hevents => (hkeeps before after hevents).1
  exact ⟨hlast.resolver_eq, hlast.without_eq, hlast.askedCount_eq h.url_eq,
    fun time outcome => hlast.hasEnded_iff, htwins.isTimely_iff hkeeps⟩

end Agreeing

/-- **The ways to ask for the latest tag agree**, on any session and in any run on from it. -/
theorem entry_points_agree (session : Session) (url : String) (options : Options) (start : Nat)
    (events : List Event) :
    let position := session.calls.length
    let plain := session.call ⟨url, .latest options⟩ start
    Concurs (Request.latestOf options) position plain
      (session.call ⟨url, .allTags⟩ start) events ∧
    (∀ timeout, session.resolver.config.fetchTimeout = some timeout →
      Concurs id position plain
        (session.call ⟨url, .latestWithin options timeout⟩ start) events) ∧
    ∀ signal, ComesLate signal position plain events →
      Concurs id position plain
        (session.call ⟨url, .latestUnless options signal⟩ start) events := by
  intro position plain
  have hnever : ComesLate none position plain events :=
    ⟨by simp, fun _ _ _ _ _ _ _ wait hwait => absurd hwait (by simp)⟩
  refine ⟨?_, ?_, ?_⟩
  · exact concurs_of_agrees session start
      ⟨rfl, rfl, rfl, by simp [Request.signal], fun tags => rfl, fun error => rfl⟩ hnever
  · intro timeout htimeout
    exact concurs_of_agrees session start
      ⟨rfl, htimeout.symm, rfl, by simp [Request.signal], fun tags => rfl, fun error => rfl⟩ hnever
  · intro signal hlate
    exact concurs_of_agrees session start
      ⟨rfl, rfl, rfl, hlate.ne_zero, fun tags => rfl, fun error => rfl⟩ hlate

/-- A new session with a call. -/
def asking (query : Query) : Session := (new {} docker).call ⟨"nginx", query⟩ 0

/-- The call waits for a second, and a minute passes after that. -/
def waiting : List Event :=
  [.poll 0 fun _ _ => ⟨Duration.ofSeconds 1, .ok [⟨"1.27.0", "", ⟨0, 0⟩⟩]⟩,
    .act (.elapse (Duration.ofSeconds 1)), .poll 0 fun _ _ => ⟨0, .ok []⟩,
    .act (.elapse (Duration.ofSeconds 60))]

theorem comesLate_waiting :
    ComesLate (some (Duration.ofSeconds 10)) 0 (asking (.latest {})) waiting := by
  refine ⟨by decide, ?_⟩
  rintro before after call fetch hevents hcall hfetching wait ⟨⟩
  have hprefix : before ∈ waiting.inits := (List.mem_inits _ _).2 ⟨after, hevents.symm⟩
  simp only [waiting, List.inits, List.map_cons, List.map_nil, List.mem_cons, List.not_mem_nil,
    or_false] at hprefix
  -- the call waits from the first event up to the third
  rcases hprefix with rfl | rfl | rfl | rfl | rfl <;> cases hcall <;> cases hfetching <;> decide

theorem entry_points_agree_of_waiting :
    (asking (.latest {})).IsTimely waiting ∧
    HasEnded 0 (Duration.ofSeconds 1) (.ok (.latest ⟨"1.27.0", "", ⟨0, 0⟩⟩))
      ((asking (.latest {})).run waiting) ∧
    Concurs (Request.latestOf {}) 0 (asking (.latest {})) (asking .allTags) waiting ∧
    Concurs id 0 (asking (.latest {})) (asking (.latestWithin {} (Duration.ofSeconds 30))) waiting ∧
    Concurs id 0 (asking (.latest {})) (asking (.latestUnless {} (some (Duration.ofSeconds 10))))
      waiting := by
  obtain ⟨hall, hwithin, hunless⟩ := entry_points_agree (new {} docker) "nginx" {} 0 waiting
  exact ⟨by decide, ⟨_, rfl, rfl⟩, hall, hwithin _ rfl, hunless _ comesLate_waiting⟩

end Session

end LatestTag
