import LatestTag.Proofs.OneImage
import LatestTag.Proofs.Timely

/-!
# Images do not interfere

What happens to one image is nobody's business but its own. Two runs may differ in whatever they do
about other images, which calls are made and how they fare, what is put into the cache and taken
out, how the work on them is mixed with the rest; if the same happens to one image, then

> `images_are_separate`: its calls end in the same way and at the same instants, the cache holds the
> same for it, and clients are asked for it as often.

That the same happens to the image can be meant in two ways. It is so if its calls and edits come at
the same instants, the passes of the sweeper too, and its calls are polled at the same instants, be
that in time or not (`Session.chronicleFor`). And it is so without a word about polls and passes if
none of them is put off (`Session.TimelyAlike`), as it is in simulations; then nothing that is done
about other images makes a call of this one later or earlier.
-/

namespace LatestTag

namespace Session

variable {session start start' : Session} {event other : Event} {events events' : List Event}
  {url : String} {time later : Nat}

/-! ## Waits add up -/

/-- The event lets time pass. -/
def Event.isWait : Event → Bool
  | .act (.elapse _) => true
  | .act _ | .call _ _ | .poll _ _ => false

theorem Event.exists_of_isWait (h : event.isWait = true) :
    ∃ duration, event = .act (.elapse duration) := by
  cases event with
  | act action =>
    cases action with
    | elapse duration => exact ⟨duration, rfl⟩
    | insert | remove | clear | sweep | tick | spawn | stop => exact absurd h (by simp [isWait])
  | call | poll => exact absurd h (by simp [isWait])

/-- All that happens in a run but for the passing of time. -/
def chronicle (start : Session) (events : List Event) : List (Nat × Event) :=
  start.stamped (fun _ event => !event.isWait) events

/-- What comes of a run: the session in the end, and the questions with what clients do about
them. -/
def outcome (start : Session) (events : List Event) : Session × List (Question × Behaviour) :=
  (start.run events, start.exchanges events)

theorem outcome_cons (start : Session) (event : Event) (events : List Event) :
    start.outcome (event :: events) = (((start.step event).outcome events).1,
      (start.exchange? event).toList ++ ((start.step event).outcome events).2) :=
  rfl

theorem step_elapse_zero (session : Session) : session.step (.act (.elapse 0)) = session :=
  rfl

/-- The events from one instant to another, with a single wait before each of them. -/
def schedule (now last : Nat) : List (Nat × Event) → List Event
  | [] => [.act (.elapse (last - now))]
  | (time, event) :: entries =>
    .act (.elapse (time - now)) :: event :: schedule time last entries

theorem now_le_stamped (kind : Session → Event → Bool) (start : Session) (events : List Event) :
    ∀ entry ∈ (start.stamped kind events).head?, start.resolver.store.now ≤ entry.1 := by
  induction events generalizing start with
  | nil => exact fun entry hentry => absurd hentry (by simp [stamped])
  | cons event events ih =>
    intro entry hentry
    rw [stamped] at hentry
    by_cases hkind : kind start event = true
    · rw [if_pos hkind] at hentry
      obtain rfl := Option.some.inj hentry
      exact Nat.le_refl _
    · rw [if_neg hkind] at hentry
      exact Nat.le_trans (frame_step start event).2.2.2 (ih _ entry hentry)

/-- A wait before other ones is a part of the first of these. -/
theorem outcome_moveTo {entries : List (Nat × Event)} {last : Nat}
    (hle : start.resolver.store.now ≤ time) (hlast : time ≤ last)
    (hentries : ∀ entry ∈ entries.head?, time ≤ entry.1) :
    (start.moveTo time).outcome (schedule time last entries) =
      start.outcome (schedule start.resolver.store.now last entries) := by
  have hwait (later : Nat) (hlater : time ≤ later) :
      (start.moveTo time).step (.act (.elapse (later - time))) =
        start.step (.act (.elapse (later - start.resolver.store.now))) := by
    have hnow : (start.moveTo time).resolver.store.now = time := Nat.max_eq_right hle
    rw [step_elapse, step_elapse, hnow, Nat.add_sub_cancel' hlater,
      Nat.add_sub_cancel' (Nat.le_trans hle hlater), moveTo_moveTo start hlater]
  cases entries with
  | nil => exact congrArg (·, []) (hwait last hlast)
  | cons entry entries =>
    have hstep := hwait entry.1 (hentries entry rfl)
    exact congrArg (outcome · (entry.2 :: schedule entry.1 last entries)) hstep

/-- **A run** is what its chronicle makes of it. -/
theorem outcome_eq_schedule (start : Session) (events : List Event) :
    start.outcome events = start.outcome (schedule start.resolver.store.now
      (start.run events).resolver.store.now (start.chronicle events)) := by
  induction events generalizing start with
  | nil =>
    show start.outcome [] = start.outcome [.act (.elapse (_ - start.resolver.store.now))]
    rw [outcome_cons, run, List.foldl_nil, Nat.sub_self]
    rfl
  | cons event events ih =>
    have hrest := ih (start.step event)
    have hlast := (frame_run (start.step event) events).2.2.2
    have hrun : (start.step event).run events = start.run (event :: events) := rfl
    by_cases hwait : event.isWait = true
    · -- the wait is a part of the next one
      have hchronicle : start.chronicle (event :: events) =
          (start.step event).chronicle events :=
        if_neg (by simpa using hwait)
      have hentries := now_le_stamped (fun _ event => !event.isWait) (start.step event) events
      obtain ⟨duration, rfl⟩ := Event.exists_of_isWait hwait
      have hnow : (start.step (.act (.elapse duration))).resolver.store.now =
          start.resolver.store.now + duration := rfl
      rw [hnow] at hrest hlast hentries
      show (start.step (.act (.elapse duration))).outcome events = _
      rw [hrest, ← hrun, hchronicle, step_elapse]
      rw [step_elapse] at hlast hentries
      exact outcome_moveTo (Nat.le_add_right _ _) hlast hentries
    · -- the event comes without a wait
      have hchronicle : start.chronicle (event :: events) =
          (start.resolver.store.now, event) :: (start.step event).chronicle events :=
        if_pos (by simpa using hwait)
      have hnow : (start.step event).resolver.store.now = start.resolver.store.now :=
        now_step_of_ne fun duration heq => hwait (by rw [heq]; rfl)
      have hnone := start.step_elapse_zero
      rw [hnow, hrun] at hrest
      rw [hchronicle, schedule, Nat.sub_self, outcome_cons, outcome_cons, hnone, outcome_cons, hrest]
      rfl

/-- What happens in two runs of a session makes the same of it if it comes at the same instants. -/
theorem outcome_eq_of_chronicle_eq (hchronicle : start.chronicle events = start.chronicle events')
    (hclock : (start.run events).resolver.store.now = (start.run events').resolver.store.now) :
    start.outcome events = start.outcome events' := by
  rw [outcome_eq_schedule start events, outcome_eq_schedule start events', hchronicle, hclock]

/-! ## What happens to an image -/

/-- The event is a call about the image, an edit that concerns it, or a part of the work that goes
on by itself. -/
def Event.concerns (url : String) : Event → Bool
  | .act action => action.concerns url
  | .call request _ => request.url == url
  | .poll _ _ => false

/-- What comes for the image from outside in a run. -/
def inputsFor (url : String) (start : Session) (events : List Event) : List (Nat × Event) :=
  start.stamped (fun session event => (session.only url).isInput event && event.concerns url) events

/-- All that happens to the image in a run. -/
def chronicleFor (url : String) (start : Session) (events : List Event) : List (Nat × Event) :=
  (start.only url).chronicle (start.about url events)

/-- Nothing is put off for the image in the run. -/
def IsTimelyFor (url : String) (start : Session) (events : List Event) : Prop :=
  (start.only url).IsTimely (start.about url events)

/-- Nothing is put off for the image in the runs, the same comes for it from outside, jumps of the
clock included, and there is one sequence of behaviours that clients show to those who ask for
it. -/
structure TimelyAlike (url : String) (start : Session) (events : List Event) (start' : Session)
    (events' : List Event) : Prop where
  timely : start.IsTimelyFor url events
  timely' : start'.IsTimelyFor url events'
  inputs_eq : start.inputsFor url events = start'.inputsFor url events'
  exists_script : ∃ script,
    start.answersFor url events <+: script ∧ start'.answersFor url events' <+: script

theorem about?_of_isInput (h : (session.only url).isInput event = true) :
    session.about? url event = if event.concerns url then some event else none := by
  cases event with
  | act action => rfl
  | call request begins => rfl
  | poll position clients => exact absurd h (by simp [isInput])

theorem isInput_of_about? (h : session.about? url event = some other) :
    (session.only url).isInput other = (session.only url).isInput event := by
  cases event with
  | act action =>
    obtain ⟨-, rfl⟩ := about?_act_eq_some_iff.1 h
    rfl
  | call request begins =>
    obtain ⟨-, rfl⟩ := about?_call_eq_some_iff.1 h
    rfl
  | poll position clients =>
    obtain ⟨call, -, -, -, rfl⟩ := about?_poll_eq_some_iff.1 h
    rfl

/-- What comes for the image is what comes from outside in what the run has for it. -/
theorem inputsFor_eq (start : Session) (events : List Event) (url : String) :
    start.inputsFor url events = (start.only url).inputs (start.about url events) := by
  induction events generalizing start with
  | nil => rfl
  | cons event events ih =>
    have hrest : (start.step event).stamped
        (fun session event => (session.only url).isInput event && event.concerns url) events = _ :=
      ih (start.step event)
    rw [inputsFor, stamped, hrest, about]
    by_cases hinput : (start.only url).isInput event = true
    · have habout : start.about? url event = if event.concerns url then some event else none :=
        about?_of_isInput hinput
      rw [habout]
      by_cases hconcerns : event.concerns url = true
      · rw [if_pos hconcerns] at habout ⊢
        rw [step_only habout, if_pos (by simp [hinput, hconcerns])]
        exact (if_pos hinput).symm
      · rw [if_neg hconcerns] at habout ⊢
        rw [step_only_of_none habout, if_neg (by simp [hconcerns])]
        rfl
    · rw [if_neg (by simp [hinput])]
      cases h : start.about? url event with
      | none =>
        rw [step_only_of_none h]
        rfl
      | some other =>
        have hother : ¬ (start.only url).isInput other = true := by rwa [isInput_of_about? h]
        rw [step_only h]
        exact (if_neg hother).symm

/-- **Images are separate.** Of two sessions that have the same for an image, each goes through a
run, up to the same instant. If the same happens to the image in both runs, its calls have come
equally far and have ended with the same results at the same instants, its entry is the same one,
and as many questions about it were put; whatever else happens in either of the runs. -/
theorem images_are_separate (hstart : start.only url = start'.only url)
    (hclock : (start.run events).resolver.store.now = (start'.run events').resolver.store.now)
    (hsame : start.chronicleFor url events = start'.chronicleFor url events' ∨
      TimelyAlike url start events start' events') :
    (start.run events).calls.filter (·.request.url == url) =
        (start'.run events').calls.filter (·.request.url == url) ∧
      (start.run events).resolver.store.cache.find? url =
        (start'.run events').resolver.store.cache.find? url ∧
      (start.questions events).countP (·.url == url) =
        (start'.questions events').countP (·.url == url) := by
  have hrun := run_only start events url
  have hrun' := run_only start' events' url
  have hnow : ((start.only url).run (start.about url events)).resolver.store.now =
      ((start.only url).run (start'.about url events')).resolver.store.now := by
    rw [← hrun, hstart, ← hrun']
    exact hclock
  have hoc : (start.run events).only url = (start'.run events').only url ∧
      start.answersFor url events = start'.answersFor url events' := by
    rw [hrun, hrun', answersFor_eq, answersFor_eq, ← hstart]
    rcases hsame with hchronicle | hlike
    · rw [chronicleFor, chronicleFor, ← hstart] at hchronicle
      have houtcome := outcome_eq_of_chronicle_eq hchronicle hnow
      exact ⟨congrArg Prod.fst houtcome, congrArg (·.2.map (·.2)) houtcome⟩
    · obtain ⟨script, hanswers, hanswers'⟩ := hlike.exists_script
      have hinputs := hlike.inputs_eq
      have htimely' := hlike.timely'
      rw [answersFor_eq] at hanswers hanswers'
      rw [inputsFor_eq, inputsFor_eq, ← hstart] at hinputs
      rw [IsTimelyFor, ← hstart] at htimely'
      rw [← hstart] at hanswers'
      exact run_eq_of_isTimely hlike.timely htimely' hinputs hanswers hanswers' hnow
  obtain ⟨honly, hanswers⟩ := hoc
  refine ⟨congrArg Session.calls honly, ?_, ?_⟩
  · rw [← Cache.find?_only, ← Cache.find?_only (start'.run events').resolver.store.cache]
    exact congrArg (·.resolver.store.cache.find? url) honly
  · rw [countP_questions, countP_questions, hanswers]

/-- A session in which the sweeper comes every millisecond, and entries are fresh for two. -/
def brief : Session := .new ⟨2000000, none⟩ (.ofFallback ⟨"docker", fun _ => true⟩)

/-- The client takes two milliseconds for one image and ten seconds for all others. -/
def uneven : Clients := fun _ url =>
  if url = "nginx" then ⟨2000000, .ok [⟨"1.25.0", "", ⟨0, 0⟩⟩]⟩ else ⟨10000000000, .ok []⟩

/-- An image is asked for twice, the second time when its tags have just come. -/
def calm : List Event :=
  [.call ⟨"nginx", .latest {}⟩ 0, .poll 0 uneven, .act (.elapse 1000000), .act .tick,
    .act (.elapse 1000000), .poll 0 uneven, .act .tick, .call ⟨"nginx", .allTags⟩ 2000000,
    .poll 1 uneven, .act (.elapse 1000000), .act .tick]

/-- The same, while two calls about another image are under way, of which one runs out of time and
the other one waits on, and the entry of that image comes and goes. -/
def busy : List Event :=
  [.call ⟨"redis", .latestWithin {} 1500000⟩ 0, .poll 0 uneven, .call ⟨"nginx", .latest {}⟩ 0,
    .call ⟨"redis", .allTags⟩ 0, .poll 2 uneven, .poll 1 uneven, .act (.insert "redis" []),
    .act (.elapse 1000000), .act (.remove "redis"), .act .tick, .act (.elapse 1000000),
    .poll 0 uneven, .poll 1 uneven, .act .tick, .call ⟨"nginx", .allTags⟩ 2000000, .poll 3 uneven,
    .act (.insert "redis" []), .act (.elapse 1000000), .poll 2 uneven, .act .tick]

/-- Both calls get the tags at the same instant in both runs, and one question is put. -/
theorem images_are_separate_of_busy_neighbour :
    TimelyAlike "nginx" brief busy brief calm ∧
      ((brief.run busy).calls.filter (·.request.url == "nginx") =
          (brief.run calm).calls.filter (·.request.url == "nginx") ∧
        (brief.run busy).resolver.store.cache.find? "nginx" =
          (brief.run calm).resolver.store.cache.find? "nginx" ∧
        (brief.questions busy).countP (·.url == "nginx") =
          (brief.questions calm).countP (·.url == "nginx")) ∧
      (brief.run busy).calls.map (·.outcome?.isSome) = [true, true, false, true] ∧
      (brief.run calm).resolver.store.cache.find? "nginx" =
        some ⟨2000000, [⟨"1.25.0", "", ⟨0, 0⟩⟩]⟩ ∧
      (brief.questions calm).countP (·.url == "nginx") = 1 := by
  have halike : TimelyAlike "nginx" brief busy brief calm :=
    ⟨by unfold IsTimelyFor; decide, by unfold IsTimelyFor; decide, rfl,
      [⟨2000000, .ok [⟨"1.25.0", "", ⟨0, 0⟩⟩]⟩], ⟨[], rfl⟩, ⟨[], rfl⟩⟩
  exact ⟨halike, images_are_separate rfl rfl (Or.inr halike), by decide, by decide, by decide⟩

end Session

end LatestTag
