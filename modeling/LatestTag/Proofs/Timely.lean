import LatestTag.Proofs.Alike
import LatestTag.Proofs.Lifetime
import LatestTag.Proofs.Questions

/-!
# What a timely run depends on

A run is timely if nothing is put off in it (`Session.IsTimely`): whatever can go on at an instant
does so before time passes. The calls go first, each in its turn, then the sweeper, and then
whatever else comes from outside; only new calls may come while others can go on.

In such a run there is nothing to choose but what comes from outside, which is calls, edits and
jumps of the clock at some instants (`Session.inputs`) and what clients answer to the questions that
are put to them, one after the other (`Session.answers`):

> `run_eq_of_isTimely`: timely runs of one session with the same inputs, up to the same instant, are
> the same if there is one sequence of behaviours that both hear.

How waits are divided does not matter, nor whether a new call comes before or behind others that go
on at that instant. So `Session.Course` says what a timely session does in a world of inputs and
behaviours, and each of its rules, if it can be used at all, is one that any other course of the
same session in that world may as well have begun with.
-/

namespace LatestTag

namespace Session

variable {session last last' start : Session} {event : Event} {events events' : List Event}
  {position time later : Nat} {clients clients' : Clients} {request : Request}

/-! ## Runs in which nothing is put off -/

/-- The position of the first call that can go on now. -/
def due? (session : Session) : Option Nat :=
  session.calls.findIdx? (·.isDue session.resolver.store.now)

/-- There is nothing to do now: no call can go on, and the sweeper has made all passes. -/
structure IsIdle (session : Session) : Prop where
  calls : session.due? = none
  sweeper : session.resolver.store.IsSettled

/-- There is nothing to do now, and nothing before the time, which is a whole millisecond. -/
structure CanWait (session : Session) (time : Nat) : Prop extends IsIdle session where
  whole : Duration.millisecond ∣ time
  le_wake : ∀ call ∈ session.calls, ∀ wake ∈ call.wake?, time ≤ wake
  le_fire : ∀ sweeper ∈ session.resolver.store.live?,
    time ≤ Duration.fire session.resolver.store.now sweeper.deadline

/-- The session at a later time. -/
def moveTo (session : Session) (time : Nat) : Session :=
  session.withStore (session.resolver.store.moveTo time)

/-- Nothing is put off by the event. -/
def Admits (session : Session) : Event → Prop
  | .poll position _ => session.due? = some position
  | .call _ _ => session.resolver.store.IsSettled
  | .act .tick => session.due? = none
  | .act (.elapse duration) => 0 < duration → session.IsIdle
  | .act _ => session.IsIdle

/-- Nothing is put off in the run, and at its end there is nothing to do. -/
def IsTimely (start : Session) : List Event → Prop
  | [] => start.IsIdle
  | event :: events => start.Admits event ∧ IsTimely (start.step event) events

instance (session : Session) : Decidable session.IsIdle :=
  decidable_of_iff (session.due? = none ∧ session.resolver.store.IsSettled)
    ⟨fun h => ⟨h.1, h.2⟩, fun h => ⟨h.calls, h.sweeper⟩⟩

instance (session : Session) (time : Nat) : Decidable (session.CanWait time) :=
  decidable_of_iff (session.IsIdle ∧ Duration.millisecond ∣ time ∧
      (∀ call ∈ session.calls, ∀ wake ∈ call.wake?, time ≤ wake) ∧
      ∀ sweeper ∈ session.resolver.store.live?,
        time ≤ Duration.fire session.resolver.store.now sweeper.deadline)
    ⟨fun h => ⟨h.1, h.2.1, h.2.2.1, h.2.2.2⟩, fun h => ⟨h.toIsIdle, h.whole, h.le_wake, h.le_fire⟩⟩

instance (session : Session) : (event : Event) → Decidable (session.Admits event)
  | .poll position _ => inferInstanceAs (Decidable (session.due? = some position))
  | .call _ _ => inferInstanceAs (Decidable session.resolver.store.IsSettled)
  | .act .tick => inferInstanceAs (Decidable (session.due? = none))
  | .act (.elapse duration) => inferInstanceAs (Decidable (0 < duration → session.IsIdle))
  | .act (.insert _ _) | .act (.remove _) | .act .clear | .act (.sweep _) | .act (.spawn _)
  | .act .stop => inferInstanceAs (Decidable session.IsIdle)

instance IsTimely.decidable : (start : Session) → (events : List Event) →
    Decidable (start.IsTimely events)
  | start, [] => inferInstanceAs (Decidable start.IsIdle)
  | start, event :: events =>
    have : Decidable ((start.step event).IsTimely events) := decidable _ events
    inferInstanceAs (Decidable (start.Admits event ∧ (start.step event).IsTimely events))

/-- The event comes from outside: it is a call, an edit or a jump of the clock, and no part of the
work that goes on by itself while time passes. The clock jumps if it passes over something or stops
between whole milliseconds. -/
def isInput (session : Session) : Event → Bool
  | .poll _ _ | .act .tick => false
  | .act (.elapse duration) =>
    decide (0 < duration ∧ ¬ session.CanWait (session.resolver.store.now + duration))
  | .call _ _ | .act _ => true

/-- The events of a run that are of a kind, with their instants. -/
def stamped (kind : Session → Event → Bool) (start : Session) : List Event → List (Nat × Event)
  | [] => []
  | event :: events =>
    if kind start event then
      (start.resolver.store.now, event) :: stamped kind (start.step event) events
    else stamped kind (start.step event) events

/-- What comes from outside in a run. -/
def inputs (start : Session) (events : List Event) : List (Nat × Event) :=
  start.stamped isInput events

/-- What the client does that is asked at an event. -/
def answer? (session : Session) (event : Event) : Option Behaviour :=
  (session.exchange? event).map (·.2)

theorem answers_cons (start : Session) (event : Event) (events : List Event) :
    start.answers (event :: events) =
      (start.answer? event).toList ++ (start.step event).answers events := by
  rw [answers, exchanges, List.map_append, ← Option.toList_map]
  rfl

/-! ## Calls and waits -/

theorem step_elapse (session : Session) (duration : Nat) :
    session.step (.act (.elapse duration)) =
      session.moveTo (session.resolver.store.now + duration) :=
  congrArg session.withStore (session.resolver.store.step_elapse duration)

theorem moveTo_moveTo (session : Session) (hle : time ≤ later) :
    (session.moveTo time).moveTo later = session.moveTo later :=
  congrArg session.withStore (session.resolver.store.moveTo_moveTo hle)

theorem exists_of_due? (h : session.due? = some position) : ∃ call,
    session.calls[position]? = some call ∧ call.isDue session.resolver.store.now = true := by
  obtain ⟨hlt, hdue, -⟩ := List.findIdx?_eq_some_iff_getElem.1 h
  exact ⟨_, List.getElem?_eq_getElem hlt, hdue⟩

/-- A new call does not come before one that can go on. -/
theorem due?_call (h : session.due? = some position) (begins : Nat) :
    (session.call request begins).due? = some position := by
  show List.findIdx? _ (session.calls ++ _) = _
  rw [List.findIdx?_append]
  exact congrArg (Option.or · _) h

/-- A call that can go on does with a new one what it does without. -/
theorem poll_call (h : session.due? = some position) (begins : Nat) :
    (session.call request begins).poll position clients =
      (session.poll position clients).call request begins := by
  obtain ⟨call, hcall, -⟩ := exists_of_due? h
  have hlt := (List.getElem?_eq_some_iff.1 hcall).1
  have hlater : (session.call request begins).calls[position]? = some call :=
    (List.getElem?_append_left hlt).trans hcall
  rw [poll_eq clients hcall, poll_eq clients hlater]
  exact congrArg (Session.mk _) (List.set_append_left _ _ hlt)

theorem answer?_call (h : session.due? = some position) (begins : Nat) :
    (session.call request begins).answer? (.poll position clients) =
      session.answer? (.poll position clients) := by
  obtain ⟨call, hcall, -⟩ := exists_of_due? h
  have hlt := (List.getElem?_eq_some_iff.1 hcall).1
  have hlater : (session.call request begins).calls[position]? = session.calls[position]? :=
    List.getElem?_append_left hlt
  rw [answer?, answer?, exchange?, exchange?, question?, question?, hlater]
  rfl

/-- The sweeper does not notice polls. -/
theorem sweeper_poll (session : Session) (position : Nat) (clients : Clients) :
    (session.poll position clients).resolver.store.now = session.resolver.store.now ∧
      (session.poll position clients).resolver.store.live? = session.resolver.store.live? := by
  rcases session.poll_cases position clients with ⟨-, hpoll⟩ | ⟨_, _, _, -, hturn, hpoll⟩
  · rw [hpoll]
    exact ⟨rfl, rfl⟩
  · rw [hpoll]
    cases hturn <;> exact ⟨rfl, rfl⟩

theorem isSettled_poll (h : session.resolver.store.IsSettled) :
    (session.poll position clients).resolver.store.IsSettled := by
  obtain ⟨hnow, hlive⟩ := session.sweeper_poll position clients
  intro sweeper hsweeper
  rw [hlive] at hsweeper
  rw [hnow]
  exact h sweeper hsweeper

/-- Polls that hear the beginning of one sequence of behaviours hear the same of it. -/
theorem poll_eq_of_answer? {script script' : List Behaviour}
    (h : (session.answer? (.poll position clients)).toList ++ script =
      (session.answer? (.poll position clients')).toList ++ script') :
    session.poll position clients = session.poll position clients' ∧ script = script' := by
  rw [answer?, answer?, exchange?, exchange?] at h
  cases hquestion : session.question? position with
  | none =>
    rw [hquestion] at h
    refine ⟨poll_congr fun question hsome => ?_, h⟩
    exact absurd (hquestion.symm.trans hsome) (by simp)
  | some question =>
    rw [hquestion] at h
    obtain ⟨hanswer, hscript⟩ := List.cons.inj h
    refine ⟨poll_congr fun other hsome => ?_, hscript⟩
    obtain rfl := Option.some.inj (hquestion.symm.trans hsome)
    exact hanswer

/-- One may as well wait in two parts: before the second there is nothing to do, because the timer
of the sweeper fires at the first whole millisecond that is not before its deadline. -/
theorem CanWait.moveTo (h : session.CanWait time) (h' : session.CanWait later)
    (hlt : time < later) : (session.moveTo time).CanWait later := by
  have hnow : (session.moveTo time).resolver.store.now =
      max session.resolver.store.now time := rfl
  have hms : Duration.millisecond = 1000000 := rfl
  have hdeadline : ∀ sweeper ∈ session.resolver.store.live?, time < sweeper.deadline ∧
      later ≤ Duration.fire (max session.resolver.store.now time) sweeper.deadline := by
    intro sweeper hsweeper
    have hsettled := h.sweeper sweeper hsweeper
    have hfire := h'.le_fire sweeper hsweeper
    have hwhole := h.whole
    have hwhole' := h'.whole
    unfold Duration.fire Duration.toTick at *
    rw [hms] at *
    omega
  have hcalls : (session.moveTo time).due? = none := by
    show session.calls.findIdx? _ = none
    rw [List.findIdx?_eq_none_iff, hnow]
    intro call hcall
    have hidle := List.findIdx?_eq_none_iff.1 h.calls call hcall
    unfold Call.isDue at hidle ⊢
    cases hwake : call.wake? with
    | none => rfl
    | some wake =>
      rw [hwake] at hidle
      have hle := h'.le_wake call hcall wake hwake
      have hnot : ¬ wake ≤ session.resolver.store.now := of_decide_eq_false hidle
      exact decide_eq_false (by omega)
  have hsettled : (session.moveTo time).resolver.store.IsSettled := by
    intro sweeper hsweeper
    have hbefore := h.sweeper sweeper hsweeper
    have hlater := (hdeadline sweeper hsweeper).1
    rw [hnow]
    omega
  exact ⟨⟨hcalls, hsettled⟩, h'.whole, h'.le_wake, fun sweeper hsweeper =>
    (hdeadline sweeper hsweeper).2⟩

/-! ## Courses -/

/-- What a timely session does until there is nothing to do in the end: the inputs that come, and of
a sequence of behaviours those that clients show on the way, with the ones that are left. -/
inductive Course : Session → List (Nat × Event) → List Behaviour → Session → List Behaviour → Prop
  /-- There is nothing to do. -/
  | done {session : Session} {script : List Behaviour} (hidle : session.IsIdle) :
      Course session [] script session script
  /-- A call goes on. -/
  | poll {session last : Session} {inputs : List (Nat × Event)} {script left : List Behaviour}
      {position : Nat} {clients : Clients} (hdue : session.due? = some position)
      (hrest : Course (session.poll position clients) inputs script last left) :
      Course session inputs ((session.answer? (.poll position clients)).toList ++ script) last left
  /-- A new call comes. -/
  | call {session last : Session} {inputs : List (Nat × Event)} {script left : List Behaviour}
      {request : Request} {begins : Nat} (hsettled : session.resolver.store.IsSettled)
      (hrest : Course (session.call request begins) inputs script last left) :
      Course session ((session.resolver.store.now, .call request begins) :: inputs) script last left
  /-- The sweeper makes a pass. -/
  | tick {session last : Session} {inputs : List (Nat × Event)} {script left : List Behaviour}
      (hcalls : session.due? = none) (hdue : ¬ session.resolver.store.IsSettled)
      (hrest : Course (session.step (.act .tick)) inputs script last left) :
      Course session inputs script last left
  /-- Something else comes from outside. -/
  | act {session last : Session} {inputs : List (Nat × Event)} {script left : List Behaviour}
      {action : TagStore.Action} (hidle : session.IsIdle)
      (hrest : Course (session.step (.act action)) inputs script last left) :
      Course session ((session.resolver.store.now, .act action) :: inputs) script last left
  /-- Time passes. -/
  | wait {session last : Session} {inputs : List (Nat × Event)} {script left : List Behaviour}
      {time : Nat} (hlt : session.resolver.store.now < time) (hwait : session.CanWait time)
      (hrest : Course (session.moveTo time) inputs script last left) :
      Course session inputs script last left

namespace Course

variable {inputs : List (Nat × Event)} {script script' left left' : List Behaviour} {begins : Nat}
  {action : TagStore.Action}

/-- The clock goes on. -/
theorem now_le (h : Course session inputs script last left) :
    session.resolver.store.now ≤ last.resolver.store.now := by
  induction h with
  | done => exact Nat.le_refl _
  | poll hdue hrest ih => exact Nat.le_trans (frame_step _ (.poll _ _)).2.2.2 ih
  | call hsettled hrest ih => exact ih
  | tick hcalls hdue hrest ih => exact Nat.le_trans TagStore.now_le_step ih
  | act hidle hrest ih => exact Nat.le_trans TagStore.now_le_step ih
  | wait hlt hwait hrest ih => exact Nat.le_trans (Nat.le_max_left _ _) ih

/-- What comes next does not come before now. -/
theorem now_le_input (h : Course session inputs script last left) :
    ∀ input ∈ inputs.head?, session.resolver.store.now ≤ input.1 := by
  induction h with
  | done => exact fun input hinput => absurd hinput (by simp)
  | poll hdue hrest ih =>
    exact fun input hinput => Nat.le_trans (frame_step _ (.poll _ _)).2.2.2 (ih input hinput)
  | call hsettled hrest ih =>
    rintro input ⟨⟩
    exact Nat.le_refl _
  | tick hcalls hdue hrest ih =>
    exact fun input hinput => Nat.le_trans TagStore.now_le_step (ih input hinput)
  | act hidle hrest ih =>
    rintro input ⟨⟩
    exact Nat.le_refl _
  | wait hlt hwait hrest ih =>
    exact fun input hinput => Nat.le_trans (Nat.le_max_left _ _) (ih input hinput)

/-- Any course may begin with the poll of a call that can go on. -/
theorem after_poll (hdue : session.due? = some position)
    (hscript : script = (session.answer? (.poll position clients)).toList ++ script')
    (h : Course session inputs script last left) :
    Course (session.poll position clients) inputs script' last left := by
  induction h generalizing script' with
  | done hidle => exact absurd (hdue.symm.trans hidle.calls) (by simp)
  | poll hother hrest =>
    obtain rfl := Option.some.inj (hdue.symm.trans hother)
    obtain ⟨hpoll, rfl⟩ := poll_eq_of_answer? hscript
    rwa [← hpoll]
  | @call session last inputs script left request begins hsettled hrest ih =>
    have hcourse := ih (due?_call hdue begins) (hscript.trans (by rw [answer?_call hdue]))
    rw [poll_call hdue] at hcourse
    rw [← (session.sweeper_poll position clients).1]
    exact .call (isSettled_poll hsettled) hcourse
  | tick hcalls => exact absurd (hdue.symm.trans hcalls) (by simp)
  | act hidle => exact absurd (hdue.symm.trans hidle.calls) (by simp)
  | wait hlt hwait => exact absurd (hdue.symm.trans hwait.calls) (by simp)

/-- Any course may begin with a new call that comes now. -/
theorem after_call (hsettled : session.resolver.store.IsSettled)
    (h : Course session ((session.resolver.store.now, .call request begins) :: inputs) script last
      left) : Course (session.call request begins) inputs script last left := by
  generalize hinputs : (session.resolver.store.now, Event.call request begins) :: inputs = all at h
  induction h with
  | done => exact absurd hinputs (by simp)
  | @poll session last all script left position clients hdue hrest ih =>
    obtain ⟨hnow, -⟩ := session.sweeper_poll position clients
    have hcourse := ih (isSettled_poll hsettled) (by rw [hnow]; exact hinputs)
    rw [← poll_call hdue] at hcourse
    rw [← answer?_call hdue begins]
    exact .poll (due?_call hdue begins) hcourse
  | call _ hrest =>
    obtain ⟨heq, rfl⟩ := List.cons.inj hinputs
    obtain ⟨-, heq⟩ := Prod.mk.inj heq
    obtain ⟨rfl, rfl⟩ := Event.call.inj heq
    exact hrest
  | tick hcalls hdue => exact absurd hsettled hdue
  | act => exact absurd hinputs (by simp)
  | @wait session last all script left time hlt hwait hrest =>
    -- the call would come too late
    subst hinputs
    have hle : max session.resolver.store.now time ≤ session.resolver.store.now :=
      hrest.now_le_input _ rfl
    omega

/-- An idle session can do nothing but let time pass before something comes that comes now. -/
theorem after_act (hidle : session.IsIdle)
    (h : Course session ((session.resolver.store.now, .act action) :: inputs) script last left) :
    Course (session.step (.act action)) inputs script last left := by
  cases h with
  | poll hdue => exact absurd (hdue.symm.trans hidle.calls) (by simp)
  | tick hcalls hdue => exact absurd hidle.sweeper hdue
  | act _ hrest => exact hrest
  | @wait _ _ _ _ _ time hlt hwait hrest =>
    have hle : max session.resolver.store.now time ≤ session.resolver.store.now :=
      hrest.now_le_input _ rfl
    omega

theorem after_tick (hcalls : session.due? = none) (hdue : ¬ session.resolver.store.IsSettled)
    (h : Course session inputs script last left) :
    Course (session.step (.act .tick)) inputs script last left := by
  cases h with
  | done hidle => exact absurd hidle.sweeper hdue
  | poll hsome => exact absurd (hsome.symm.trans hcalls) (by simp)
  | call hsettled => exact absurd hsettled hdue
  | tick _ _ hrest => exact hrest
  | act hidle => exact absurd hidle.sweeper hdue
  | wait _ hwait => exact absurd hwait.sweeper hdue

/-- Any course may begin with a wait, if nothing comes and the course does not end before. -/
theorem after_wait (hlt : session.resolver.store.now < time) (hwait : session.CanWait time)
    (hinputs : ∀ input ∈ inputs.head?, time ≤ input.1) (hlast : time ≤ last.resolver.store.now)
    (h : Course session inputs script last left) :
    Course (session.moveTo time) inputs script last left := by
  induction h with
  | done => exact absurd hlast (Nat.not_le_of_lt hlt)
  | poll hdue => exact absurd (hdue.symm.trans hwait.calls) (by simp)
  | call => exact absurd (hinputs _ rfl) (Nat.not_le_of_lt hlt)
  | tick hcalls hdue => exact absurd hwait.sweeper hdue
  | act => exact absurd (hinputs _ rfl) (Nat.not_le_of_lt hlt)
  | @wait session last inputs script left first hfirst hcan hrest ih =>
    have hnow : (session.moveTo first).resolver.store.now = first :=
      Nat.max_eq_right (Nat.le_of_lt hfirst)
    have hnow' : (session.moveTo time).resolver.store.now = time :=
      Nat.max_eq_right (Nat.le_of_lt hlt)
    rcases Nat.lt_trichotomy first time with hbefore | rfl | hbehind
    · have hcourse := ih (hnow.trans_lt hbefore) (hcan.moveTo hwait hbefore) hinputs hlast
      rwa [moveTo_moveTo session (Nat.le_of_lt hbefore)] at hcourse
    · exact hrest
    · rw [← moveTo_moveTo session (Nat.le_of_lt hbehind)] at hrest
      exact .wait (hnow'.trans_lt hbehind) (hwait.moveTo hcan hbehind) hrest

/-- **Courses** of one session in one world are the same, up to the same instant. -/
theorem deterministic (h : Course session inputs script last left)
    (h' : Course session inputs script last' left')
    (hclock : last.resolver.store.now = last'.resolver.store.now) : last = last' ∧ left = left' := by
  induction h with
  | done hidle =>
    cases h' with
    | done => exact ⟨rfl, rfl⟩
    | poll hdue => exact absurd (hdue.symm.trans hidle.calls) (by simp)
    | tick hcalls hdue => exact absurd hidle.sweeper hdue
    | @wait _ _ _ _ _ time hlt hwait hrest =>
      have hle : max _ time ≤ last'.resolver.store.now := hrest.now_le
      omega
  | poll hdue hrest ih => exact ih (h'.after_poll hdue rfl) hclock
  | call hsettled hrest ih => exact ih (h'.after_call hsettled) hclock
  | tick hcalls hdue hrest ih => exact ih (h'.after_tick hcalls hdue) hclock
  | act hidle hrest ih => exact ih (h'.after_act hidle) hclock
  | @wait session last inputs script left time hlt hwait hrest ih =>
    have hnow : (session.moveTo time).resolver.store.now = time :=
      Nat.max_eq_right (Nat.le_of_lt hlt)
    have hinputs := hrest.now_le_input
    have hlast := hrest.now_le
    rw [hnow] at hinputs hlast
    exact ih (h'.after_wait hlt hwait hinputs (hclock ▸ hlast)) hclock

end Course

/-! ## Timely runs -/

/-- A sweeper that has made all passes makes none. -/
theorem step_tick_of_isSettled (h : session.resolver.store.IsSettled) :
    session.step (.act .tick) = session := by
  have htick : session.resolver.store.tick = session.resolver.store := by
    unfold TagStore.tick
    cases hlive : session.resolver.store.live? with
    | none => rfl
    | some sweeper => exact if_neg (Nat.not_le_of_lt (h sweeper hlive))
  exact congrArg session.withStore htick

/-- A timely run is a course. -/
theorem IsTimely.course (h : start.IsTimely events) (left : List Behaviour) :
    Course start (start.inputs events) (start.answers events ++ left) (start.run events) left := by
  induction events generalizing start with
  | nil => exact .done h
  | cons event events ih =>
    have hrest := ih h.2
    cases event with
    | poll position clients =>
      rw [answers_cons, List.append_assoc]
      exact .poll h.1 hrest
    | call request begins => exact .call h.1 hrest
    | act action =>
      cases action with
      | tick =>
        show Course start ((start.step (.act .tick)).inputs events)
          ((start.step (.act .tick)).answers events ++ left) ((start.step (.act .tick)).run events) left
        by_cases hsettled : start.resolver.store.IsSettled
        · rw [step_tick_of_isSettled hsettled] at hrest ⊢
          exact hrest
        · exact .tick h.1 hsettled hrest
      | elapse duration =>
        rcases Nat.eq_zero_or_pos duration with rfl | hpos
        · exact hrest
        · by_cases hwait : start.CanWait (start.resolver.store.now + duration)
          · have hinputs : start.inputs (.act (.elapse duration) :: events) =
                (start.step (.act (.elapse duration))).inputs events :=
              if_neg (by simp [isInput, hwait])
            have hlt : start.resolver.store.now < start.resolver.store.now + duration :=
              Nat.lt_add_of_pos_right hpos
            rw [step_elapse] at hrest
            have hcourse := Course.wait hlt hwait hrest
            rw [← step_elapse] at hcourse
            rw [hinputs]
            exact hcourse
          · -- the clock jumps
            have hinputs : start.inputs (.act (.elapse duration) :: events) =
                (start.resolver.store.now, .act (.elapse duration)) ::
                  (start.step (.act (.elapse duration))).inputs events :=
              if_pos (by simp [isInput, hpos, hwait])
            rw [hinputs]
            exact .act (h.1 hpos) hrest
      | insert | remove | clear | sweep | spawn | stop => exact .act h.1 hrest

/-- **Timely runs** of one session with the same inputs are the same up to the same instant, if they
hear the same behaviours for as long as they ask. -/
theorem run_eq_of_isTimely (h : start.IsTimely events) (h' : start.IsTimely events')
    (hinputs : start.inputs events = start.inputs events') {script : List Behaviour}
    (hanswers : start.answers events <+: script) (hanswers' : start.answers events' <+: script)
    (hclock : (start.run events).resolver.store.now = (start.run events').resolver.store.now) :
    start.run events = start.run events' ∧ start.answers events = start.answers events' := by
  obtain ⟨left, rfl⟩ := hanswers
  obtain ⟨left', hleft⟩ := hanswers'
  have hcourse := h'.course left'
  rw [hleft, ← hinputs] at hcourse
  obtain ⟨hrun, rfl⟩ := (h.course left).deterministic hcourse hclock
  exact ⟨hrun, (List.append_cancel_right hleft).symm⟩

end Session

end LatestTag
