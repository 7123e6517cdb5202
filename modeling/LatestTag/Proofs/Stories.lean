import LatestTag.Proofs.Occurrences

/-!
# What becomes of a call

A call that is made in a run has a story in it, and there are six of them (`Session.Story`): it has
not begun; it ended without a question to a client; or it asked the client that serves its image,
and then it still waits, or has failed, or has got no tags, or has got some and was answered from
those.

> `story_run`: every call that was made in a run has one of these stories.

So how a call has ended tells what came of its own fetch (`Story.ended_cases`), whatever other calls
and the cache did in the meantime.
-/

namespace LatestTag

/-- The call has not begun, so it has not asked a client. -/
def Call.IsNew (call : Call) : Prop :=
  (∃ start, call.progress = .pending start) ∧ call.hasAsked = false

namespace Session

/-- What has become of the call at a position in a run. -/
inductive Story (start : Session) (events : List Event) (position : Nat) (call : Call) : Prop where
  /-- It has not begun. -/
  | waiting (hnew : call.IsNew)
  /-- It has asked a client and waits for the answer. -/
  | fetching {fetch : Fetch} (hprogress : call.progress = .fetching fetch)
      (hasked : call.hasAsked = true)
      (hasks : Occurs start events (Asks position
        (start.resolver.dispatcher.select call.request.url) call.request.url
        fetch.behaviour.answer))
  /-- It has ended without having asked, since it was cancelled or there were fresh tags. -/
  | immediate {time : Nat} {outcome : Outcome} (hprogress : call.progress = .ended time outcome)
      (hasked : call.hasAsked = false)
      (houtcome : outcome = call.request.failed .cancelled ∨
        ∃ tags, outcome = call.request.answered tags)
  /-- Its fetch has failed. -/
  | failed {time : Nat} {cause : FetchError}
      (hprogress : call.progress = .ended time (call.request.failed cause))
      (hasked : call.hasAsked = true)
  /-- Its fetch has brought no tags. -/
  | missed {time : Nat}
      (hprogress : call.progress = .ended time (.error (.emptyResult call.request.url)))
      (hasked : call.hasAsked = true)
      (hdelivered : Delivered start events call.request.url [] time (.call position))
  /-- Its fetch has brought tags, from which it was answered. -/
  | brought {time : Nat} {tags : List ImageTag}
      (hprogress : call.progress = .ended time (call.request.answered tags))
      (hasked : call.hasAsked = true) (hne : tags ≠ [])
      (hdelivered : Delivered start events call.request.url tags time (.call position))

namespace Story

variable {start : Session} {events : List Event} {event : Event} {position : Nat} {call : Call}
  {clients : Clients} {fetch : Fetch} {tags : List ImageTag}

/-- A story stays the same while the call does nothing. -/
theorem append (h : Story start events position call) :
    Story start (events ++ [event]) position call := by
  cases h with
  | waiting hnew => exact .waiting hnew
  | fetching hprogress hasked hasks => exact .fetching hprogress hasked hasks.append
  | immediate hprogress hasked houtcome => exact .immediate hprogress hasked houtcome
  | failed hprogress hasked => exact .failed hprogress hasked
  | missed hprogress hasked hdelivered => exact .missed hprogress hasked hdelivered.append
  | brought hprogress hasked hne hdelivered =>
    exact .brought hprogress hasked hne hdelivered.append

theorem hasAsked_of_pending (h : Story start events position call) {begins : Nat}
    (hprogress : call.progress = .pending begins) : call.hasAsked = false := by
  cases h with
  | waiting hnew => exact hnew.2
  | immediate _ hasked => exact hasked
  | fetching hother | failed hother | missed hother | brought hother =>
    exact absurd (hprogress.symm.trans hother) (by simp)

/-- A call that waits for an answer has asked for it. -/
theorem asked_of_fetching (h : Story start events position call)
    (hprogress : call.progress = .fetching fetch) : call.hasAsked = true ∧
      Occurs start events (Asks position (start.resolver.dispatcher.select call.request.url)
        call.request.url fetch.behaviour.answer) := by
  cases h with
  | fetching hfetching hasked hasks =>
    obtain rfl := Progress.fetching.inj (hfetching.symm.trans hprogress)
    exact ⟨hasked, hasks⟩
  | waiting hnew =>
    obtain ⟨⟨begins, hpending⟩, -⟩ := hnew
    exact absurd (hprogress.symm.trans hpending) (by simp)
  | immediate hother | failed hother | missed hother | brought hother =>
    exact absurd (hprogress.symm.trans hother) (by simp)

/-- A call that looks after a fetch has asked a client, now or before. -/
theorem hasAsked_of_fetch? (h : Story start events position call) {resolver : Resolver}
    (hfetch : resolver.fetch? call clients = some fetch) :
    (call.hasAsked || resolver.asks call) = true := by
  unfold Resolver.fetch? at hfetch
  split at hfetch
  next => rw [(Option.ite_none_right_eq_some.1 hfetch).1, Bool.or_true]
  next other hprogress => rw [(h.asked_of_fetching hprogress).1, Bool.true_or]
  next => exact absurd hfetch (by simp)

/-- What a call gets now is delivered by the client that serves the image. -/
theorem delivered (h : Story start events position call)
    (hcall : (start.run events).calls[position]? = some call)
    (hfetch : (start.run events).resolver.fetch? call clients = some fetch)
    (hresult : fetch.result? (start.run events).resolver.store.now = some (.ok tags)) :
    Delivered start (events ++ [.poll position clients]) call.request.url tags
      (start.run events).resolver.store.now (.call position) := by
  have hasks := asked_of_fetch? hcall hfetch fun _ hprogress => (h.asked_of_fetching hprogress).2
  rw [answer_of_result? hresult] at hasks
  exact ⟨hasks, Occurs.last ⟨call, clients, fetch, rfl, hcall, rfl, hfetch, hresult, rfl⟩⟩

/-- **One turn** takes the story on. -/
theorem turn (h : Story start events position call)
    (hcall : (start.run events).calls[position]? = some call) {resolver : Resolver} {next : Call}
    (hturn : (start.run events).resolver.Turn call clients resolver next) :
    Story start (events ++ [.poll position clients]) position next := by
  cases hturn with
  | idle => exact h.append
  | immediate hpending hstart himmediate =>
    have hasks : (start.run events).resolver.asks call = false := by
      simp [Resolver.asks, hpending, himmediate]
    have hasked : (call.hasAsked || (start.run events).resolver.asks call) = false := by
      rw [h.hasAsked_of_pending hpending, hasks, Bool.or_false]
    exact .immediate rfl hasked (Resolver.eq_of_immediate? himmediate)
  | waits hfetch hresult =>
    have hasks := asked_of_fetch? hcall hfetch fun _ hprogress => (h.asked_of_fetching hprogress).2
    exact .fetching rfl (h.hasAsked_of_fetch? hfetch) hasks
  | fails hfetch hresult => exact .failed rfl (h.hasAsked_of_fetch? hfetch)
  | misses hfetch hresult =>
    exact .missed rfl (h.hasAsked_of_fetch? hfetch) (h.delivered hcall hfetch hresult)
  | stores hfetch hresult hne =>
    exact .brought rfl (h.hasAsked_of_fetch? hfetch) hne (h.delivered hcall hfetch hresult)

/-- **How a call has ended** tells what came of its fetch, if it has asked for any. -/
theorem ended_cases (h : Story start events position call) {time : Nat} {outcome : Outcome}
    (hended : call.progress = .ended time outcome) :
    (call.hasAsked = false ∧ (outcome = call.request.failed .cancelled ∨
        ∃ tags, outcome = call.request.answered tags)) ∨
      (∃ cause, outcome = call.request.failed cause) ∨
      (outcome = .error (.emptyResult call.request.url) ∧
        Delivered start events call.request.url [] time (.call position)) ∨
      ∃ tags, tags ≠ [] ∧ outcome = call.request.answered tags ∧
        Delivered start events call.request.url tags time (.call position) := by
  cases h with
  | waiting hnew =>
    obtain ⟨⟨begins, hpending⟩, -⟩ := hnew
    exact absurd (hended.symm.trans hpending) (by simp)
  | fetching hfetching => exact absurd (hended.symm.trans hfetching) (by simp)
  | immediate hprogress hasked houtcome =>
    obtain ⟨-, rfl⟩ := Progress.ended.inj (hended.symm.trans hprogress)
    exact Or.inl ⟨hasked, houtcome⟩
  | failed hprogress =>
    obtain ⟨-, rfl⟩ := Progress.ended.inj (hended.symm.trans hprogress)
    exact Or.inr (Or.inl ⟨_, rfl⟩)
  | missed hprogress _ hdelivered =>
    obtain ⟨rfl, rfl⟩ := Progress.ended.inj (hended.symm.trans hprogress)
    exact Or.inr (Or.inr (Or.inl ⟨rfl, hdelivered⟩))
  | brought hprogress _ hne hdelivered =>
    obtain ⟨rfl, rfl⟩ := Progress.ended.inj (hended.symm.trans hprogress)
    exact Or.inr (Or.inr (Or.inr ⟨_, hne, rfl, hdelivered⟩))

end Story

/-- **A run** gives every call that was made in it one of the stories. -/
theorem story_run {start : Session} {position : Nat}
    (hstart : ∀ call, start.calls[position]? = some call → call.IsNew) (events : List Event)
    {call : Call} (hcall : (start.run events).calls[position]? = some call) :
    Story start events position call := by
  induction events using List.reverseRecOn generalizing call with
  | nil => exact .waiting (hstart call hcall)
  | append_singleton events event ih =>
    rw [run_append] at hcall
    rcases call_of_step hcall with
      hold | ⟨request, begins, -, rfl⟩ | ⟨clients, earlier, later, rfl, hearlier, -, hturn⟩
    · exact (ih hold).append
    · exact .waiting ⟨⟨begins, rfl⟩, rfl⟩
    · exact (ih hearlier).turn hearlier hturn

end Session

end LatestTag
