import LatestTag.Proofs.CacheEntries

/-!
# Stores that lookups cannot tell apart

Two stores are alike if their clocks show the same, entries are fresh for the same time, and the
same entries are fresh now (`TagStore.Alike`). Stale entries do not matter, nor does the sweeper.
This file shows that likeness is kept by whatever happens to both stores:

> `Alike.step`: an action on alike stores leaves them alike, a sweep by any time included, even one
> that takes out what is fresh.

and that what a sweeper does to one of them is none of the other's business:

> `alike_step_of_isSweeping`, `alike_settle`, `alike_approach`: passes of the sweeper, sweeps by
> times that have come, and starting and stopping a sweeper leave a store alike to what it was, also
> when they go on while time passes.
-/

namespace LatestTag

namespace TagStore

/-- The stores cannot be told apart by lookups, now or later. -/
structure Alike (store other : TagStore) : Prop where
  now_eq : store.now = other.now
  ttl_eq : store.cache.ttl = other.cache.ttl
  fresh_eq : ∀ url, store.cache.fresh? store.now url = other.cache.fresh? other.now url

/-- Whether an action is background work, or a sweep by a time that has come. -/
def Action.isSweeping (now : Nat) : Action → Bool
  | .tick | .spawn _ | .stop => true
  | .sweep time => decide (time ≤ now)
  | .insert _ _ | .remove _ | .clear | .elapse _ => false

variable {store other third : TagStore}

namespace Alike

theorem refl (store : TagStore) : Alike store store := ⟨rfl, rfl, fun _ => rfl⟩

theorem symm (h : Alike store other) : Alike other store :=
  ⟨h.now_eq.symm, h.ttl_eq.symm, fun url => (h.fresh_eq url).symm⟩

theorem trans (h : Alike store other) (h' : Alike other third) : Alike store third :=
  ⟨h.now_eq.trans h'.now_eq, h.ttl_eq.trans h'.ttl_eq,
    fun url => (h.fresh_eq url).trans (h'.fresh_eq url)⟩

theorem get?_eq (h : Alike store other) (url : String) : store.get? url = other.get? url := by
  rw [get?, get?, Cache.get?_eq_map_fresh?, Cache.get?_eq_map_fresh?, h.fresh_eq]

theorem insert (h : Alike store other) (url : String) (tags : List ImageTag) :
    Alike (store.step (.insert url tags)) (other.step (.insert url tags)) where
  now_eq := h.now_eq
  ttl_eq := h.ttl_eq
  fresh_eq key := by
    show (store.cache.insert store.now url tags).fresh? store.now key =
      (other.cache.insert other.now url tags).fresh? other.now key
    rw [Cache.fresh?_insert, Cache.fresh?_insert, h.fresh_eq, h.ttl_eq, h.now_eq]

theorem remove (h : Alike store other) (url : String) :
    Alike (store.step (.remove url)) (other.step (.remove url)) where
  now_eq := h.now_eq
  ttl_eq := h.ttl_eq
  fresh_eq key := by
    show (store.cache.remove url).fresh? store.now key =
      (other.cache.remove url).fresh? other.now key
    rw [Cache.fresh?_remove, Cache.fresh?_remove, h.fresh_eq]

/-- Of what is fresh both stores lose the same, also by a sweep that is ahead of its time. -/
theorem sweep (h : Alike store other) (time : Nat) :
    Alike (store.step (.sweep time)) (other.step (.sweep time)) where
  now_eq := h.now_eq
  ttl_eq := h.ttl_eq
  fresh_eq url := by
    show (store.cache.sweep time).fresh? store.now url =
      (other.cache.sweep time).fresh? other.now url
    rw [Cache.fresh?_sweep, Cache.fresh?_sweep, h.fresh_eq, h.ttl_eq]

/-- What is fresh later is so now. -/
theorem moveTo (h : Alike store other) (time : Nat) :
    Alike (store.moveTo time) (other.moveTo time) where
  now_eq := by
    show max store.now time = max other.now time
    rw [h.now_eq]
  ttl_eq := h.ttl_eq
  fresh_eq url := by
    show store.cache.fresh? (max store.now time) url = other.cache.fresh? (max other.now time) url
    rw [store.cache.fresh?_of_le _ _ url (Nat.le_max_left store.now time),
      other.cache.fresh?_of_le _ _ url (Nat.le_max_left other.now time), h.fresh_eq, h.now_eq,
      h.ttl_eq]

end Alike

theorem step_elapse (store : TagStore) (duration : Nat) :
    store.step (.elapse duration) = store.moveTo (store.now + duration) := by
  rw [step, moveTo, Nat.max_eq_right (Nat.le_add_right _ _)]

/-- A sweep by a time that has come takes out nothing that is fresh. -/
theorem alike_sweep (cache : Cache) {time now : Nat} (hle : time ≤ now)
    (sweeper sweeper' : Option SweeperHandle) :
    Alike ⟨cache.sweep time, now, sweeper⟩ ⟨cache, now, sweeper'⟩ where
  now_eq := rfl
  ttl_eq := rfl
  fresh_eq url := cache.fresh?_sweep_of_le now time url hle

theorem alike_tick : Alike store.tick store := by
  rcases store.tick_cases with htick | ⟨deadline, hle, sweeper, htick⟩
  · rw [htick]
    exact .refl store
  · rw [htick]
    exact alike_sweep store.cache hle sweeper store.sweeper

theorem alike_step_of_isSweeping {action : Action} (h : action.isSweeping store.now = true) :
    Alike (store.step action) store := by
  cases action with
  | tick => exact alike_tick
  | spawn interval => exact ⟨rfl, rfl, fun _ => rfl⟩
  | stop => exact ⟨rfl, rfl, fun _ => rfl⟩
  | sweep time => exact alike_sweep store.cache (of_decide_eq_true h) _ _
  | insert | remove | clear | elapse => exact absurd h (by simp [Action.isSweeping])

/-- **One action** on alike stores leaves them alike. -/
theorem Alike.step (h : Alike store other) (action : Action) :
    Alike (store.step action) (other.step action) := by
  cases action with
  | insert url tags => exact h.insert url tags
  | remove url => exact h.remove url
  | clear =>
    refine ⟨h.now_eq, h.ttl_eq, fun url => ?_⟩
    exact (store.cache.fresh?_clear _ url).trans (other.cache.fresh?_clear _ url).symm
  | sweep time => exact h.sweep time
  | elapse duration =>
    rw [step_elapse, step_elapse, h.now_eq]
    exact h.moveTo _
  | tick =>
    -- the two sweepers may do different things, neither of which matters
    exact alike_tick.trans (h.trans alike_tick.symm)
  | spawn interval => exact ⟨h.now_eq, h.ttl_eq, h.fresh_eq⟩
  | stop => exact ⟨h.now_eq, h.ttl_eq, h.fresh_eq⟩

/-! ## Sweeping while time passes -/

/-- The deadlines of the passes that a sweeper makes have come. -/
theorem le_of_mem_due (sweeper : Sweeper) (now : Nat) :
    ∀ time ∈ (sweeper.due now).1, time ≤ now := by
  fun_induction sweeper.due now with
  | case1 sweeper hdue times later heq ih =>
    rw [heq] at ih
    intro time htime
    rcases List.mem_cons.1 htime with rfl | htime
    · exact hdue
    · exact ih time htime
  | case2 sweeper hdue =>
    intro time htime
    exact absurd htime (by simp)

theorem alike_foldl_sweep {times : List Nat} (cache : Cache) {now : Nat}
    (hle : ∀ time ∈ times, time ≤ now) (sweeper sweeper' : Option SweeperHandle) :
    Alike ⟨times.foldl Cache.sweep cache, now, sweeper⟩ ⟨cache, now, sweeper'⟩ := by
  induction times generalizing cache with
  | nil => exact ⟨rfl, rfl, fun _ => rfl⟩
  | cons time times ih =>
    have hfirst := alike_sweep cache (hle time List.mem_cons_self) sweeper' sweeper'
    have hle' : ∀ later ∈ times, later ≤ now := fun later hlater =>
      hle later (List.mem_cons_of_mem _ hlater)
    exact (ih (cache.sweep time) hle').trans hfirst

theorem alike_settle (store : TagStore) : Alike store.settle store := by
  unfold settle
  cases store.live? with
  | none => exact .refl store
  | some sweeper => exact alike_foldl_sweep store.cache (le_of_mem_due sweeper store.now) _ _

theorem moveTo_moveTo (store : TagStore) {time later : Nat} (hle : time ≤ later) :
    (store.moveTo time).moveTo later = store.moveTo later := by
  rw [moveTo, moveTo, moveTo]
  simp only [Nat.max_assoc, Nat.max_eq_right hle]

/-- While time passes, the sweeper makes its passes without anybody noticing. -/
theorem alike_approach (store : TagStore) (time : Nat) :
    Alike (store.approach time) (store.moveTo time) := by
  fun_induction store.approach time with
  | case1 store sweeper hlive hlt ih =>
    -- the store at the sweeper's next timer, and on from there with the passes made and without
    have hsettle := alike_settle (store.moveTo (Duration.fire store.now sweeper.deadline))
    have hmoved := hsettle.moveTo time
    rw [moveTo_moveTo store (Nat.le_of_lt hlt)] at hmoved
    exact ih.trans hmoved
  | case2 => exact .refl _
  | case3 => exact .refl _

theorem Alike.settle (h : Alike store other) : Alike store.settle other.settle :=
  (alike_settle store).trans (h.trans (alike_settle other).symm)

theorem Alike.approach (h : Alike store other) (time : Nat) :
    Alike (store.approach time) (other.approach time) :=
  (alike_approach store time).trans ((h.moveTo time).trans (alike_approach other time).symm)

theorem Alike.sleep (h : Alike store other) (duration : Nat) :
    Alike (store.sleep duration) (other.sleep duration) := by
  rw [TagStore.sleep, TagStore.sleep, h.now_eq]
  exact (h.approach _).settle

/-! ## Commands -/

/-- Whether a command is background work, or a sweep by a time that has come. -/
def Command.isSweeping (now : Nat) : Command → Bool
  | .sweepNow | .spawn _ | .stop => true
  | .sweepAt time => decide (time ≤ now)
  | .get _ | .insert _ _ | .remove _ | .clear | .jump _ | .sleep _ | .ttl => false

theorem alike_perform_of_isSweeping {command : Command}
    (h : command.isSweeping store.now = true) : Alike (store.perform command) store := by
  have hsettle (action : Action) (haction : action.isSweeping store.now = true) :
      Alike (store.step action).settle store :=
    (alike_settle _).trans (alike_step_of_isSweeping haction)
  cases command with
  | sweepNow => exact hsettle (.sweep store.now) (decide_eq_true (Nat.le_refl _))
  | sweepAt time => exact hsettle (.sweep time) h
  | spawn interval => exact hsettle (.spawn interval) rfl
  | stop => exact hsettle .stop rfl
  | get | insert | remove | clear | jump | sleep | ttl =>
    exact absurd h (by simp [Command.isSweeping])

/-- **One command** on alike stores leaves them alike. -/
theorem Alike.perform (h : Alike store other) (command : Command) :
    Alike (store.perform command) (other.perform command) := by
  cases command with
  | get url => exact h.settle
  | ttl => exact h.settle
  | insert url tags => exact (h.step (.insert url tags)).settle
  | remove url => exact (h.step (.remove url)).settle
  | clear => exact (h.step .clear).settle
  | sweepNow =>
    rw [TagStore.perform, TagStore.perform, h.now_eq]
    exact (h.step _).settle
  | sweepAt time => exact (h.step (.sweep time)).settle
  | jump duration => exact (h.step (.elapse duration)).settle
  | sleep duration => exact h.sleep duration
  | spawn interval => exact (h.step (.spawn interval)).settle
  | stop => exact (h.step .stop).settle

/-- What a command gives back, but for what tells of stale entries or of the sweeper. -/
def Reply.masked : Reply → Reply
  | .existed _ | .evicted _ => .done
  | .done => .done
  | .tags answer => .tags answer
  | .ttl duration => .ttl duration

theorem Alike.masked_reply_eq (h : Alike store other) (command : Command) :
    (store.reply command).masked = (other.reply command).masked := by
  cases command with
  | get url =>
    rw [reply, reply, h.get?_eq]
  | ttl =>
    rw [reply, reply, h.ttl_eq]
  | _ => rfl

end TagStore

end LatestTag
