import LatestTag.Proofs.CacheHistory

/-!
# What a pass of the sweeper leaves behind

The sweeper sweeps by its deadline, not by the clock. While it is timely the two are the same, and
behind a pass nothing is stale. A late pass is different: what comes of age between the deadline and
the clock stays in the cache, stale as it is, until there is another pass.

> `stale_behind_pass`: the stale entries behind a pass are those that came of age since its
> deadline. If it is timely there are none; if it is late, they go with the first pass whose
> deadline is not before the present time.

So what a pass assures is something about its deadline (`SweptAt`): each entry in the cache was
fresh then, or has been stored since. Nothing that happens afterwards changes this.
-/

namespace LatestTag.TagStore

/-- There is a live sweeper whose next pass may come, and might have come at the deadline. -/
def DueSince (store : TagStore) (deadline : Nat) : Prop :=
  ∃ sweeper, store.live? = some sweeper ∧ sweeper.deadline = deadline ∧ deadline ≤ store.now

/-- What was stale at the time is gone: each entry was fresh then, or has been stored since. -/
structure SweptAt (store : TagStore) (time : Nat) : Prop where
  /-- The time has come. -/
  time_le : time ≤ store.now
  /-- No entry was stale at the time. -/
  fresh_or_later : ∀ url entry, store.cache.find? url = some entry →
    time - entry.storedAt < store.cache.ttl ∨ time ≤ entry.storedAt

variable {store : TagStore} {url : String} {entry : CacheEntry} {time deadline : Nat}

theorem run_append (start : TagStore) (before after : List Action) :
    start.run (before ++ after) = (start.run before).run after :=
  List.foldl_append

/-! ## One pass -/

/-- A pass that is due keeps what is fresh at the deadline. -/
theorem find?_pass_iff (h : store.DueSince deadline) :
    (store.step .tick).cache.find? url = some entry ↔
      store.cache.find? url = some entry ∧ deadline - entry.storedAt < store.cache.ttl := by
  obtain ⟨sweeper, hlive, rfl, hdue⟩ := h
  rw [step, find?_tick_iff]
  simp [Displaces, hlive, hdue]

theorem sweptAt_tick (h : store.DueSince deadline) : (store.step .tick).SweptAt deadline := by
  refine ⟨?_, fun url entry hfind => Or.inl ?_⟩
  · obtain ⟨-, -, -, hle⟩ := h
    rw [step, now_tick]
    exact hle
  · rw [ttl_step]
    exact ((find?_pass_iff h).1 hfind).2

/-! ## What stays so -/

/-- **One action** brings back nothing that was stale at the time: an entry is either stored now,
which is not before that time, or was there already. -/
theorem SweptAt.step (h : store.SweptAt time) (action : Action) :
    (store.step action).SweptAt time := by
  refine ⟨h.time_le.trans now_le_step, fun url entry hfind => ?_⟩
  rw [ttl_step]
  rcases find?_step_iff.1 hfind with ⟨-, hnow⟩ | ⟨hbefore, -⟩
  · exact Or.inr (hnow ▸ h.time_le)
  · exact h.fresh_or_later url entry hbefore

theorem SweptAt.run (h : store.SweptAt time) (actions : List Action) :
    (store.run actions).SweptAt time := by
  induction actions generalizing store with
  | nil => exact h
  | cons action actions ih => exact ih (h.step action)

/-- **What is stale behind a pass** is what the store held and what has come of age since the
deadline; so behind a timely pass nothing is stale. Whatever happens afterwards, an entry that was
stale at the deadline does not come back, and one that is stale by now is gone behind any pass whose
deadline is not before the present time. -/
theorem stale_behind_pass (ttl now deadline : Nat) (handle : Option SweeperHandle)
    (before : List Action)
    (hdue : ((⟨.empty ttl, now, handle⟩ : TagStore).run before).DueSince deadline) :
    let start : TagStore := ⟨.empty ttl, now, handle⟩
    let passed := start.run (before ++ [.tick])
    (∀ url entry, passed.cache.find? url = some entry ∧ ttl ≤ passed.now - entry.storedAt ↔
      Holds start before url entry ∧ deadline - entry.storedAt < ttl ∧
        ttl ≤ passed.now - entry.storedAt) ∧
    (deadline = passed.now → ∀ url entry, passed.cache.find? url = some entry →
      passed.now - entry.storedAt < ttl) ∧
    ∀ after url entry,
      ((passed.run after).cache.find? url = some entry →
        deadline - entry.storedAt < ttl ∨ deadline ≤ entry.storedAt) ∧
      ∀ later, (passed.run after).DueSince later → passed.now ≤ later →
        (passed.run (after ++ [.tick])).cache.find? url = some entry →
          passed.now - entry.storedAt < ttl := by
  intro start passed
  have hpassed : passed = (start.run before).step .tick := run_append start before [.tick]
  have httl (actions : List Action) : (start.run actions).cache.ttl = ttl := ttl_run start actions
  -- before the pass there is what the history says, and of that the pass keeps what it finds fresh
  have hfind (url : String) (entry : CacheEntry) : passed.cache.find? url = some entry ↔
      Holds start before url entry ∧ deadline - entry.storedAt < ttl := by
    rw [hpassed, find?_pass_iff hdue, httl, find?_run_iff rfl]
  have hlaterTtl (after : List Action) : (passed.run after).cache.ttl = ttl := by
    rw [ttl_run, httl]
  refine ⟨fun url entry => by rw [hfind, and_assoc], ?_, fun after url entry => ⟨?_, ?_⟩⟩
  · rintro rfl url entry hheld
    exact ((hfind url entry).1 hheld).2
  · intro hheld
    have hswept : passed.SweptAt deadline := hpassed ▸ sweptAt_tick hdue
    rw [← hlaterTtl after]
    exact (hswept.run after).fresh_or_later url entry hheld
  · intro later hlater hle hheld
    rw [run_append] at hheld
    -- what is fresh at a deadline that is not before this time was fresh at this time too
    have hfresh := ((find?_pass_iff hlater).1 hheld).2
    rw [hlaterTtl] at hfresh
    omega

/-- Tags are stored, and nothing is done for twelve nanoseconds. -/
def stalled : List Action := [.insert "nginx" [⟨"1.25.0", "", ⟨0, 0⟩⟩], .elapse 12]

/-- A sweeper that should have made its first pass at 5 is seven nanoseconds late. -/
theorem dueSince_stalled (ttl : Nat) :
    ((⟨.empty ttl, 0, some (.live ⟨5, by decide, 5⟩)⟩ : TagStore).run stalled).DueSince 5 :=
  ⟨⟨5, by decide, 5⟩, rfl, rfl, (by decide : 5 ≤ 0 + 12)⟩

theorem stale_behind_pass_of_stalled :
    let start : TagStore := ⟨.empty 10, 0, some (.live ⟨5, by decide, 5⟩)⟩
    let passed := start.run (stalled ++ [.tick])
    (start.run stalled).DueSince 5 ∧
    (∀ url entry, passed.cache.find? url = some entry ∧ 10 ≤ passed.now - entry.storedAt ↔
      Holds start stalled url entry ∧ 5 - entry.storedAt < 10 ∧
        10 ≤ passed.now - entry.storedAt) ∧
    (5 = passed.now → ∀ url entry, passed.cache.find? url = some entry →
      passed.now - entry.storedAt < 10) ∧
    ∀ after url entry,
      ((passed.run after).cache.find? url = some entry →
        5 - entry.storedAt < 10 ∨ 5 ≤ entry.storedAt) ∧
      ∀ later, (passed.run after).DueSince later → passed.now ≤ later →
        (passed.run (after ++ [.tick])).cache.find? url = some entry →
          passed.now - entry.storedAt < 10 :=
  ⟨dueSince_stalled 10, stale_behind_pass 10 0 5 _ stalled (dueSince_stalled 10)⟩

/-- **A late pass may leave stale entries behind.** Nobody gets them, but they are there. -/
theorem not_all_fresh_behind_pass :
    ¬ ∀ (ttl now deadline : Nat) (handle : Option SweeperHandle) (before : List Action),
      let store : TagStore := (⟨.empty ttl, now, handle⟩ : TagStore).run before
      store.DueSince deadline →
        ∀ url entry, (store.step .tick).cache.find? url = some entry →
          (store.step .tick).now - entry.storedAt < ttl := by
  intro hfresh
  have hyoung : 12 - 0 < 10 :=
    hfresh 10 0 5 _ stalled (dueSince_stalled 10) "nginx" ⟨0, [⟨"1.25.0", "", ⟨0, 0⟩⟩]⟩ (by decide)
  exact absurd hyoung (by decide)

/-- The same happens to a timely sweeper when the clock jumps. -/
example :
    let store := [Command.spawn (Duration.ofSeconds 5), .insert "nginx" [⟨"1.25.0", "", ⟨0, 0⟩⟩],
      .jump (Duration.ofSeconds 12)].foldl perform ⟨.empty (Duration.ofSeconds 10), 0, none⟩
    store.now = Duration.ofSeconds 12 ∧ store.cache.size = 1 := by
  cbv

end LatestTag.TagStore
