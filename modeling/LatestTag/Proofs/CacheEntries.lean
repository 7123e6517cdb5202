import LatestTag.TagStore

/-!
# What a cache holds

A cache is what it says about each image: the entry under its reference (`Cache.find?`), and that
entry while it is fresh (`Cache.fresh?`), which is all that a lookup ever sees. This file says what
every operation does to both. Edits change them for one image or for all; a sweep keeps what is
fresh at the time that it goes by:

> `fresh?_sweep`: behind a sweep an entry is fresh if it was so before and is so at the time of the
> sweep too.

As entries only grow stale, a sweep by a time that is not later than the clock takes out nothing
that is fresh (`fresh?_sweep_of_le`). One by a later time may well do so.
-/

namespace LatestTag

/-- What is fresh at some time was so before. -/
theorem CacheEntry.isFresh_of_le {entry : CacheEntry} {ttl time now : Nat} (hle : time ≤ now)
    (h : entry.isFresh ttl now = true) : entry.isFresh ttl time = true := by
  unfold isFresh at *
  simp only [decide_eq_true_eq] at *
  omega

namespace Cache

/-- Entries with keys of their own are looked up behind a filter as before it, if they pass. -/
theorem lookup_filter {entries : List (String × CacheEntry)} (hnodup : (entries.map (·.1)).Nodup)
    (keeps : String → CacheEntry → Bool) (url : String) :
    (entries.filter fun (key, entry) => keeps key entry).lookup url =
      (entries.lookup url).filter (keeps url) := by
  induction entries with
  | nil => rfl
  | cons first entries ih =>
    obtain ⟨key, entry⟩ := first
    have hnotMem : key ∉ entries.map (·.1) := (List.nodup_cons.1 hnodup).1
    have ih := ih (List.nodup_cons.1 hnodup).2
    rw [List.filter_cons]
    show List.lookup url (if keeps key entry then (key, entry) :: _ else _) = _
    by_cases hkey : url = key
    · subst hkey
      rw [List.lookup_cons_self]
      by_cases hkeeps : keeps url entry = true
      · rw [if_pos hkeeps, List.lookup_cons_self, Option.filter_some_pos hkeeps]
      · -- no other entry has the key
        have hnone : entries.lookup url = none := by
          rw [List.lookup_eq_none_iff]
          intro other hother
          rw [bne_iff_ne]
          intro heq
          exact hnotMem (List.mem_map.2 ⟨other, hother, heq.symm⟩)
        rw [if_neg hkeeps, ih, hnone, Option.filter_some_neg (Bool.not_eq_true _ ▸ hkeeps)]
        rfl
    · have hne : (url == key) = false := beq_eq_false_iff_ne.2 hkey
      rw [List.lookup_cons, hne, ← ih]
      by_cases hkeeps : keeps key entry = true
      · rw [if_pos hkeeps, List.lookup_cons, hne]
      · rw [if_neg hkeeps]

variable (cache : Cache) (now time : Nat) (url key : String) (tags : List ImageTag)

/-! ## Entries -/

theorem find?_filter (keeps : String → CacheEntry → Bool) :
    (cache.filter keeps).find? url = (cache.find? url).filter (keeps url) :=
  lookup_filter cache.nodup keeps url

theorem find?_remove :
    (cache.remove key).find? url = if url = key then none else cache.find? url := by
  rw [remove, find?_filter]
  by_cases hkey : url = key
  · rw [if_pos hkey, Option.filter_eq_none_iff]
    simp [hkey]
  · rw [if_neg hkey]
    cases cache.find? url with
    | none => rfl
    | some entry => exact Option.filter_some_pos (bne_iff_ne.2 hkey)

theorem find?_insert : (cache.insert now key tags).find? url =
    if url = key then some ⟨now, tags⟩ else cache.find? url := by
  show List.lookup url ((key, ⟨now, tags⟩) :: (cache.remove key).entries) = _
  rw [List.lookup_cons]
  by_cases hkey : url = key
  · rw [if_pos hkey, beq_iff_eq.2 hkey]
  · rw [if_neg hkey, beq_eq_false_iff_ne.2 hkey]
    show (cache.remove key).find? url = _
    rw [find?_remove, if_neg hkey]

theorem find?_clear : cache.clear.find? url = none := rfl

theorem find?_sweep :
    (cache.sweep time).find? url = (cache.find? url).filter (·.isFresh cache.ttl time) :=
  cache.find?_filter url _

/-! ## Fresh entries -/

/-- The entry of an image, if it is fresh. -/
def fresh? (cache : Cache) (now : Nat) (url : String) : Option CacheEntry :=
  (cache.find? url).filter (·.isFresh cache.ttl now)

theorem get?_eq_map_fresh? : cache.get? now url = (cache.fresh? now url).map (·.tags) := rfl

theorem fresh?_eq_some_iff {entry : CacheEntry} : cache.fresh? now url = some entry ↔
    cache.find? url = some entry ∧ now - entry.storedAt < cache.ttl := by
  rw [fresh?, Option.filter_eq_some_iff, CacheEntry.isFresh, decide_eq_true_eq]

theorem fresh?_remove : (cache.remove key).fresh? now url =
    if url = key then none else cache.fresh? now url := by
  rw [fresh?, find?_remove]
  by_cases hkey : url = key
  · rw [if_pos hkey, if_pos hkey]
    rfl
  · rw [if_neg hkey, if_neg hkey]
    rfl

theorem fresh?_insert : (cache.insert time key tags).fresh? now url =
    if url = key then (some ⟨time, tags⟩ : Option CacheEntry).filter (·.isFresh cache.ttl now)
    else cache.fresh? now url := by
  rw [fresh?, find?_insert]
  by_cases hkey : url = key
  · rw [if_pos hkey, if_pos hkey]
    rfl
  · rw [if_neg hkey, if_neg hkey]
    rfl

theorem fresh?_clear : cache.clear.fresh? now url = none := rfl

/-- A sweep leaves of the fresh entries those that are fresh at the time that it goes by. -/
theorem fresh?_sweep : (cache.sweep time).fresh? now url =
    (cache.fresh? now url).filter (·.isFresh cache.ttl time) := by
  rw [fresh?, find?_sweep, fresh?, Option.filter_filter, Option.filter_filter]
  refine congrArg (Option.filter · _) (funext fun entry => ?_)
  exact Bool.and_comm _ _

/-- With time fresh entries grow stale, and nothing else happens to them. -/
theorem fresh?_of_le (hle : time ≤ now) :
    cache.fresh? now url = (cache.fresh? time url).filter (·.isFresh cache.ttl now) := by
  rw [fresh?, fresh?, Option.filter_filter]
  refine congrArg (Option.filter · _) (funext fun entry => ?_)
  cases hfresh : entry.isFresh cache.ttl now with
  | true => rw [CacheEntry.isFresh_of_le hle hfresh, Bool.and_self]
  | false => rw [Bool.and_false]

/-- A sweep by a time that is not later than the clock takes out nothing that is fresh. -/
theorem fresh?_sweep_of_le (hle : time ≤ now) :
    (cache.sweep time).fresh? now url = cache.fresh? now url := by
  rw [fresh?_sweep]
  cases hfresh : cache.fresh? now url with
  | none => rfl
  | some entry =>
    have hnow := (Option.filter_eq_some_iff.1 hfresh).2
    exact Option.filter_some_pos (CacheEntry.isFresh_of_le hle hnow)

end Cache

/-! ## Actions on a store -/

namespace TagStore

variable {store : TagStore} {action : Action}

/-- A pass of the sweeper is a sweep by its deadline, which is not later than the clock. -/
theorem tick_cases (store : TagStore) : store.tick = store ∨ ∃ deadline ≤ store.now,
    ∃ sweeper, store.tick = ⟨store.cache.sweep deadline, store.now, sweeper⟩ := by
  unfold tick
  cases store.live? with
  | none => exact Or.inl rfl
  | some sweeper =>
    by_cases hdue : sweeper.deadline ≤ store.now
    · exact Or.inr ⟨sweeper.deadline, hdue, _, if_pos hdue⟩
    · exact Or.inl (if_neg hdue)

theorem ttl_step : (store.step action).cache.ttl = store.cache.ttl := by
  cases action with
  | tick =>
    rcases store.tick_cases with htick | ⟨deadline, -, sweeper, htick⟩
    · rw [step, htick]
    · rw [step, htick]
      rfl
  | _ => rfl

/-- A pass takes no time. -/
theorem now_tick : store.tick.now = store.now := by
  rcases store.tick_cases with htick | ⟨deadline, -, sweeper, htick⟩
  · rw [htick]
  · rw [htick]

theorem now_le_step : store.now ≤ (store.step action).now := by
  cases action with
  | tick => exact Nat.le_of_eq now_tick.symm
  | elapse duration => exact Nat.le_add_right _ _
  | _ => exact Nat.le_refl _

end TagStore

end LatestTag
