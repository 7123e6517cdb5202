import LatestTag.Proofs.CacheEntries
import LatestTag.Proofs.Slots
import Mathlib.Data.Set.Card

/-!
# A cache is its history

What a cache holds, and with it all that it ever replies, can be told from the actions that were
taken on it. The entry of an image is the one from the last insert, unless something has displaced
it since: a removal, a clearing, or a sweep by a time at which it was stale (`TagStore.Displaces`).
A pass of the sweeper counts as a sweep by its deadline.

> `find?_run_iff`: a store that began empty holds an entry exactly if its history says so
> (`TagStore.Holds`).
> `replies_from_history`: lookups, removals, sweeps and the size of the cache follow the history.

What a lookup asks beyond that is whether the entry is fresh now; removals, sweeps and the size
count stale entries as well.
-/

namespace LatestTag

namespace Cache

/-- Looked up is what is listed. -/
theorem mem_keys_iff {entries : List (String × CacheEntry)} {url : String} :
    url ∈ entries.map (·.1) ↔ ∃ entry, entries.lookup url = some entry := by
  rw [← Option.isSome_iff_exists, List.lookup_isSome_iff, List.mem_map]
  constructor
  · rintro ⟨⟨key, entry⟩, hmem, rfl⟩
    exact ⟨(key, entry), hmem, beq_self_eq_true key⟩
  · rintro ⟨pair, hmem, hkey⟩
    exact ⟨pair, hmem, (beq_iff_eq.1 hkey).symm⟩

/-- The size of a cache is the number of images that have an entry. -/
theorem size_eq_ncard (cache : Cache) :
    cache.size = {url | ∃ entry, cache.find? url = some entry}.ncard := by
  have hset : {url | ∃ entry, cache.find? url = some entry} =
      ((cache.entries.map (·.1)).toFinset : Set String) := by
    ext url
    rw [Finset.mem_coe, List.mem_toFinset]
    exact mem_keys_iff.symm
  rw [hset, Set.ncard_coe_finset, List.toFinset_card_of_nodup cache.nodup, List.length_map, size]

/-- A sweep takes out the entries that are stale at its time. -/
theorem evictions_eq_ncard (cache : Cache) (time : Nat) : cache.evictions time =
    {url | ∃ entry, cache.find? url = some entry ∧
      cache.ttl ≤ time - entry.storedAt}.ncard := by
  -- a sweep parts the entries into those that stay and those that are stale
  have hsize : cache.size = (cache.sweep time).size +
      (cache.filter fun _ entry => !entry.isFresh cache.ttl time).size :=
    List.length_eq_length_filter_add _
  have hstale (url : String) (entry : CacheEntry) :
      (cache.filter fun _ entry => !entry.isFresh cache.ttl time).find? url = some entry ↔
        cache.find? url = some entry ∧ cache.ttl ≤ time - entry.storedAt := by
    rw [find?_filter, Option.filter_eq_some_iff, CacheEntry.isFresh, Bool.not_eq_true',
      decide_eq_false_iff_not, Nat.not_lt]
  rw [evictions, hsize, Nat.add_sub_cancel_left, size_eq_ncard]
  simp only [hstale]

end Cache

namespace TagStore

/-- The store after a sequence of actions. -/
def run (store : TagStore) (actions : List Action) : TagStore := actions.foldl step store

/-- The action takes the entry of an image out of the store, or puts another one in its place. -/
def Displaces (store : TagStore) (url : String) (entry : CacheEntry) : Action → Prop
  | .insert key _ => key = url
  | .remove key => key = url
  | .clear => True
  | .sweep time => store.cache.ttl ≤ time - entry.storedAt
  | .tick => ∃ sweeper, store.live? = some sweeper ∧ sweeper.deadline ≤ store.now ∧
      store.cache.ttl ≤ sweeper.deadline - entry.storedAt
  | .elapse _ | .spawn _ | .stop => False

/-- By the history of the store it holds the entry for the image: an insert has stored the entry,
and no later action has displaced it. -/
def Holds (start : TagStore) (actions : List Action) (url : String) (entry : CacheEntry) : Prop :=
  ∃ before action after, actions = before ++ action :: after ∧
    (action = .insert url entry.tags ∧ (start.run before).now = entry.storedAt) ∧
    ¬ Happens step (start.run (before ++ [action])) after fun store later =>
      store.Displaces url entry later

variable {store : TagStore} {action : Action} {url : String} {entry : CacheEntry}

theorem find?_sweep_iff {cache : Cache} {time : Nat} :
    (cache.sweep time).find? url = some entry ↔
      cache.find? url = some entry ∧ ¬ cache.ttl ≤ time - entry.storedAt := by
  rw [Cache.find?_sweep, Option.filter_eq_some_iff, CacheEntry.isFresh, decide_eq_true_eq,
    Nat.not_le]

/-- A pass of the sweeper is a sweep by its deadline, if that has come. -/
theorem find?_tick_iff : store.tick.cache.find? url = some entry ↔
    store.cache.find? url = some entry ∧ ¬ store.Displaces url entry .tick := by
  show _ ↔ store.cache.find? url = some entry ∧ ¬ ∃ sweeper, store.live? = some sweeper ∧
    sweeper.deadline ≤ store.now ∧ store.cache.ttl ≤ sweeper.deadline - entry.storedAt
  rw [tick]
  cases store.live? with
  | none => simp
  | some sweeper =>
    dsimp only
    by_cases hdue : sweeper.deadline ≤ store.now
    · rw [if_pos hdue]
      show (store.cache.sweep sweeper.deadline).find? url = some entry ↔ _
      rw [find?_sweep_iff]
      simp [hdue]
    · simp [hdue]

/-- **One action**: an entry is there behind it if it has just been inserted, or if it was there
before and has not been displaced. -/
theorem find?_step_iff : (store.step action).cache.find? url = some entry ↔
    (action = .insert url entry.tags ∧ store.now = entry.storedAt) ∨
      store.cache.find? url = some entry ∧ ¬ store.Displaces url entry action := by
  obtain ⟨storedAt, stored⟩ := entry
  cases action with
  | insert key tags =>
    rw [step, Cache.find?_insert]
    by_cases hkey : url = key
    · subst hkey
      simp [Displaces, eq_comm, and_comm]
    · simp [Displaces, hkey, Ne.symm hkey]
  | remove key =>
    rw [step, Cache.find?_remove]
    by_cases hkey : url = key
    · simp [Displaces, hkey]
    · simp [Displaces, hkey, Ne.symm hkey]
  | clear => simp [step, Cache.find?_clear, Displaces]
  | sweep time => simp [step, find?_sweep_iff, Displaces]
  | tick => simp [step, find?_tick_iff]
  | elapse | spawn | stop => simp [step, Displaces]

/-- The entry of an image, as a slot that actions fill and void. -/
def entrySlot (url : String) : Slot TagStore Action CacheEntry where
  next := step
  held? store := store.cache.find? url
  Fills store action entry := action = .insert url entry.tags ∧ store.now = entry.storedAt
  Voids store action entry := store.Displaces url entry action
  held?_next _ _ _ := find?_step_iff

/-- **A store holds what its history says.** -/
theorem find?_run_iff {start : TagStore} (hempty : start.cache.find? url = none)
    (actions : List Action) :
    (start.run actions).cache.find? url = some entry ↔ Holds start actions url entry :=
  (entrySlot url).held?_run_iff hempty actions entry

theorem ttl_run (start : TagStore) (actions : List Action) :
    (start.run actions).cache.ttl = start.cache.ttl := by
  induction actions generalizing start with
  | nil => rfl
  | cons action actions ih => exact (ih (start.step action)).trans ttl_step

/-- **What a store replies follows from its history**, from an empty cache on: a lookup finds the
last insert of an image, unless that has been displaced or is stale by now; a removal finds it also
if it is stale; the cache is as large as there are such inserts, stale ones included; and a sweep
takes out those that are stale at its time, and no others. -/
theorem replies_from_history (ttl now : Nat) (sweeper : Option SweeperHandle)
    (actions : List Action) :
    let start : TagStore := ⟨.empty ttl, now, sweeper⟩
    let store := start.run actions
    (∀ url tags, store.reply (.get url) = .tags (some tags) ↔
      ∃ storedAt, Holds start actions url ⟨storedAt, tags⟩ ∧ store.now - storedAt < ttl) ∧
    (∀ url, store.reply (.remove url) = .existed true ↔ ∃ entry, Holds start actions url entry) ∧
    store.cache.size = {url | ∃ entry, Holds start actions url entry}.ncard ∧
    ∀ time,
      store.reply (.sweepAt time) = .evicted {url | ∃ entry, Holds start actions url entry ∧
        ttl ≤ time - entry.storedAt}.ncard ∧
      ∀ url entry, (store.step (.sweep time)).cache.find? url = some entry ↔
        Holds start actions url entry ∧ time - entry.storedAt < ttl := by
  intro start store
  have hholds (url : String) (entry : CacheEntry) :
      Holds start actions url entry ↔ store.cache.find? url = some entry :=
    (find?_run_iff rfl actions).symm
  have httl : store.cache.ttl = ttl := ttl_run start actions
  simp only [hholds]
  refine ⟨?_, ?_, store.cache.size_eq_ncard, ?_⟩
  · intro url tags
    rw [reply, Reply.tags.injEq, get?, Cache.get?_eq_map_fresh?, Option.map_eq_some_iff]
    simp only [Cache.fresh?_eq_some_iff, httl]
    constructor
    · rintro ⟨entry, hfresh, rfl⟩
      exact ⟨entry.storedAt, hfresh⟩
    · rintro ⟨storedAt, hfresh⟩
      exact ⟨⟨storedAt, tags⟩, hfresh, rfl⟩
  · intro url
    rw [reply, Reply.existed.injEq, Cache.contains, Option.isSome_iff_exists]
  · intro time
    rw [reply, Cache.evictions_eq_ncard, httl]
    refine ⟨rfl, fun url entry => ?_⟩
    rw [step, find?_sweep_iff, httl, Nat.not_le]

end TagStore

end LatestTag
