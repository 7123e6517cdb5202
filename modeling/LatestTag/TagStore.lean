import LatestTag.Sweeper

/-!
# A cache in time

A `TagStore` is a cache under a clock, swept in the background by at most one sweeper. What happens
to it is a sequence of `Action`s, in any order: edits of the cache, the passing of time, and the
sweeper's passes, each of which comes at its deadline or later. A timely sweeper is one that has
passed all its deadlines whenever the clock stands still: `settle` lets it do so, `jump` moves the
clock at once and `sleep` lets time pass while the sweeper works.
-/

namespace LatestTag

/-- A cache under a clock, with the handle on its sweeper. -/
structure TagStore where
  /-- The cache. -/
  cache : Cache
  /-- The time. -/
  now : Nat := 0
  /-- The handle on the sweeper. -/
  sweeper : Option SweeperHandle := none

namespace TagStore

/-- What can happen to a store. -/
inductive Action where
  /-- The tags of an image are stored. -/
  | insert (url : String) (tags : List ImageTag)
  /-- The entry of an image is removed. -/
  | remove (url : String)
  /-- All entries are removed. -/
  | clear
  /-- The entries are removed that are not fresh at a time. -/
  | sweep (time : Nat)
  /-- Time passes. -/
  | elapse (duration : Nat)
  /-- The sweeper makes a pass, if its deadline has come. -/
  | tick
  /-- A sweeper is started, in place of the one there is. -/
  | spawn (interval : Nat)
  /-- The sweeper is stopped. -/
  | stop
deriving DecidableEq

/-- The live sweeper. -/
def live? (store : TagStore) : Option Sweeper :=
  match store.sweeper with
  | some (.live sweeper) => some sweeper
  | _ => none

/-- The store after a pass of the sweeper, if the deadline for one has come. -/
def tick (store : TagStore) : TagStore :=
  match store.live? with
  | some sweeper =>
    if sweeper.deadline ≤ store.now then
      { store with
        cache := store.cache.sweep sweeper.deadline
        sweeper := some (.live (sweeper.advance store.now)) }
    else store
  | none => store

/-- The store after an action. -/
def step (store : TagStore) : Action → TagStore
  | .insert url tags => { store with cache := store.cache.insert store.now url tags }
  | .remove url => { store with cache := store.cache.remove url }
  | .clear => { store with cache := store.cache.clear }
  | .sweep time => { store with cache := store.cache.sweep time }
  | .elapse duration => { store with now := store.now + duration }
  | .tick => store.tick
  | .spawn interval => { store with sweeper := some (.spawn store.now interval) }
  | .stop => { store with sweeper := none }

/-- The tags of an image, if they are fresh. -/
def get? (store : TagStore) (url : String) : Option (List ImageTag) :=
  store.cache.get? store.now url

/-- The store after all passes of the sweeper whose deadlines have come. -/
def settle (store : TagStore) : TagStore :=
  match store.live? with
  | some sweeper =>
    let (deadlines, later) := sweeper.due store.now
    { store with
      cache := deadlines.foldl Cache.sweep store.cache
      sweeper := some (.live later) }
  | none => store

/-- The store at a later time. -/
def moveTo (store : TagStore) (time : Nat) : TagStore := { store with now := max store.now time }

theorem live?_moveTo (store : TagStore) (time : Nat) :
    (store.moveTo time).live? = store.live? := rfl

theorem live?_settle (store : TagStore) :
    store.settle.live? = store.live?.map fun sweeper => (sweeper.due store.now).2 := by
  unfold settle
  cases h : store.live? with
  | some sweeper => simp [live?]
  | none => simp [h]

/-- The store when time has passed up to `time`, with the passes of the sweeper that came before.
The sweeper is woken up by a timer. -/
def approach (store : TagStore) (time : Nat) : TagStore :=
  match _h : store.live? with
  | some sweeper =>
    if Duration.fire store.now sweeper.deadline < time then
      (store.moveTo (Duration.fire store.now sweeper.deadline)).settle.approach time
    else store.moveTo time
  | none => store.moveTo time
termination_by time - store.live?.elim time (·.deadline)
decreasing_by
  have htick := Duration.le_fire store.now sweeper.deadline
  generalize Duration.fire store.now sweeper.deadline = tick at *
  have hdue := Sweeper.lt_due_deadline sweeper (store.moveTo tick).now
  rw [live?_settle, live?_moveTo, _h]
  simp only [Option.map_some, Option.elim_some, moveTo] at hdue ⊢
  omega

theorem le_now_approach (store : TagStore) (time : Nat) : time ≤ (store.approach time).now := by
  fun_induction store.approach time with
  | case1 => assumption
  | case2 => exact Nat.le_max_right _ _
  | case3 => exact Nat.le_max_right _ _

/-- The store after a wait during which the sweeper does its work. -/
def sleep (store : TagStore) (duration : Nat) : TagStore :=
  (store.approach (Duration.wake store.now duration)).settle

/-- A request to a store. -/
inductive Command where
  /-- Asks for the tags of an image. -/
  | get (url : String)
  /-- Stores the tags of an image. -/
  | insert (url : String) (tags : List ImageTag)
  /-- Removes the entry of an image. -/
  | remove (url : String)
  /-- Removes all entries. -/
  | clear
  /-- Sweeps the cache at the time of the clock. -/
  | sweepNow
  /-- Sweeps the cache at another time. -/
  | sweepAt (time : Nat)
  /-- Moves the clock forward at once. -/
  | jump (duration : Nat)
  /-- Lets time pass. -/
  | sleep (duration : Nat)
  /-- Starts a sweeper. -/
  | spawn (interval : Nat)
  /-- Stops the sweeper. -/
  | stop
  /-- Asks for how long entries are fresh. -/
  | ttl
deriving DecidableEq

/-- What a command gives back. -/
inductive Reply where
  /-- There is nothing to say. -/
  | done
  /-- The tags of an image, if there are any. -/
  | tags (tags : Option (List ImageTag))
  /-- Whether there was something to remove or to stop. -/
  | existed (existed : Bool)
  /-- The number of entries that were swept out. -/
  | evicted (count : Nat)
  /-- How long entries are fresh. -/
  | ttl (duration : Nat)
deriving DecidableEq

/-- The answer to a command. -/
def reply (store : TagStore) : Command → Reply
  | .get url => .tags (store.get? url)
  | .insert _ tags => .tags (some tags)
  | .remove url => .existed (store.cache.contains url)
  | .sweepNow => .evicted (store.cache.evictions store.now)
  | .sweepAt time => .evicted (store.cache.evictions time)
  | .stop => .existed store.sweeper.isSome
  | .ttl => .ttl store.cache.ttl
  | .clear | .jump _ | .sleep _ | .spawn _ => .done

/-- The store after a command, with a timely sweeper. -/
def perform (store : TagStore) : Command → TagStore
  | .get _ | .ttl => store.settle
  | .insert url tags => (store.step (.insert url tags)).settle
  | .remove url => (store.step (.remove url)).settle
  | .clear => (store.step .clear).settle
  | .sweepNow => (store.step (.sweep store.now)).settle
  | .sweepAt time => (store.step (.sweep time)).settle
  | .jump duration => (store.step (.elapse duration)).settle
  | .sleep duration => store.sleep duration
  | .spawn interval => (store.step (.spawn interval)).settle
  | .stop => (store.step .stop).settle

end TagStore

end LatestTag
