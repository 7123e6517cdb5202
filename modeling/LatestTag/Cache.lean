import LatestTag.ImageTag

/-!
# The tag cache

The cache keeps the tags of an image from one fetch, under the reference of the image, together with
the time when they were stored. They are handed out while they are fresh, which is for `ttl`
nanoseconds; after that the entry stays, but nobody gets it, until a sweep takes it out. A sweep
goes by the time it is given, which may be any time; measured at a time before it was stored an
entry has no age.
-/

namespace LatestTag

/-- The tags of an image and the time when they were stored. -/
structure CacheEntry where
  /-- The time when the tags were stored. -/
  storedAt : Nat
  /-- The tags. -/
  tags : List ImageTag
deriving DecidableEq, Repr

/-- Whether the entry is younger than `ttl`. -/
def CacheEntry.isFresh (entry : CacheEntry) (ttl now : Nat) : Bool := now - entry.storedAt < ttl

/-- The tags of images, with at most one entry for each image. -/
structure Cache where
  /-- How long an entry is fresh. -/
  ttl : Nat
  /-- The entries, each under the reference of its image. -/
  entries : List (String × CacheEntry)
  /-- No image has two entries. -/
  nodup : (entries.map (·.1)).Nodup

namespace Cache

/-- A cache without entries. -/
def empty (ttl : Nat) : Cache := ⟨ttl, [], by simp⟩

/-- The cache with only the entries that pass a test. -/
def filter (cache : Cache) (keeps : String → CacheEntry → Bool) : Cache where
  ttl := cache.ttl
  entries := cache.entries.filter fun (url, entry) => keeps url entry
  nodup := cache.nodup.sublist (List.filter_sublist.map _)

/-- The entry of an image, fresh or not. -/
def find? (cache : Cache) (url : String) : Option CacheEntry := cache.entries.lookup url

/-- The tags of an image, if they are fresh. -/
def get? (cache : Cache) (now : Nat) (url : String) : Option (List ImageTag) :=
  ((cache.find? url).filter (·.isFresh cache.ttl now)).map (·.tags)

/-- The cache without the entry of an image. -/
def remove (cache : Cache) (url : String) : Cache := cache.filter fun key _ => key != url

/-- The cache with the tags of an image, stored now, in place of those it had. -/
def insert (cache : Cache) (now : Nat) (url : String) (tags : List ImageTag) : Cache where
  ttl := cache.ttl
  entries := (url, ⟨now, tags⟩) :: (cache.remove url).entries
  nodup := by
    refine List.nodup_cons.2 ⟨?_, (cache.remove url).nodup⟩
    simp [remove, filter]

/-- The cache without entries. -/
def clear (cache : Cache) : Cache := empty cache.ttl

/-- The cache without the entries that are not fresh at a time. -/
def sweep (cache : Cache) (time : Nat) : Cache :=
  cache.filter fun _ entry => entry.isFresh cache.ttl time

/-- The number of entries, fresh or not. -/
def size (cache : Cache) : Nat := cache.entries.length

/-- The number of entries that a sweep at a time takes out. -/
def evictions (cache : Cache) (time : Nat) : Nat := cache.size - (cache.sweep time).size

/-- Whether the cache holds an entry for the image, fresh or not. -/
def contains (cache : Cache) (url : String) : Bool := (cache.find? url).isSome

end Cache

end LatestTag
