import LatestTag.Dispatcher
import LatestTag.Fetch
import LatestTag.Request
import LatestTag.TagStore

/-!
# The resolver

A resolver answers requests from its cache while the tags there are fresh, and else has the client
that serves the image fetch them. A fetch that brings tags stores them; one that fails or brings
none leaves the cache alone. Requests may be under way together. None waits for another, so several
may fetch the tags of one image, and the last one that is done owns the entry.

A `Call` is a request under way. It goes on when it is polled, and then goes as far as it can at
that instant.
-/

namespace LatestTag

/-- A resolver. -/
structure Resolver where
  /-- The configuration. -/
  config : Config
  /-- The registry clients. -/
  dispatcher : Dispatcher
  /-- The cache. -/
  store : TagStore

/-- How far a call has come. -/
inductive Progress where
  /-- It will begin at some instant. -/
  | pending (start : Nat)
  /-- It waits for a fetch. -/
  | fetching (fetch : Fetch)
  /-- It has ended at some instant. -/
  | ended (time : Nat) (outcome : Outcome)

/-- A request under way. -/
structure Call where
  /-- The request. -/
  request : Request
  /-- How far the call has come. -/
  progress : Progress
  /-- Whether the call has asked a registry client for tags. -/
  hasAsked : Bool := false

namespace Call

/-- When the call can go on, if it has not ended. -/
def wake? (call : Call) : Option Nat :=
  match call.progress with
  | .pending start => some start
  | .fetching fetch => some fetch.ending
  | .ended _ _ => none

/-- How the call has ended, if it has. -/
def outcome? (call : Call) : Option Outcome :=
  match call.progress with
  | .ended _ outcome => some outcome
  | _ => none

/-- How many times the call goes on at most. -/
def remaining (call : Call) : Nat :=
  match call.progress with
  | .pending _ => 2
  | .fetching _ => 1
  | .ended _ _ => 0

end Call

namespace Resolver

/-- A resolver at the time zero, with a sweeper for its cache. -/
def new (config : Config) (dispatcher : Dispatcher) : Resolver where
  config := config
  dispatcher := dispatcher
  store :=
    { cache := .empty config.cacheTtl
      sweeper := some (.live (.start 0 config.sweepInterval config.sweepInterval_pos)) }

/-- The end of a request that needs no fetch: the signal is there already, or the tags are fresh. -/
def immediate? (resolver : Resolver) (request : Request) : Option Outcome :=
  if request.signal = some 0 then some (request.failed .cancelled)
  else (resolver.store.get? request.url).map request.answered

/-- The fetch for a request that begins now, from the client that serves the image. -/
def fetch (resolver : Resolver) (request : Request) (clients : Clients) : Fetch where
  began := resolver.store.now
  behaviour := clients (resolver.dispatcher.position? request.url) request.url
  timeout := request.timeout resolver.config
  signal := request.signal

/-- The end of a fetch: tags are stored, and the request is answered. -/
def conclude (resolver : Resolver) (request : Request) :
    Except FetchError (List ImageTag) → Resolver × Outcome
  | .error cause => (resolver, request.failed cause)
  | .ok [] => (resolver, .error (.emptyResult request.url))
  | .ok (tag :: tags) =>
    ({ resolver with store := resolver.store.step (.insert request.url (tag :: tags)) },
      request.answered (tag :: tags))

/-- The call ends. -/
def finish (resolver : Resolver) (call : Call) (outcome : Outcome) : Resolver × Call :=
  (resolver, { call with progress := .ended resolver.store.now outcome })

/-- The call waits for the fetch, and ends if that has. -/
def await (resolver : Resolver) (call : Call) (fetch : Fetch) : Resolver × Call :=
  match fetch.result? resolver.store.now with
  | some result =>
    let (resolver, outcome) := resolver.conclude call.request result
    resolver.finish call outcome
  | none => (resolver, { call with progress := .fetching fetch })

/-- The call begins. If it needs tags it asks the client that serves the image. -/
def begin (resolver : Resolver) (call : Call) (clients : Clients) : Resolver × Call :=
  match resolver.immediate? call.request with
  | some outcome => resolver.finish call outcome
  | none =>
    resolver.await { call with hasAsked := true } (resolver.fetch call.request clients)

/-- The call goes on as far as it can. -/
def poll (resolver : Resolver) (call : Call) (clients : Clients) : Resolver × Call :=
  match call.progress with
  | .pending start =>
    if start ≤ resolver.store.now then resolver.begin call clients else (resolver, call)
  | .fetching fetch => resolver.await call fetch
  | .ended _ _ => (resolver, call)

/-- Whether the call, if it is polled, begins and asks a registry client for tags. -/
def asks (resolver : Resolver) (call : Call) : Bool :=
  match call.progress with
  | .pending start =>
    decide (start ≤ resolver.store.now) && (resolver.immediate? call.request).isNone
  | _ => false

theorem remaining_await_le (resolver : Resolver) (call : Call) (fetch : Fetch) :
    (resolver.await call fetch).2.remaining ≤ 1 := by
  unfold await
  split <;> simp [finish, Call.remaining]

/-- A call that can go on does so when it is polled. -/
theorem remaining_poll_lt (resolver : Resolver) (call : Call) (clients : Clients) {wake : Nat}
    (hwake : call.wake? = some wake) (hnow : wake ≤ resolver.store.now) :
    (resolver.poll call clients).2.remaining < call.remaining := by
  obtain ⟨request, progress, hasAsked⟩ := call
  cases progress with
  | pending start =>
    have hstart : start ≤ resolver.store.now := by simp_all [Call.wake?]
    have hle := remaining_await_le resolver
      { request, progress := .pending start, hasAsked := true } (resolver.fetch request clients)
    simp only [poll, if_pos hstart, begin]
    split
    · simp [finish, Call.remaining]
    · exact Nat.lt_succ_of_le hle
  | fetching fetch =>
    have hending : fetch.ending ≤ resolver.store.now := by simp_all [Call.wake?]
    obtain ⟨result, hresult⟩ :=
      Option.isSome_iff_exists.1 ((fetch.result?_isSome_iff resolver.store.now).2 hending)
    simp [poll, await, hresult, finish, Call.remaining]
  | ended time outcome => simp [Call.wake?] at hwake

end Resolver

end LatestTag
