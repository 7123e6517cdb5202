import LatestTag.Config
import LatestTag.Error
import LatestTag.Selection

/-!
# Requests to a resolver

A resolver answers with all tags of an image or with the latest one. The latest one can also be
asked for with a time limit of one's own, or until a signal tells to give up. A fetch that a request
needs is given up after the time limit of the request if it has one, else after that of the
configuration, and when the signal comes.
-/

namespace LatestTag

/-- What is asked about an image. -/
inductive Query where
  /-- All tags. -/
  | allTags
  /-- The latest tag. -/
  | latest (options : Options)
  /-- The latest tag, with a time limit for the fetch. -/
  | latestWithin (options : Options) (timeout : Nat)
  /-- The latest tag, unless a signal comes before the fetch is done. The signal comes some time
  after the request, at once if that is zero, or never. -/
  | latestUnless (options : Options) (signal : Option Nat)
deriving DecidableEq

/-- A request about an image. -/
structure Request where
  /-- The reference of the image. -/
  url : String
  /-- What is asked. -/
  query : Query
deriving DecidableEq

/-- What a request is answered with. -/
inductive Answer where
  /-- All tags. -/
  | tags (tags : List ImageTag)
  /-- The latest tag. -/
  | latest (tag : ImageTag)
deriving DecidableEq, Repr

/-- How a request ends. -/
abbrev Outcome := Except ResolveError Answer

namespace Request

/-- The time limit for a fetch, if there is one. -/
def timeout (request : Request) (config : Config) : Option Nat :=
  match request.query with
  | .latestWithin _ timeout => some timeout
  | _ => config.fetchTimeout

/-- The time after which the signal to give up comes, if it ever does. -/
def signal (request : Request) : Option Nat :=
  match request.query with
  | .latestUnless _ signal => signal
  | _ => none

/-- The end of the request for want of the tags. -/
def failed (request : Request) (cause : FetchError) : Outcome :=
  .error (.fetch request.url cause)

/-- The latest of the tags of an image. -/
def latest (options : Options) (tags : List ImageTag) : Outcome :=
  match select? options tags with
  | some tag => .ok (.latest tag)
  | none => .error (.noMatch options)

/-- The end of the request for which the image has the tags. -/
def answered (request : Request) (tags : List ImageTag) : Outcome :=
  match request.query with
  | .allTags => .ok (.tags tags)
  | .latest options | .latestWithin options _ | .latestUnless options _ => latest options tags

end Request

end LatestTag
