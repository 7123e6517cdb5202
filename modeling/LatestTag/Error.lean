import LatestTag.Options
import LatestTag.Time.Duration

/-!
# Errors

Resolving an image to its latest tag fails when the tags cannot be fetched, when there are none, or
when the options leave none. A `FetchError` says why tags could not be fetched and is kept as it is
in the `ResolveError` around it.
-/

namespace LatestTag

/-- Why a registry client could not list the tags of an image. -/
inductive FetchError where
  /-- The request could not be sent, or its response not be read. -/
  | request (message : String)
  /-- The registry answered with a status that is no success. -/
  | status (code : UInt16) (message : String)
  /-- The tags did not arrive in the given time, in nanoseconds. -/
  | timeout (after : Nat)
  /-- The caller cancelled the fetch. -/
  | cancelled
  /-- Anything else. -/
  | other (message : String)
deriving DecidableEq, Repr

namespace FetchError

/-- The error as it is shown to users. -/
def message : FetchError → String
  | request message => "Request failed: " ++ message
  | status code message =>
    "HTTP error from registry: " ++ code.toNat.repr ++ " - " ++ message
  | timeout after => "Timed out after " ++ Duration.text after
  | cancelled => "Fetch cancelled"
  | other message => message

/-- The error as it is shown in diagnostics. -/
def inspect : FetchError → String
  | request message => Text.inspectRecord "Request" [("message", Text.quote message)]
  | status code message =>
    Text.inspectRecord "Status" [("status", code.toNat.repr), ("message", Text.quote message)]
  | timeout after => Text.inspectRecord "Timeout" [("after", Duration.text after)]
  | cancelled => "Cancelled"
  | other message => Text.inspectRecord "Other" [("source", Text.quote message)]

/-- Whether time ran out. -/
def isTimeout : FetchError → Bool
  | timeout _ => true
  | _ => false

/-- Whether the caller cancelled. -/
def isCancelled : FetchError → Bool
  | cancelled => true
  | _ => false

end FetchError

/-- Why an image could not be resolved. -/
inductive ResolveError where
  /-- The tags of the image could not be fetched. -/
  | fetch (url : String) (cause : FetchError)
  /-- The image has no tags. -/
  | emptyResult (url : String)
  /-- The options leave no tag. -/
  | noMatch (options : Options)
deriving DecidableEq

namespace ResolveError

/-- The error as it is shown to users. -/
def message : ResolveError → String
  | fetch url cause =>
    "Failed to get tags from remote registry for " ++ Text.quote url ++ ": " ++ cause.message
  | emptyResult url => "No tags found for image " ++ Text.quote url
  | noMatch options => "No tag found with those option constraints: " ++ options.text

/-- The error as it is shown in diagnostics. -/
def inspect : ResolveError → String
  | fetch url cause =>
    Text.inspectRecord "Fetch" [("image_url", Text.quote url), ("source", cause.inspect)]
  | emptyResult url => Text.inspectRecord "EmptyResult" [("image_url", Text.quote url)]
  | noMatch options => Text.inspectRecord "NoMatch" [("options", options.inspect)]

/-- The fetch error behind the error, if there is one. -/
def cause? : ResolveError → Option FetchError
  | fetch _ cause => some cause
  | _ => none

end ResolveError

end LatestTag
