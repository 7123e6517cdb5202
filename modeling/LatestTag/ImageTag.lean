import LatestTag.Json.Record
import LatestTag.Time.Timestamp

/-!
# Tags of an image

A registry lists the tags of an image, each with the digest that it points at, if known, and the
time of its last push. Lists of tags come in any order, and may repeat a tag.
-/

namespace LatestTag

open Json (Problem Reader Record)

/-- A tag of an image. -/
structure ImageTag where
  /-- The text of the tag. -/
  tag : String
  /-- The digest that the tag points at, or the empty text. -/
  sha : String
  /-- The time of the last push. -/
  timestamp : Timestamp
deriving DecidableEq, Repr

namespace ImageTag

/-- Whether the digest is known. -/
def hasSha (tag : ImageTag) : Bool := !tag.sha.isEmpty

/-- The tag as it is shown to users, with its digest if that is known. -/
def text (tag : ImageTag) : String :=
  if tag.hasSha then tag.tag ++ "@" ++ tag.sha else tag.tag

/-- The tag as JSON text. -/
def json (tag : ImageTag) : String :=
  Json.writeObject [
    ("tag", Json.writeString tag.tag),
    ("sha", Json.writeString tag.sha),
    ("timestamp", Json.writeString tag.timestamp.text)]

/-- The members that have been read. -/
structure Members where
  /-- The member `tag`. -/
  tag : Option String := none
  /-- The member `sha`. -/
  sha : Option String := none
  /-- The member `timestamp`. -/
  timestamp : Option Timestamp := none
deriving DecidableEq

/-- The tag with these members; only the digest may be missing. `missing` says what is wrong
otherwise, by the name and the position of the member. -/
def Members.imageTag (missing : String → Nat → Problem) (members : Members) :
    Except Problem ImageTag :=
  match members.tag, members.timestamp with
  | none, _ => .error (missing "tag" 0)
  | some _, none => .error (missing "timestamp" 2)
  | some tag, some timestamp => .ok ⟨tag, members.sha.getD "", timestamp⟩

/-- Reads a timestamp. -/
def readTimestamp : Reader Timestamp := do
  let text ← Reader.string "an RFC 3339 formatted date and time string"
  match Timestamp.ofText? text with
  | some timestamp => return timestamp
  | none => Reader.fail .unreadable

/-- Tags as a record. Members that are no fields are skipped. -/
def record : Record Members ImageTag where
  name := "struct ImageTag"
  fields := [
    { name := "tag"
      isFilled := fun members => members.tag.isSome
      fill := fun members => do return { members with tag := some (← Reader.string "a string") } },
    { name := "sha"
      isFilled := fun members => members.sha.isSome
      fill := fun members => do return { members with sha := some (← Reader.string "a string") } },
    { name := "timestamp"
      isFilled := fun members => members.timestamp.isSome
      fill := fun members => do return { members with timestamp := some (← readTimestamp) } }]
  isClosed := false
  empty := {}
  ofMembers := Members.imageTag fun name _ => .unsuitable ("missing field `" ++ name ++ "`")
  ofItems := Members.imageTag fun _ position =>
    .unsuitable ("invalid length " ++ position.repr ++ ", expected struct ImageTag with 3 elements")

/-- The tag that a JSON text holds. -/
def ofJson (text : String) : Except Problem ImageTag := record.reader.run text

end ImageTag

end LatestTag
