import LatestTag.Json.Record
import LatestTag.Options

/-!
# Options in JSON

Options are written as an object with all six members in a fixed order, which fingerprints depend
on. They are read from any object with some of these members and no others; a missing member stands
for the default.
-/

namespace LatestTag.Options

open Json (Field Problem Reader Record)

/-- The options as JSON text. -/
def json (options : Options) : String :=
  let pin := Json.writeOption fun (version : UInt64) => Json.writeNat version.toNat
  Json.writeObject [
    ("useSha", Json.writeBool options.useSha),
    ("usePreRelease", Json.writeBool options.usePreRelease),
    ("pinMajor", pin options.pinMajor),
    ("pinMinor", pin options.pinMinor),
    ("pinPatch", pin options.pinPatch),
    ("regexMatcher", Json.writeOption (fun p => Json.writeString p.source) options.pattern)]

/-- The members that have been read. -/
structure Members where
  /-- The member `useSha`. -/
  useSha : Option Bool := none
  /-- The member `usePreRelease`. -/
  usePreRelease : Option Bool := none
  /-- The member `pinMajor`. -/
  pinMajor : Option (Option UInt64) := none
  /-- The member `pinMinor`. -/
  pinMinor : Option (Option UInt64) := none
  /-- The member `pinPatch`. -/
  pinPatch : Option (Option UInt64) := none
  /-- The member `regexMatcher`. -/
  regexMatcher : Option (Option TagPattern) := none
deriving DecidableEq

/-- The options with these members and the defaults for the others. -/
def Members.options (members : Members) : Options where
  useSha := members.useSha.getD false
  usePreRelease := members.usePreRelease.getD false
  pinMajor := members.pinMajor.getD none
  pinMinor := members.pinMinor.getD none
  pinPatch := members.pinPatch.getD none
  pattern := members.regexMatcher.getD none

/-- Reads a pattern, which has to compile. -/
def readPattern : Reader TagPattern := do
  let source ← Reader.string "a string"
  match TagPattern.ofText? source with
  | some pattern => return pattern
  | none => Reader.fail (.unsuitable (InvalidPattern.message ⟨source⟩))

/-- Options as a record. -/
def record : Record Members Options where
  name := "struct Options"
  fields := [
    { name := "useSha"
      isFilled := fun members => members.useSha.isSome
      fill := fun members => do return { members with useSha := some (← Reader.bool) } },
    { name := "usePreRelease"
      isFilled := fun members => members.usePreRelease.isSome
      fill := fun members => do return { members with usePreRelease := some (← Reader.bool) } },
    { name := "pinMajor"
      isFilled := fun members => members.pinMajor.isSome
      fill := fun members => do
        return { members with pinMajor := some (← Reader.option Reader.uint64) } },
    { name := "pinMinor"
      isFilled := fun members => members.pinMinor.isSome
      fill := fun members => do
        return { members with pinMinor := some (← Reader.option Reader.uint64) } },
    { name := "pinPatch"
      isFilled := fun members => members.pinPatch.isSome
      fill := fun members => do
        return { members with pinPatch := some (← Reader.option Reader.uint64) } },
    { name := "regexMatcher"
      isFilled := fun members => members.regexMatcher.isSome
      fill := fun members => do
        return { members with regexMatcher := some (← Reader.option readPattern) } }]
  isClosed := true
  empty := {}
  ofMembers := fun members => .ok members.options
  ofItems := fun members => .ok members.options

/-- The options that a JSON text holds. -/
def ofJson (text : String) : Except Problem Options := record.reader.run text

end LatestTag.Options
