import LatestTag.TagPattern

/-!
# Selection options

Options say which tag of an image is the latest one. By default that is the tag with the greatest
version among those that the other settings leave: pre-releases count only if asked for, pins fix
components of the version, and a pattern has to match the text of the tag. With `useSha` it is the
tag that was pushed last, and no other setting matters.

The same six settings occur twice: in a `Draft`, where the pattern is any text, and in `Options`,
where it is a pattern that compiles. `Draft.build` goes from one to the other.
-/

namespace LatestTag

/-- The six settings, with patterns in `π`. -/
structure Policy (π : Type) where
  /-- Whether the tag pushed last is taken, whatever its text. -/
  useSha : Bool := false
  /-- Whether pre-releases count. -/
  usePreRelease : Bool := false
  /-- The major version to stay at. -/
  pinMajor : Option UInt64 := none
  /-- The minor version to stay at. -/
  pinMinor : Option UInt64 := none
  /-- The patch version to stay at. -/
  pinPatch : Option UInt64 := none
  /-- The pattern that has to match. -/
  pattern : Option π := none
deriving DecidableEq, Hashable, Inhabited

/-- Settings with the text of a pattern that need not compile. -/
abbrev Draft := Policy String

/-- Settings with a pattern that compiles. -/
abbrev Options := Policy TagPattern

/-- The text of a pattern that is no pattern. -/
structure InvalidPattern where
  /-- The text. -/
  pattern : String
deriving DecidableEq, Repr

/-- The message that names the text. -/
def InvalidPattern.message (invalid : InvalidPattern) : String :=
  "Invalid tag pattern '" ++ invalid.pattern ++ "'"

/-- One step in drafting options. -/
inductive Setting where
  /-- Whether the tag pushed last is taken. -/
  | useSha (enabled : Bool)
  /-- Whether pre-releases count. -/
  | usePreRelease (enabled : Bool)
  /-- The major version to stay at. -/
  | pinMajor (version : UInt64)
  /-- The minor version to stay at. -/
  | pinMinor (version : UInt64)
  /-- The patch version to stay at. -/
  | pinPatch (version : UInt64)
  /-- The pattern that has to match. -/
  | pattern (source : String)
deriving DecidableEq, Repr

namespace Draft

/-- The draft with one setting changed. -/
def set (draft : Draft) : Setting → Draft
  | .useSha enabled => { draft with useSha := enabled }
  | .usePreRelease enabled => { draft with usePreRelease := enabled }
  | .pinMajor version => { draft with pinMajor := some version }
  | .pinMinor version => { draft with pinMinor := some version }
  | .pinPatch version => { draft with pinPatch := some version }
  | .pattern source => { draft with pattern := some source }

/-- The draft that the settings make in order, from the default; later ones win. -/
def ofSettings (settings : List Setting) : Draft := settings.foldl set {}

/-- The options of a draft, if its pattern compiles. -/
def build (draft : Draft) : Except InvalidPattern Options :=
  let withPattern (pattern : Option TagPattern) : Options := { draft with pattern := pattern }
  match draft.pattern with
  | none => .ok (withPattern none)
  | some source =>
    match TagPattern.ofText? source with
    | some pattern => .ok (withPattern (some pattern))
    | none => .error ⟨source⟩

end Draft

namespace Options

/-- A pin as it is shown to users. -/
def pinText : Option UInt64 → String
  | some version => version.toNat.repr
  | none => "-"

/-- The options as they are shown to users. -/
def text (options : Options) : String :=
  let pattern := match options.pattern with
    | some pattern => Text.quote pattern.source
    | none => "-"
  "\x7buse_sha: " ++ Text.inspectBool options.useSha
    ++ ", use_pre_release: " ++ Text.inspectBool options.usePreRelease
    ++ ", pin_major: " ++ pinText options.pinMajor
    ++ ", pin_minor: " ++ pinText options.pinMinor
    ++ ", pin_patch: " ++ pinText options.pinPatch
    ++ ", regex: " ++ pattern ++ "\x7d"

/-- The options as they are shown in diagnostics. -/
def inspect (options : Options) : String :=
  let pin (version : Option UInt64) := Text.inspectOption (version.map (·.toNat.repr))
  Text.inspectRecord "Options" [
    ("use_sha", Text.inspectBool options.useSha),
    ("use_pre_release", Text.inspectBool options.usePreRelease),
    ("pin_major", pin options.pinMajor),
    ("pin_minor", pin options.pinMinor),
    ("pin_patch", pin options.pinPatch),
    ("regex_matcher", Text.inspectOption (options.pattern.map TagPattern.inspect))]

end Options

end LatestTag
