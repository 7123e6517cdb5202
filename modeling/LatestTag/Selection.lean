import LatestTag.ImageTag
import LatestTag.Options
import LatestTag.Version

/-!
# Selecting the latest tag

Among the tags of an image the latest one is the first that none of the others exceeds: by version,
among the tags that the options leave, or by the time of the last push, among all tags.
-/

namespace LatestTag

/-- Whether a pin leaves the version number. -/
def pinAdmits (pin : Option UInt64) (number : UInt64) : Bool := pin.all (· == number)

namespace Options

/-- Whether the options leave a tag with that version. -/
def admits (options : Options) (tag : String) (version : Version) : Bool :=
  options.pattern.all (·.isMatch tag) && (!version.isPre || options.usePreRelease)
    && pinAdmits options.pinMajor version.major && pinAdmits options.pinMinor version.minor
    && pinAdmits options.pinPatch version.patch

/-- The version of a tag that the options leave. -/
def eligible? (options : Options) (tag : ImageTag) : Option Version :=
  (Version.ofTag? tag.tag).filter (options.admits tag.tag)

end Options

/-- The first entry whose key no other key exceeds; `exceeds` compares a key with an earlier one. -/
def firstGreatest {α β : Type} (exceeds : β → β → Bool) : List (α × β) → Option (α × β)
  | [] => none
  | entry :: entries =>
    some (entries.foldl (fun best entry => if exceeds entry.2 best.2 then entry else best) entry)

theorem firstGreatest_mem {α β : Type} {exceeds : β → β → Bool} {entries : List (α × β)}
    {entry : α × β} (h : firstGreatest exceeds entries = some entry) : entry ∈ entries := by
  have foldl_mem (entries : List (α × β)) (first : α × β) :
      entries.foldl (fun best entry => if exceeds entry.2 best.2 then entry else best) first ∈
        first :: entries := by
    induction entries generalizing first with
    | nil => simp
    | cons second entries ih =>
      have := ih (if exceeds second.2 first.2 then second else first)
      simp only [List.foldl_cons, List.mem_cons] at this ⊢
      grind
  cases entries with
  | nil => simp [firstGreatest] at h
  | cons first entries =>
    obtain rfl := Option.some.inj h
    exact foldl_mem entries first

namespace Selection

/-- The position of the latest tag by version. -/
def byVersion? (options : Options) (tags : List ImageTag) : Option Nat :=
  let entries := tags.zipIdx.filterMap fun (tag, i) =>
    (options.eligible? tag).map fun version => (i, version)
  (firstGreatest (fun v best => v.compare best == .gt) entries).map (·.1)

/-- The position of the tag that was pushed last. -/
def byPush? (tags : List ImageTag) : Option Nat :=
  let entries := tags.zipIdx.map fun (tag, i) => (i, tag.timestamp)
  (firstGreatest (fun t best => best.lt t) entries).map (·.1)

/-- The position of the latest tag. -/
def position? (options : Options) (tags : List ImageTag) : Option Nat :=
  if options.useSha then byPush? tags else byVersion? options tags

end Selection

/-- The latest tag. -/
def select? (options : Options) (tags : List ImageTag) : Option ImageTag :=
  (Selection.position? options tags).bind (tags[·]?)

end LatestTag
