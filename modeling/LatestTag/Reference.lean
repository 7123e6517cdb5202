import LatestTag.Text.Cut

/-!
# Image references

A reference names an image: an optional registry host, the path of a repository on it, and possibly
a tag and a digest, as in `localhost:5000/app:v1@sha256:abc`. The first component of the path is a
host when it looks like one (`LooksLikeHost`); otherwise the image lives on `defaultRegistry` and
the whole reference is its path. Both readings rest on one decision, `splitHost?`, so the host and
the path always belong to the same cut.
-/

namespace LatestTag.Reference

open Text (cutFirst? cutLast?)

/-- The registry of a reference that names none. -/
def defaultRegistry : String := "docker.io"

/-- A path component is taken for a host when it holds a dot or a port, or is `localhost`. -/
def LooksLikeHost (component : List Char) : Prop :=
  '.' ∈ component ∨ ':' ∈ component ∨ component = "localhost".toList

instance (component : List Char) : Decidable (LooksLikeHost component) :=
  inferInstanceAs (Decidable (_ ∨ _ ∨ _))

/-- The host and the path of a reference whose first component looks like a host. -/
def splitHost? (ref : List Char) : Option (List Char × List Char) :=
  (cutFirst? '/' ref).filter fun (first, _) => LooksLikeHost first

/-- The host of the registry that holds the image. -/
def registryHost (ref : String) : String :=
  match splitHost? ref.toList with
  | some (host, _) => .ofList host
  | none => defaultRegistry

/-- The path of the repository on its registry. -/
def repositoryPath (ref : String) : String :=
  match splitHost? ref.toList with
  | some (_, path) => .ofList path
  | none => ref

/-- A path component without its tag, which starts at the last colon. -/
def dropTag (component : List Char) : List Char :=
  match cutLast? ':' component with
  | some (name, _) => name
  | none => component

/-- A reference without its digest, which starts at the first `@`. -/
def dropDigest (ref : List Char) : List Char :=
  match cutFirst? '@' ref with
  | some (name, _) => name
  | none => ref

/-- The reference without tag and digest. Only the last component of the path can carry a tag, so a
colon before it, as in a port, stays. -/
def stripTag (ref : String) : String :=
  let name := dropDigest ref.toList
  .ofList <| match cutLast? '/' name with
    | some (parents, last) => parents ++ '/' :: dropTag last
    | none => dropTag name

end LatestTag.Reference
