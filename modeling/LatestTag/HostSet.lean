import LatestTag.Reference
import LatestTag.Text.Inspect

/-!
# Sets of registry hosts

A registry client serves the images of certain hosts. Its `HostSet` lists them by rule: a host by
name, or all proper subdomains of a domain, written `*.` before the domain. Case does not matter in
host names, so both the rules and the host that is asked for are taken in lower case.
-/

namespace LatestTag

open Text (lowerAscii)

/-- One entry of a host set. -/
inductive HostRule where
  /-- The host of this name. -/
  | exact (host : String)
  /-- Every host that ends in a dot and this domain, with something before the dot. -/
  | subdomains (domain : String)
deriving DecidableEq, Repr

namespace HostRule

/-- Reads an entry: `*.` before a domain stands for its subdomains. -/
def ofText (entry : String) : HostRule :=
  match (lowerAscii entry).toList with
  | '*' :: '.' :: domain => .subdomains (.ofList domain)
  | host => .exact (.ofList host)

/-- The entry as it is written. -/
def text : HostRule → String
  | .exact host => host
  | .subdomains domain => "*." ++ domain

/-- Whether a host, given in lower case, falls under the rule. -/
def admits (host : String) : HostRule → Bool
  | .exact name => host == name
  | .subdomains domain =>
    ('.' :: domain.toList).isSuffixOf host.toList && domain.length + 1 < host.length

end HostRule

/-- The hosts a registry client serves, as a list of rules. -/
structure HostSet where
  /-- The rules, in the order in which they were given. -/
  rules : List HostRule
deriving DecidableEq, Repr

namespace HostSet

/-- The host set of the entries. -/
def ofList (entries : List String) : HostSet := ⟨entries.map HostRule.ofText⟩

/-- Whether the registry host of the reference falls under some rule. -/
def contains (hosts : HostSet) (ref : String) : Bool :=
  hosts.rules.any (·.admits (lowerAscii (Reference.registryHost ref)))

/-- The host set as it is shown in diagnostics. -/
def inspect (hosts : HostSet) : String :=
  Text.inspectRecord "HostMatcher"
    [("hosts", Text.inspectList (hosts.rules.map fun rule => Text.quote rule.text))]

end HostSet

end LatestTag
