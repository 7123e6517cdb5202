import LatestTag.Text.Inspect
import LatestTag.Time.Duration

/-!
# Configuration of a resolver

A resolver keeps fetched tags for a time and gives up a fetch after a time. Tags that were kept too
long are swept out in the background, twice in the time for which they are kept, but not more often
than every millisecond.
-/

namespace LatestTag

/-- The configuration of a resolver; durations are in nanoseconds. -/
structure Config where
  /-- How long fetched tags are kept. -/
  cacheTtl : Nat := Duration.ofSeconds 1800
  /-- After what time a fetch is given up, if ever. -/
  fetchTimeout : Option Nat := some (Duration.ofSeconds 30)
deriving DecidableEq, Repr, Inhabited

namespace Config

/-- The time between two sweeps. -/
def sweepInterval (config : Config) : Nat := max (config.cacheTtl / 2) Duration.millisecond

theorem sweepInterval_pos (config : Config) : 0 < config.sweepInterval :=
  Nat.lt_of_lt_of_le (by decide) (Nat.le_max_right _ _)

/-- The configuration as it is shown in diagnostics. -/
def inspect (config : Config) : String :=
  Text.inspectRecord "ResolverConfig" [
    ("cache_ttl", Duration.text config.cacheTtl),
    ("fetch_timeout", Text.inspectOption (config.fetchTimeout.map Duration.text))]

end Config

end LatestTag
