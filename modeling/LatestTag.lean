import LatestTag.Cache
import LatestTag.Config
import LatestTag.Dispatcher
import LatestTag.Error
import LatestTag.Fetch
import LatestTag.Fingerprint
import LatestTag.HostSet
import LatestTag.ImageTag
import LatestTag.Json.Double
import LatestTag.Json.Number
import LatestTag.Json.Options
import LatestTag.Json.Reader
import LatestTag.Json.Record
import LatestTag.Json.Skip
import LatestTag.Json.Text
import LatestTag.Json.Value
import LatestTag.Json.Write
import LatestTag.Options
import LatestTag.Pattern.Brackets
import LatestTag.Pattern.Escape
import LatestTag.Pattern.Expr
import LatestTag.Pattern.Match
import LatestTag.Pattern.Parser
import LatestTag.Pattern.Plan
import LatestTag.Pattern.Reading
import LatestTag.Pattern.Size
import LatestTag.Pattern.Tree
import LatestTag.Pattern.Trie
import LatestTag.Proofs.Alike
import LatestTag.Proofs.BareReference
import LatestTag.Proofs.CacheEntries
import LatestTag.Proofs.CacheHistory
import LatestTag.Proofs.Calendar
import LatestTag.Proofs.Effects
import LatestTag.Proofs.EntryPoints
import LatestTag.Proofs.Failures
import LatestTag.Proofs.HashSteps
import LatestTag.Proofs.Hiding
import LatestTag.Proofs.HostClaims
import LatestTag.Proofs.ImageTagLayout
import LatestTag.Proofs.ImageTagText
import LatestTag.Proofs.JsonGrammar
import LatestTag.Proofs.JsonNumbers
import LatestTag.Proofs.JsonSkipping
import LatestTag.Proofs.JsonStrings
import LatestTag.Proofs.JsonValues
import LatestTag.Proofs.LatePasses
import LatestTag.Proofs.Latest
import LatestTag.Proofs.LetterCase
import LatestTag.Proofs.Lifetime
import LatestTag.Proofs.Numerals
import LatestTag.Proofs.Occurrences
import LatestTag.Proofs.OneImage
import LatestTag.Proofs.OpenRecords
import LatestTag.Proofs.OptionsLayout
import LatestTag.Proofs.OptionsShown
import LatestTag.Proofs.OptionsText
import LatestTag.Proofs.Ownership
import LatestTag.Proofs.Precedence
import LatestTag.Proofs.PrecedenceRules
import LatestTag.Proofs.Provenance
import LatestTag.Proofs.Questions
import LatestTag.Proofs.Race
import LatestTag.Proofs.ReadBack
import LatestTag.Proofs.Recency
import LatestTag.Proofs.RecordEntries
import LatestTag.Proofs.RecordLists
import LatestTag.Proofs.RecordObjects
import LatestTag.Proofs.RecordText
import LatestTag.Proofs.ReferenceParts
import LatestTag.Proofs.Routing
import LatestTag.Proofs.Schedules
import LatestTag.Proofs.Sensitivity
import LatestTag.Proofs.Separation
import LatestTag.Proofs.Shielding
import LatestTag.Proofs.Slots
import LatestTag.Proofs.Stories
import LatestTag.Proofs.StrictForm
import LatestTag.Proofs.SweepTimes
import LatestTag.Proofs.Sweeping
import LatestTag.Proofs.Timely
import LatestTag.Proofs.TimelySchedules
import LatestTag.Proofs.TimestampText
import LatestTag.Proofs.Turns
import LatestTag.Proofs.VersionText
import LatestTag.Proofs.WithoutCall
import LatestTag.Reference
import LatestTag.Request
import LatestTag.Resolver
import LatestTag.Selection
import LatestTag.Session
import LatestTag.Simulation
import LatestTag.Sweeper
import LatestTag.TagPattern
import LatestTag.TagStore
import LatestTag.Text.Cut
import LatestTag.Text.Inspect
import LatestTag.Text.Quoted
import LatestTag.Text.Space
import LatestTag.Time.Calendar
import LatestTag.Time.Duration
import LatestTag.Time.Timestamp
import LatestTag.Unicode.Age
import LatestTag.Unicode.CaseFold
import LatestTag.Unicode.Category
import LatestTag.Unicode.CharSet
import LatestTag.Unicode.Lookup
import LatestTag.Unicode.Property
import LatestTag.Unicode.Script
import LatestTag.Unicode.Segmentation
import LatestTag.Unicode.Utf8
import LatestTag.Unicode.V17
import LatestTag.Version
