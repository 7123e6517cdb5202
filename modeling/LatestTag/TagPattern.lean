import LatestTag.Pattern.Match
import LatestTag.Pattern.Parser
import LatestTag.Pattern.Size
import LatestTag.Text.Inspect

/-!
# Tag patterns

A `TagPattern` is a regular expression that the text of a tag may have to match, somewhere within
it. It keeps the text it was made from, and the text determines the rest: two patterns with the same
text are equal.
-/

namespace LatestTag

open Pattern (Expr Plan parse? interpret)

/-- The regular expression that a text is, unless it is malformed or too large. -/
def Pattern.compile? (source : String) : Option Expr := do
  let (expr, _) ← interpret {} (← parse? source)
  if (Plan.ofExpr expr).fits then some expr else none

/-- A regular expression for tags. -/
structure TagPattern where
  /-- The text of the pattern. -/
  source : String
  /-- The expression of the pattern. -/
  expr : Expr
  /-- The expression is that of the text. -/
  compiled : Pattern.compile? source = some expr

namespace TagPattern

/-- The pattern with that text, if there is one. -/
def ofText? (source : String) : Option TagPattern :=
  match h : Pattern.compile? source with
  | some expr => some ⟨source, expr, h⟩
  | none => none

/-- Whether the pattern matches somewhere in the tag. -/
def isMatch (pattern : TagPattern) (tag : String) : Bool := pattern.expr.isMatch tag

/-- The pattern as it is shown in diagnostics. -/
def inspect (pattern : TagPattern) : String :=
  Text.inspectTuple "TagMatcher" (Text.quote pattern.source)

theorem eq_iff_source_eq {p q : TagPattern} : p = q ↔ p.source = q.source := by
  constructor
  · rintro rfl; rfl
  · intro h
    obtain ⟨source, expr, hp⟩ := p
    obtain ⟨source', expr', hq⟩ := q
    cases h
    have : expr = expr' := Option.some.inj (hp.symm.trans hq)
    cases this
    rfl

instance : DecidableEq TagPattern := fun _ _ => decidable_of_iff' _ eq_iff_source_eq

instance : Hashable TagPattern := ⟨fun pattern => hash pattern.source⟩

theorem ofText?_source (pattern : TagPattern) : ofText? pattern.source = some pattern := by
  unfold ofText?
  split
  · next expr h => exact congrArg some (eq_iff_source_eq.2 rfl)
  · next h => rw [pattern.compiled] at h; cases h

end TagPattern

end LatestTag
