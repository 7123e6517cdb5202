/-!
# Cutting text at a separator

References, host names and versions are taken apart at single characters: a `/` between path
components, an `@` before a digest, a `:` before a tag, a `+` before build metadata. This file holds
the two cuts that all of them use, at the first and at the last occurrence of a separator. Each has
one characterising lemma: `cutFirst?_eq_some_iff` and `cutLast?_eq_some_iff` say that the parts and
the separator make up the text again and on which side no further separator stands; the two lemmas
for `none` say that a cut fails only where the separator is absent.
-/

namespace LatestTag.Text

/-- The text before and the text after the first `sep`. -/
def cutFirst? (sep : Char) : List Char → Option (List Char × List Char)
  | [] => none
  | c :: rest =>
    if c = sep then some ([], rest)
    else (cutFirst? sep rest).map fun (before, after) => (c :: before, after)

/-- The text before and the text after the last `sep`. -/
def cutLast? (sep : Char) : List Char → Option (List Char × List Char)
  | [] => none
  | c :: rest =>
    match cutLast? sep rest with
    | some (before, after) => some (c :: before, after)
    | none => if c = sep then some ([], rest) else none

/-- The text with its ASCII letters in lower case; all other characters stay. -/
def lowerAscii (s : String) : String := .ofList (s.toList.map Char.toLower)

variable {sep : Char} {s before after : List Char}

theorem cutFirst?_eq_none_iff : cutFirst? sep s = none ↔ sep ∉ s := by
  induction s with
  | nil => simp [cutFirst?]
  | cons c rest ih =>
    by_cases h : c = sep
    · simp [cutFirst?, h]
    · simp [cutFirst?, h, ih, Ne.symm h]

theorem cutFirst?_eq_some_iff :
    cutFirst? sep s = some (before, after) ↔ s = before ++ sep :: after ∧ sep ∉ before := by
  induction s generalizing before with
  | nil => simp [cutFirst?]
  | cons c rest ih =>
    by_cases h : c = sep
    · subst h
      cases before with
      | nil => simp [cutFirst?, eq_comm]
      | cons b bs => simp [cutFirst?]; rintro rfl; simp
    · cases before with
      | nil => simp [cutFirst?, h]
      | cons b bs =>
        simp [cutFirst?, h, ih]
        constructor
        · rintro ⟨⟨rfl, hnot⟩, rfl⟩
          exact ⟨⟨rfl, rfl⟩, Ne.symm h, hnot⟩
        · rintro ⟨⟨rfl, rfl⟩, _, hnot⟩
          exact ⟨⟨rfl, hnot⟩, rfl⟩

theorem cutLast?_eq_none_iff : cutLast? sep s = none ↔ sep ∉ s := by
  induction s with
  | nil => simp [cutLast?]
  | cons c rest ih =>
    cases hr : cutLast? sep rest with
    | none =>
      by_cases h : c = sep
      · simp [cutLast?, hr, h]
      · simp [cutLast?, hr, h, ih.1 hr, Ne.symm h]
    | some p =>
      have : sep ∈ rest := by
        apply Classical.byContradiction
        intro hn
        rw [ih.2 hn] at hr
        cases hr
      simp [cutLast?, hr, this]

theorem cutLast?_eq_some_iff :
    cutLast? sep s = some (before, after) ↔ s = before ++ sep :: after ∧ sep ∉ after := by
  induction s generalizing before with
  | nil => simp [cutLast?]
  | cons c rest ih =>
    cases hr : cutLast? sep rest with
    | none =>
      have hnot : sep ∉ rest := cutLast?_eq_none_iff.1 hr
      simp only [cutLast?, hr]
      cases before with
      | nil =>
        by_cases h : c = sep
        · subst h; simp; rintro rfl; exact hnot
        · simp [h]
      | cons b bs =>
        constructor
        · intro h; split at h <;> simp at h
        · rintro ⟨h, _⟩
          simp at h
          exact absurd (by simp [h.2]) hnot
    | some p =>
      obtain ⟨b', a'⟩ := p
      have hp := (@ih b').1
      simp only [cutLast?, hr]
      cases before with
      | nil =>
        constructor
        · intro h; simp at h
        · rintro ⟨h, hnot⟩
          simp at h
          have : cutLast? sep rest = none := cutLast?_eq_none_iff.2 (h.2 ▸ hnot)
          rw [this] at hr
          cases hr
      | cons b bs =>
        rw [Option.some.injEq, Prod.mk.injEq, List.cons.injEq]
        have hih := @ih bs
        rw [hr, Option.some.injEq, Prod.mk.injEq] at hih
        constructor
        · rintro ⟨⟨rfl, hb⟩, ha⟩
          have := hih.1 ⟨hb, ha⟩
          exact ⟨by simp [this.1], this.2⟩
        · rintro ⟨h, hnot⟩
          simp at h
          have := hih.2 ⟨h.2, hnot⟩
          exact ⟨⟨h.1, this.1⟩, this.2⟩

end LatestTag.Text
