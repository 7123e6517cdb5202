import LatestTag.Error
import LatestTag.Proofs.Numerals
import LatestTag.Text.Cut
import Mathlib.Logic.Function.Basic

/-!
# The text shown for options tells them

The message that no tag is left shows the options, so that the user sees which setting is in the
way. The text has the pattern in it, which may be any text, with commas, dashes and braces; so what
the text stands for depends on how the pattern is quoted.

> `isPrefixFree_quoteCharHiding`: what stands for a character between quotes is never the beginning
> of what stands for another one.
> `found_textHiding`: options are found again by the text shown for them, whatever follows.
> `shown_text_tells_options`: options with the same text are the same, and so are those of two
> messages that are the same.

Which characters are written by their code point is a matter of the version of Unicode. Nothing here
depends on it: the set is a parameter, and `Text.needsCodePoint` is one of them.
-/

namespace LatestTag

/-! ## Codes -/

/-- What stands for a value is never the beginning of what stands for another one, so the value is
found again by it, and where it ends, whatever follows. -/
def IsPrefixFree {α : Type} (code : α → List Char) : Prop :=
  ∀ ⦃a b : α⦄ ⦃s t : List Char⦄, code a ++ s = code b ++ t → a = b ∧ s = t

/-- Nothing that stands for a value begins with the mark. -/
def Avoids {α : Type} (code : α → List Char) (mark : Char) : Prop :=
  ∀ a s t, code a ++ s ≠ mark :: t

namespace IsPrefixFree

variable {α : Type} {code : α → List Char} {mark : Char}

/-- The same for texts that are strings. -/
theorem found {code : α → String} (hcode : IsPrefixFree fun a => (code a).toList) {a b : α}
    {s t : String} (h : code a ++ s = code b ++ t) : a = b ∧ s = t := by
  have hlist : (code a).toList ++ s.toList = (code b).toList ++ t.toList := by
    rw [← String.toList_append, ← String.toList_append, h]
  obtain ⟨hab, hst⟩ := hcode hlist
  exact ⟨hab, String.toList_inj.1 hst⟩

/-- A mark ends what it does not occur in. -/
theorem terminated (hinj : Function.Injective code) (hmark : ∀ a, mark ∉ code a) :
    IsPrefixFree fun a => code a ++ [mark] := by
  intro a b s t h
  have h : code a ++ mark :: s = code b ++ mark :: t := by simpa using h
  -- the text before the first mark is the same, and so is the text after it
  have ha : Text.cutFirst? mark (code a ++ mark :: s) = some (code a, s) :=
    Text.cutFirst?_eq_some_iff.2 ⟨rfl, hmark a⟩
  have hb : Text.cutFirst? mark (code a ++ mark :: s) = some (code b, t) :=
    Text.cutFirst?_eq_some_iff.2 ⟨h, hmark b⟩
  obtain ⟨hab, hst⟩ := Prod.mk.inj (Option.some.inj (ha.symm.trans hb))
  exact ⟨hinj hab, hst⟩

/-- A mark ends a sequence if nothing in it begins with the mark. -/
theorem sequence (hcode : IsPrefixFree code) (hmark : Avoids code mark) :
    IsPrefixFree fun as : List α => as.flatMap code ++ [mark] := by
  intro as
  induction as with
  | nil =>
    rintro (_ | ⟨b, bs⟩) s t h
    · exact ⟨rfl, List.tail_eq_of_cons_eq h⟩
    · simp only [List.flatMap_cons, List.append_assoc] at h
      exact absurd h.symm (hmark b _ _)
  | cons a as ih =>
    rintro (_ | ⟨b, bs⟩) s t h <;> simp only [List.flatMap_cons, List.append_assoc] at h
    · exact absurd h (hmark a _ _)
    · obtain ⟨rfl, hrest⟩ := hcode h
      rw [← List.append_assoc, ← List.append_assoc (bs.flatMap code)] at hrest
      obtain ⟨rfl, rfl⟩ := ih hrest
      exact ⟨rfl, rfl⟩

end IsPrefixFree

/-! ## Quoted texts -/

namespace Text

/-- The characters with a short escape, and the letters that stand for them behind a backslash. -/
def shortEscapes : List (Char × Char) :=
  [('"', '"'), ('\\', '\\'), ('\n', 'n'), ('\r', 'r'), ('\t', 't'), ('\x00', '0')]

/-- A character by its code point, behind the backslash. -/
def codePoint (c : Char) : List Char := ['u', '\x7b'] ++ hexDigits c.toNat ++ ['\x7d']

variable (hidden : Char → Bool)

/-- A character as it stands between quotes, if the hidden ones are written by their code point. -/
def quoteCharHiding (c : Char) : List Char :=
  match shortEscapes.lookup c with
  | some letter => ['\\', letter]
  | none => if hidden c then '\\' :: codePoint c else [c]

/-- The text between double quotes, if the hidden characters are written by their code point. -/
def quoteHiding (s : String) : String :=
  .ofList ('"' :: s.toList.flatMap (quoteCharHiding hidden) ++ ['"'])

theorem quoteCharHiding_needsCodePoint : quoteCharHiding needsCodePoint = quoteChar := by
  funext c
  unfold quoteCharHiding quoteChar
  by_cases hquote : c = '"'
  · subst hquote; rfl
  by_cases hbackslash : c = '\\'
  · subst hbackslash; rfl
  by_cases hnewline : c = '\n'
  · subst hnewline; rfl
  by_cases hreturn : c = '\r'
  · subst hreturn; rfl
  by_cases htab : c = '\t'
  · subst htab; rfl
  by_cases hnul : c = '\x00'
  · subst hnul; rfl
  have hlookup : shortEscapes.lookup c = none := by
    simp [shortEscapes, List.lookup_eq_none_iff, *]
  rw [hlookup, if_neg hquote, if_neg hbackslash, if_neg hnewline, if_neg hreturn, if_neg htab,
    if_neg hnul]
  rfl

/-- The model's own set of characters is one of those allowed. -/
theorem quote_eq (s : String) : quote s = quoteHiding needsCodePoint s := by
  rw [quote, quoteHiding, quoteCharHiding_needsCodePoint]

variable {hidden} {c : Char}

/-- The three ways in which a character stands between quotes. -/
theorem quoteCharHiding_cases (hidden : Char → Bool) (c : Char) :
    (∃ letter, (c, letter) ∈ shortEscapes ∧ quoteCharHiding hidden c = ['\\', letter]) ∨
    quoteCharHiding hidden c = '\\' :: codePoint c ∨
    c ≠ '"' ∧ c ≠ '\\' ∧ quoteCharHiding hidden c = [c] := by
  unfold quoteCharHiding
  split
  · next letter hletter =>
    obtain ⟨before, after, hsplit, -⟩ := List.lookup_eq_some_iff.1 hletter
    exact .inl ⟨letter, by simp [hsplit], rfl⟩
  · next hnone =>
    split
    · exact .inr (.inl rfl)
    · refine .inr (.inr ⟨?_, ?_, rfl⟩) <;> rintro rfl <;> cases hnone

/-- A letter stands for one character only. -/
theorem eq_of_letter {d letter : Char} (hc : (c, letter) ∈ shortEscapes)
    (hd : (d, letter) ∈ shortEscapes) : c = d := by
  have hletters : ∀ p ∈ shortEscapes, ∀ q ∈ shortEscapes, p.2 = q.2 → p.1 = q.1 := by decide
  exact hletters _ hc _ hd rfl

/-- No letter announces a code point. -/
theorem letter_ne {letter : Char} (hc : (c, letter) ∈ shortEscapes) : letter ≠ 'u' := by
  have hletters : ∀ p ∈ shortEscapes, p.2 ≠ 'u' := by decide
  exact hletters _ hc

/-- The brace behind the digits ends a code point. -/
theorem isPrefixFree_codePoint : IsPrefixFree codePoint := by
  intro c d s t h
  have hbrace : IsPrefixFree fun c : Char => hexDigits c.toNat ++ ['\x7d'] := by
    refine .terminated (fun c d h => ?_) fun c => ?_
    · exact Char.toNat_inj.1 (Numeral.toDigits_injective (by decide) (by decide) h)
    · exact Numeral.notMem_toDigits (by decide) (by decide) (by decide) c.toNat
  simp only [codePoint, List.append_assoc] at h
  exact hbrace (by simpa using h)

/-- **A character is found again between quotes**, whatever stands behind it. -/
theorem isPrefixFree_quoteCharHiding : IsPrefixFree (quoteCharHiding hidden) := by
  intro c d s t h
  rcases quoteCharHiding_cases hidden c with
    ⟨letter, hletter, hc⟩ | hc | ⟨-, hraw, hc⟩ <;>
  rcases quoteCharHiding_cases hidden d with
    ⟨letter', hletter', hd⟩ | hd | ⟨-, hraw', hd⟩ <;>
  rw [hc, hd] at h
  -- a backslash stands only in front of an escape, and an escape by its code point has a `u`
  · obtain ⟨rfl, rfl⟩ : letter = letter' ∧ s = t := by simpa using h
    exact ⟨eq_of_letter hletter hletter', rfl⟩
  · exact absurd (List.head_eq_of_cons_eq (List.tail_eq_of_cons_eq h)) (letter_ne hletter)
  · exact absurd (List.head_eq_of_cons_eq h).symm hraw'
  · exact absurd (List.head_eq_of_cons_eq (List.tail_eq_of_cons_eq h)).symm (letter_ne hletter')
  · exact isPrefixFree_codePoint (List.tail_eq_of_cons_eq h)
  · exact absurd (List.head_eq_of_cons_eq h).symm hraw'
  · exact absurd (List.head_eq_of_cons_eq h) hraw
  · exact absurd (List.head_eq_of_cons_eq h) hraw
  · exact ⟨List.head_eq_of_cons_eq h, List.tail_eq_of_cons_eq h⟩

theorem avoids_quoteCharHiding (hidden : Char → Bool) :
    Avoids (quoteCharHiding hidden) '"' := by
  intro c s t h
  rcases quoteCharHiding_cases hidden c with ⟨letter, -, hc⟩ | hc | ⟨hne, -, hc⟩ <;>
    rw [hc] at h
  · cases h
  · cases h
  · exact hne (List.head_eq_of_cons_eq h)

/-- **A quoted text is found again**: the quote at its end is the first that is not escaped. -/
theorem isPrefixFree_quoteHiding : IsPrefixFree fun s => (quoteHiding hidden s).toList := by
  intro a b s t h
  have hclosed := isPrefixFree_quoteCharHiding.sequence (avoids_quoteCharHiding hidden)
  simp only [quoteHiding, String.toList_ofList] at h
  obtain ⟨hab, rfl⟩ := hclosed (List.tail_eq_of_cons_eq h)
  exact ⟨String.toList_inj.1 hab, rfl⟩

theorem isPrefixFree_inspectBool : IsPrefixFree fun b => (inspectBool b).toList := by
  rintro (_ | _) (_ | _) s t h
  · exact ⟨rfl, List.append_cancel_left h⟩
  · cases h
  · cases h
  · exact ⟨rfl, List.append_cancel_left h⟩

end Text

namespace Options

/-! ## Pins and patterns -/

theorem notMem_decimal {c : Char} (hc : c = '-' ∨ c = ',') (n : Nat) :
    c ∉ Nat.toDigits 10 n := by
  rcases hc with rfl | rfl <;> exact Numeral.notMem_toDigits (by decide) (by decide) (by decide) n

theorem toList_pinText (version : UInt64) :
    (pinText (some version)).toList = Nat.toDigits 10 version.toNat := Nat.toList_repr

theorem pinText_injective : Function.Injective fun pin => (pinText pin).toList := by
  have hdash (version : UInt64) : (pinText none).toList ≠ (pinText (some version)).toList := by
    intro h
    have hmem : '-' ∈ (pinText (some version)).toList := h ▸ List.mem_singleton_self '-'
    rw [toList_pinText] at hmem
    exact notMem_decimal (.inl rfl) _ hmem
  rintro (_ | a) (_ | b) h
  · rfl
  · exact absurd h (hdash b)
  · exact absurd h.symm (hdash a)
  · simp only [toList_pinText] at h
    exact congrArg some (UInt64.toNat_inj.1 (Numeral.toDigits_injective (by decide) (by decide) h))

/-- A pin is found again if a comma follows. -/
theorem isPrefixFree_pin : IsPrefixFree fun pin => (pinText pin).toList ++ [','] := by
  refine .terminated pinText_injective fun pin => ?_
  cases pin with
  | none => decide
  | some version =>
    rw [toList_pinText]
    exact notMem_decimal (.inr rfl) _

/-- A pin is found again in front of a label that starts with a comma. -/
theorem pin_before_label {pin pin' : Option UInt64} {s t : String} (label : String)
    (hlabel : label.toList.head? = some ',')
    (h : pinText pin ++ (label ++ s) = pinText pin' ++ (label ++ t)) : pin = pin' ∧ s = t := by
  obtain ⟨rest, hrest⟩ := List.head?_eq_some_iff.1 hlabel
  have hlist : (pinText pin).toList ++ [','] ++ (rest ++ s.toList) =
      (pinText pin').toList ++ [','] ++ (rest ++ t.toList) := by
    simpa [hrest] using congrArg String.toList h
  obtain ⟨hpin, hst⟩ := isPrefixFree_pin hlist
  exact ⟨hpin, String.toList_inj.1 (List.append_cancel_left hst)⟩

variable (hidden : Char → Bool)

/-- A pattern as it is shown to users, if the hidden characters are written by their code point. -/
def patternTextHiding : Option TagPattern → String
  | some pattern => Text.quoteHiding hidden pattern.source
  | none => "-"

/-- The options as they are shown to users, if the hidden characters of the pattern are written by
their code point. -/
def textHiding (options : Options) : String :=
  "\x7buse_sha: " ++ Text.inspectBool options.useSha
    ++ ", use_pre_release: " ++ Text.inspectBool options.usePreRelease
    ++ ", pin_major: " ++ pinText options.pinMajor
    ++ ", pin_minor: " ++ pinText options.pinMinor
    ++ ", pin_patch: " ++ pinText options.pinPatch
    ++ ", regex: " ++ patternTextHiding hidden options.pattern ++ "\x7d"

/-- The text that users are shown is the one that hides what the model hides. -/
theorem text_eq (options : Options) : options.text = options.textHiding Text.needsCodePoint := by
  unfold text textHiding patternTextHiding
  cases options.pattern with
  | none => rfl
  | some pattern => simp only [Text.quote_eq]

variable {hidden}

theorem isPrefixFree_pattern :
    IsPrefixFree fun pattern? => (patternTextHiding hidden pattern?).toList := by
  have hdash (pattern : TagPattern) (s t : List Char) :
      "-".toList ++ s ≠ (Text.quoteHiding hidden pattern.source).toList ++ t := by
    intro h
    rw [Text.quoteHiding, String.toList_ofList] at h
    exact absurd (congrArg List.head? h) (by simp)
  rintro (_ | pattern) (_ | pattern') s t h
  · exact ⟨rfl, List.append_cancel_left h⟩
  · exact absurd h (hdash pattern' s t)
  · exact absurd h.symm (hdash pattern t s)
  · obtain ⟨hsource, rfl⟩ := Text.isPrefixFree_quoteHiding h
    exact ⟨congrArg some (TagPattern.eq_iff_source_eq.2 hsource), rfl⟩

/-! ## The whole text -/

/-- **Options are found again by the text shown for them**, whatever follows: setting by setting in
the order in which they are shown. -/
theorem found_textHiding {options other : Options} {s t : String}
    (h : options.textHiding hidden ++ s = other.textHiding hidden ++ t) :
    options = other ∧ s = t := by
  have hlabel {label s t : String} (h : label ++ s = label ++ t) : s = t :=
    (String.append_right_inj label).1 h
  unfold textHiding at h
  simp only [String.append_assoc] at h
  obtain ⟨hsha, h⟩ := Text.isPrefixFree_inspectBool.found (hlabel h)
  obtain ⟨hpre, h⟩ := Text.isPrefixFree_inspectBool.found (hlabel h)
  obtain ⟨hmajor, h⟩ := pin_before_label ", pin_minor: " (by decide) (hlabel h)
  obtain ⟨hminor, h⟩ := pin_before_label ", pin_patch: " (by decide) h
  obtain ⟨hpatch, h⟩ := pin_before_label ", regex: " (by decide) h
  obtain ⟨hpattern, h⟩ := isPrefixFree_pattern.found h
  refine ⟨?_, hlabel h⟩
  cases options
  cases other
  exact (Policy.mk.injEq ..).mpr ⟨hsha, hpre, hmajor, hminor, hpatch, hpattern⟩

end Options

/-- **The text shown for options tells them**: whatever characters are hidden, options with the same
text agree in every flag, every pin and the pattern, and so do those of two messages that no tag is
left, if the messages are the same. What users are shown is the case for `Text.needsCodePoint`. -/
theorem shown_text_tells_options (hidden : Char → Bool) (options other : Options) :
    (options.textHiding hidden = other.textHiding hidden ↔ options = other) ∧
    (options.text = options.textHiding Text.needsCodePoint) ∧
    (options.text = other.text ↔ options = other) ∧
    ((ResolveError.noMatch options).message = (ResolveError.noMatch other).message ↔
      ResolveError.noMatch options = ResolveError.noMatch other) := by
  have hhiding (hidden : Char → Bool) :
      options.textHiding hidden = other.textHiding hidden ↔ options = other := by
    refine ⟨fun h => ?_, fun h => by rw [h]⟩
    exact (Options.found_textHiding (congrArg (· ++ "") h)).1
  have htext : options.text = other.text ↔ options = other := by
    rw [Options.text_eq, Options.text_eq, hhiding]
  refine ⟨hhiding hidden, options.text_eq, htext, ?_⟩
  rw [ResolveError.noMatch.injEq, ← htext]
  exact String.append_right_inj _

end LatestTag
