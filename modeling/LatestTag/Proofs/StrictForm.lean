import LatestTag.Proofs.PrecedenceRules

/-!
# Strict form

A tag is first read strictly, and only if that fails it is brought into strict form and read then.
This file shows that the first attempt never decides anything. Texts that can be read strictly are
few: each version has exactly one (`Version.written`), with its numbers in decimal and what follows
them as it is.

> `strict?_eq_some_iff`: a text is read strictly as a version exactly if it is the written form of
> that version.
> `strict_attempt_redundant`: bringing a strict text into strict form changes nothing, so reading it
> behind that gives the same version; and a tag is read as its strict form is, whichever attempt
> does it.

A number can be read strictly exactly if it is the numeral of its value (`toDigits_value`).
-/

namespace LatestTag

/-! ## Numerals of values -/

namespace Numeral

/-- A digit is the numeral of its value. -/
theorem toDigits_digit {d : Char} (hd : d.isDigit) :
    d.toNat - '0'.toNat < 10 ∧ Nat.toDigits 10 (d.toNat - '0'.toNat) = [d] := by
  obtain ⟨hle, hge⟩ := isDigit_bounds hd
  have hlt : d.toNat - 48 < 10 := by omega
  have hdigit : Nat.digitChar (d.toNat - 48) = d := by
    rw [← Char.toNat_inj, Nat.toNat_digitChar_of_lt_ten hlt]
    omega
  refine ⟨hlt, ?_⟩
  show Nat.toDigits 10 (d.toNat - 48) = [d]
  rw [Nat.toDigits_of_lt_base hlt, hdigit]

/-- Digits that go on the numeral of a positive number make up the numeral of what they amount to
together. The induction is on the digits, with the number in front general. -/
theorem toDigits_ofDigitChars {digits : List Char} (hdigits : ∀ c ∈ digits, c.isDigit) {front : Nat}
    (hfront : 0 < front) :
    Nat.toDigits 10 (Nat.ofDigitChars 10 digits front) = Nat.toDigits 10 front ++ digits := by
  induction digits generalizing front with
  | nil => rw [Nat.ofDigitChars_nil, List.append_nil]
  | cons d digits ih =>
    obtain ⟨hlt, hd⟩ := toDigits_digit (hdigits d List.mem_cons_self)
    have hrest : ∀ c ∈ digits, c.isDigit := fun c hc => hdigits c (List.mem_cons_of_mem _ hc)
    rw [Nat.ofDigitChars_cons, ih hrest (by omega),
      ← Nat.toDigits_append_toDigits (by decide) hfront hlt, hd, List.append_assoc,
      List.singleton_append]

/-- Digits without unneeded zeros in front are the numeral of their value. -/
theorem toDigits_value {digits : List Char} (hne : digits ≠ []) (hdigits : ∀ c ∈ digits, c.isDigit)
    (hzero : ∀ rest, digits = '0' :: rest → rest = []) :
    Nat.toDigits 10 (value digits) = digits := by
  cases digits with
  | nil => exact absurd rfl hne
  | cons d digits =>
    by_cases hd : d = '0'
    · subst hd
      rw [hzero digits rfl]
      rfl
    · -- the first digit is a positive number, which the others go on
      have hdigit : d.isDigit := hdigits d List.mem_cons_self
      have hrest : ∀ c ∈ digits, c.isDigit := fun c hc => hdigits c (List.mem_cons_of_mem _ hc)
      have hpos : 0 < d.toNat - '0'.toNat := by
        have hle := (isDigit_bounds hdigit).1
        have hne : d.toNat ≠ 48 := fun heq => hd (Char.toNat_inj.1 heq)
        show 0 < d.toNat - 48
        omega
      rw [value, Nat.ofDigitChars_cons, Nat.mul_zero, Nat.zero_add,
        toDigits_ofDigitChars hrest hpos, (toDigits_digit hdigit).2, List.singleton_append]

end Numeral

namespace Version

/-! ## The written form of a version -/

/-- The version as it is written by the rules: three numbers in decimal, then the pre-release, then
the build metadata. -/
def written (version : Version) : List Char :=
  dotted [Nat.toDigits 10 version.major.toNat, Nat.toDigits 10 version.minor.toNat,
      Nat.toDigits 10 version.patch.toNat] ++
    (marked '-' version.pre ++ marked '+' version.build)

/-- A number is read strictly exactly from its numeral. -/
theorem strictNumber?_eq_some_iff {digits : List Char} {n : UInt64} :
    strictNumber? digits = some n ↔ digits = Nat.toDigits 10 n.toNat := by
  constructor
  · intro h
    unfold strictNumber? at h
    split at h
    next => exact absurd h (by simp)
    next hzero =>
      obtain ⟨hgroup, hvalue⟩ := number?_eq_some_iff.1 h
      rw [Bool.not_eq_true, hasLeadingZero_eq_false_iff] at hzero
      rw [hvalue]
      exact (Numeral.toDigits_value hgroup.ne_nil hgroup.digit hzero).symm
  · intro h
    subst h
    have hzero : Identifier.hasLeadingZero (Nat.toDigits 10 n.toNat) = false := by
      rw [hasLeadingZero_eq_false_iff]
      intro rest heq
      rcases Nat.eq_zero_or_pos n.toNat with hn | hn
      · rw [hn, Nat.toDigits_zero] at heq
        exact (List.cons.inj heq).2.symm
      · exact absurd (by rw [heq]; rfl) (Numeral.head?_toDigits_ne_zero hn)
    have hgroup : IsGroup (Nat.toDigits 10 n.toNat) := by
      refine ⟨Nat.toDigits_ne_nil, Numeral.isDigit_of_mem_toDigits, ?_⟩
      rw [Nat.ofDigitChars_ten_toDigits]
      exact n.toNat_lt
    unfold strictNumber?
    rw [hzero, if_neg (by simp)]
    exact number?_eq_some_iff.2 ⟨hgroup, Nat.ofDigitChars_ten_toDigits.symm⟩

/-- **Strict texts**: a text is read strictly as a version exactly if it is the written form of the
version, and what that has for identifiers can stand there. -/
theorem strict?_eq_some_iff {text : List Char} {version : Version} :
    strict? text = some version ↔
      (∀ id ∈ version.pre, IsPreIdentifier id) ∧ (∀ id ∈ version.build, IsIdentifier id) ∧
        text = written version := by
  constructor
  · intro h
    unfold strict? at h
    split at h
    next major minor patch hsplit =>
      simp only [Option.bind_eq_bind, Option.bind_eq_some_iff, Prod.exists] at h
      obtain ⟨m, hmajor, n, hminor, p, hpatch, pre, build, hsuffix, hversion⟩ := h
      obtain rfl := Option.some.inj hversion
      obtain ⟨hpre, hbuild, hmarked⟩ := suffix?_eq_some_iff.1 hsuffix
      have hcore : dotted [major, minor, patch] = core text := by
        rw [← hsplit, dotted, List.intercalate_splitOn]
      refine ⟨hpre, hbuild, ?_⟩
      rw [← core_append_suffix text, hmarked, ← hcore, strictNumber?_eq_some_iff.1 hmajor,
        strictNumber?_eq_some_iff.1 hminor, strictNumber?_eq_some_iff.1 hpatch]
      rfl
    next => exact absurd h (by simp)
  · intro h
    obtain ⟨hpre, hbuild, rfl⟩ := h
    have hnumerals : ∀ digits ∈ [Nat.toDigits 10 version.major.toNat,
        Nat.toDigits 10 version.minor.toNat, Nat.toDigits 10 version.patch.toNat],
        IsDigits digits := by
      simp only [List.forall_mem_cons]
      exact ⟨⟨Nat.toDigits_ne_nil, Numeral.isDigit_of_mem_toDigits⟩,
        ⟨Nat.toDigits_ne_nil, Numeral.isDigit_of_mem_toDigits⟩,
        ⟨Nat.toDigits_ne_nil, Numeral.isDigit_of_mem_toDigits⟩, by simp⟩
    obtain ⟨hsplit, hsuffix⟩ :=
      splitOn_core_append (by simp) hnumerals (isTail_marked version.pre version.build)
    unfold strict? written
    rw [hsplit, hsuffix]
    dsimp only
    rw [strictNumber?_eq_some_iff.2 rfl, strictNumber?_eq_some_iff.2 rfl,
      strictNumber?_eq_some_iff.2 rfl, suffix?_eq_some_iff.2 ⟨hpre, hbuild, rfl⟩]
    rfl

/-- **The strict attempt is redundant.** A text that is read strictly is its own strict form, so the
other attempt gives the same version; and so a tag is read, with or without a `v` in front of it, as
the other attempt alone reads its text. The texts in question are the written forms of versions. -/
theorem strict_attempt_redundant (text : List Char) :
    (∀ version, strict? text = some version →
      normal? text = some text ∧ lenient? text = some version) ∧
    (∀ tag : String, tag.toList = 'v' :: text ∨ tag.toList = text ∧ text.head? ≠ some 'v' →
      ofTag? tag = lenient? text) ∧
    ∀ version, strict? text = some version ↔
      (∀ id ∈ version.pre, IsPreIdentifier id) ∧ (∀ id ∈ version.build, IsIdentifier id) ∧
        text = written version := by
  refine ⟨fun version h => ⟨normal?_of_strict? h, lenient?_of_strict? h⟩, fun tag htag => ?_,
    fun version => strict?_eq_some_iff⟩
  unfold ofTag?
  dsimp only
  rw [strict?_or_lenient?]
  split
  next rest hrest =>
    rcases htag with heq | ⟨heq, hhead⟩
    · rw [(List.cons.inj (hrest.symm.trans heq)).2]
    · rw [← heq, hrest] at hhead
      exact absurd rfl hhead
  next rest hnot =>
    rcases htag with heq | ⟨heq, -⟩
    · exact absurd heq (hnot text)
    · rw [heq]

/-- A zero for a number, dashes for identifiers, and zeros in front where they are allowed. -/
theorem strict_attempt_redundant_of_dashes :
    let text := "0.10.0--.0-0+-.00".toList
    let version : Version := ⟨0, 10, 0, ["-".toList, "0-0".toList], ["-".toList, "00".toList]⟩
    (strict? text = some version ∧ normal? text = some text ∧ lenient? text = some version) ∧
      ("v0.10.0--.0-0+-.00".toList = 'v' :: text ∧
        ofTag? "v0.10.0--.0-0+-.00" = lenient? text) ∧
      (∀ id ∈ version.pre, IsPreIdentifier id) ∧ (∀ id ∈ version.build, IsIdentifier id) ∧
        text = written version := by
  intro text version
  obtain ⟨hread, htag, hwritten⟩ := strict_attempt_redundant text
  have hstrict : strict? text = some version := by decide
  have hprefixed : "v0.10.0--.0-0+-.00".toList = 'v' :: text := by decide
  exact ⟨⟨hstrict, hread version hstrict⟩, ⟨hprefixed, htag _ (Or.inl hprefixed)⟩,
    (hwritten version).1 hstrict⟩

/-- Behind a `+` a dash starts no pre-release. -/
example : strict? "1.0.0+a-b".toList = some ⟨1, 0, 0, [], ["a-b".toList]⟩ ∧
    lenient? "1.0.0+a-b".toList = strict? "1.0.0+a-b".toList := by
  decide

end Version

end LatestTag
