import LatestTag.Version

/-!
# The texts that are versions

`Version.ofTag?` makes two attempts at a tag: it reads it strictly, and failing that it brings the
text into strict form and reads that. This file states the one grammar that the two attempts accept
together, and what version each text of it stands for:

> `Spells text version`: the text is one to three groups of digits with dots between them, then the
> pre-release behind a `-` if there is one, then the build metadata behind a `+` if there is any.

> `ofTag?_eq_some_iff`: a tag is read as a version exactly if, with or without a `v` in front of it,
> its text spells that version.

Structure: `suffix?_eq_some_iff` settles what follows the numbers, where both attempts agree.
`normal?_append` says what the strict form of a text is, and `strict?_padded` how that is read; a
text that is strict already is its own strict form (`normal?_of_strict?`), so the first attempt
never decides anything.
-/

namespace LatestTag.Version

open Text (cutFirst? cutFirst?_eq_none_iff cutFirst?_eq_some_iff)

/-! ## The grammar -/

/-- A group of digits, with any number of zeros in front, whose value fits into 64 bits. -/
structure IsGroup (digits : List Char) : Prop where
  ne_nil : digits ≠ []
  digit : ∀ c ∈ digits, c.isDigit
  fits : Nat.ofDigitChars 10 digits 0 < UInt64.size

/-- Letters, digits and dashes of ASCII, one at least. -/
structure IsIdentifier (id : Identifier) : Prop where
  ne_nil : id ≠ []
  ascii : ∀ c ∈ id, c.isAlphanum ∨ c = '-'

/-- An identifier that, if it is a number, has no zero in front of other digits. -/
structure IsPreIdentifier (id : Identifier) : Prop extends IsIdentifier id where
  no_zero : (∀ c ∈ id, c.isDigit) → ∀ rest, id = '0' :: rest → rest = []

/-- The parts with dots between them. -/
def dotted (parts : List (List Char)) : List Char := ['.'].intercalate parts

/-- The identifiers with dots between them and a sign in front; nothing if there are none. -/
def marked (sign : Char) : List Identifier → List Char
  | [] => []
  | ids => sign :: dotted ids

/-- The value of the group at a position, zero if there is no such group. -/
def valueAt (groups : List (List Char)) (i : Nat) : Nat :=
  Nat.ofDigitChars 10 (groups.getD i ['0']) 0

/-- The text stands for the version: up to three groups of digits give the numbers, those that are
missing being zero, and pre-release and build metadata follow as they are. -/
def Spells (text : List Char) (version : Version) : Prop :=
  ∃ groups, 1 ≤ groups.length ∧ groups.length ≤ 3 ∧ (∀ digits ∈ groups, IsGroup digits) ∧
    version.major.toNat = valueAt groups 0 ∧ version.minor.toNat = valueAt groups 1 ∧
    version.patch.toNat = valueAt groups 2 ∧
    (∀ id ∈ version.pre, IsPreIdentifier id) ∧ (∀ id ∈ version.build, IsIdentifier id) ∧
    text = dotted groups ++ (marked '-' version.pre ++ marked '+' version.build)

/-! ## Parts and dots -/

/-- A text falls into the parts between its dots in one way. -/
theorem splitOn_eq_iff {text : List Char} {parts : List (List Char)}
    (hdot : ∀ part ∈ parts, '.' ∉ part) :
    text.splitOn '.' = parts ↔ parts ≠ [] ∧ text = dotted parts := by
  constructor
  · intro hsplit
    rw [← hsplit]
    exact ⟨List.splitOn_ne_nil _ _, (List.intercalate_splitOn '.').symm⟩
  · intro h
    obtain ⟨hne, rfl⟩ := h
    exact List.splitOn_intercalate '.' hdot hne

/-- Reading parts that all pass a test, when no part with a dot passes it. -/
theorem parts_eq_some_iff {ok : List Char → Bool} {Ok : List Char → Prop}
    (hok : ∀ part, ok part = true ↔ Ok part) (hdot : ∀ part, Ok part → '.' ∉ part)
    {text : List Char} {parts : List (List Char)} :
    (if (text.splitOn '.').all ok then some (text.splitOn '.') else none) = some parts ↔
      parts ≠ [] ∧ (∀ part ∈ parts, Ok part) ∧ text = dotted parts := by
  constructor
  · intro h
    split at h
    next hall =>
      obtain rfl := Option.some.inj h
      have hparts : ∀ part ∈ text.splitOn '.', Ok part := fun part hpart =>
        (hok part).1 (List.all_eq_true.1 hall part hpart)
      exact ⟨List.splitOn_ne_nil _ _, hparts, (List.intercalate_splitOn '.').symm⟩
    next => exact absurd h (by simp)
  · intro h
    obtain ⟨hne, hparts, htext⟩ := h
    have hsplit : text.splitOn '.' = parts :=
      (splitOn_eq_iff fun part hpart => hdot part (hparts part hpart)).2 ⟨hne, htext⟩
    rw [hsplit, if_pos (List.all_eq_true.2 fun part hpart => (hok part).2 (hparts part hpart))]

theorem dotted_cons_cons (part next : List Char) (parts : List (List Char)) :
    dotted (part :: next :: parts) = part ++ '.' :: dotted (next :: parts) := by
  simp [dotted, List.intercalate]

/-- A character of dotted parts is a dot or stands in a part. -/
theorem mem_dotted {c : Char} {parts : List (List Char)} (h : c ∈ dotted parts) :
    c = '.' ∨ ∃ part ∈ parts, c ∈ part := by
  induction parts with
  | nil => exact absurd h (by simp [dotted, List.intercalate])
  | cons part parts ih =>
    cases parts with
    | nil => exact Or.inr ⟨part, by simp, by simpa [dotted, List.intercalate] using h⟩
    | cons next parts =>
      rw [dotted_cons_cons] at h
      rcases List.mem_append.1 h with hpart | hrest
      · exact Or.inr ⟨part, by simp, hpart⟩
      · rcases List.mem_cons.1 hrest with hc | hc
        · exact Or.inl hc
        · rcases ih hc with hdot | ⟨other, hother, hmem⟩
          · exact Or.inl hdot
          · exact Or.inr ⟨other, List.mem_cons_of_mem _ hother, hmem⟩

/-! ## Pre-release and build metadata -/

theorem isValid_iff (id : Identifier) : id.isValid = true ↔ IsIdentifier id := by
  constructor
  · intro h
    simp only [Identifier.isValid, Bool.and_eq_true, Bool.not_eq_true', List.isEmpty_eq_false_iff,
      List.all_eq_true, Bool.or_eq_true, beq_iff_eq] at h
    exact ⟨h.1, h.2⟩
  · intro h
    obtain ⟨hne, hascii⟩ := h
    simp only [Identifier.isValid, Bool.and_eq_true, Bool.not_eq_true', List.isEmpty_eq_false_iff,
      List.all_eq_true, Bool.or_eq_true, beq_iff_eq]
    exact ⟨hne, hascii⟩

/-- A zero in front is one that other characters follow. -/
theorem hasLeadingZero_eq_false_iff (digits : List Char) :
    Identifier.hasLeadingZero digits = false ↔ ∀ rest, digits = '0' :: rest → rest = [] := by
  cases digits with
  | nil => simp [Identifier.hasLeadingZero]
  | cons c rest =>
    simp only [Identifier.hasLeadingZero, List.head?_cons, List.length_cons]
    cases rest <;> simp

theorem isValidPre_iff (id : Identifier) : id.isValidPre = true ↔ IsPreIdentifier id := by
  simp only [Identifier.isValidPre, Bool.and_eq_true, isValid_iff, Bool.not_eq_true',
    Bool.and_eq_false_iff, hasLeadingZero_eq_false_iff, Identifier.isNumeric]
  constructor
  · intro h
    obtain ⟨hid, hzero⟩ := h
    refine ⟨hid, fun hdigits => ?_⟩
    rcases hzero with hnot | hzero
    · rw [List.all_eq_true.2 hdigits] at hnot
      cases hnot
    · exact hzero
  · intro h
    obtain ⟨hid, hzero⟩ := h
    refine ⟨hid, ?_⟩
    cases hall : id.all Char.isDigit with
    | false => exact Or.inl rfl
    | true => exact Or.inr (hzero (List.all_eq_true.1 hall))

/-- The characters of identifiers are no signs. -/
theorem IsIdentifier.not_mem {id : Identifier} (h : IsIdentifier id) {c : Char}
    (hc : c.isAlphanum = false) (hdash : c ≠ '-') : c ∉ id := by
  intro hmem
  rcases h.ascii c hmem with halnum | heq
  · rw [hc] at halnum
    cases halnum
  · exact hdash heq

theorem build?_eq_some_iff {text : List Char} {ids : List Identifier} :
    build? text = some ids ↔ ids ≠ [] ∧ (∀ id ∈ ids, IsIdentifier id) ∧ text = dotted ids :=
  parts_eq_some_iff isValid_iff fun _ h => h.not_mem rfl (by decide)

theorem pre?_eq_some_iff {text : List Char} {ids : List Identifier} :
    pre? text = some ids ↔ ids ≠ [] ∧ (∀ id ∈ ids, IsPreIdentifier id) ∧ text = dotted ids :=
  parts_eq_some_iff isValidPre_iff fun _ h => h.toIsIdentifier.not_mem rfl (by decide)

/-- No `+` stands within a pre-release, so the first one starts the build metadata. -/
theorem plus_not_mem_dotted {ids : List Identifier} (h : ∀ id ∈ ids, IsPreIdentifier id) :
    '+' ∉ dotted ids := by
  intro hmem
  rcases mem_dotted hmem with hdot | ⟨id, hid, hplus⟩
  · exact absurd hdot (by decide)
  · exact (h id hid).toIsIdentifier.not_mem rfl (by decide) hplus

theorem marked_of_ne_nil {sign : Char} {ids : List Identifier} (hne : ids ≠ []) :
    marked sign ids = sign :: dotted ids := by
  cases ids with
  | nil => exact absurd rfl hne
  | cons id ids => rfl

/-- What follows the numbers is read as exactly the identifiers that are written there. -/
theorem suffix?_eq_some_iff {text : List Char} {pre build : List Identifier} :
    suffix? text = some (pre, build) ↔
      (∀ id ∈ pre, IsPreIdentifier id) ∧ (∀ id ∈ build, IsIdentifier id) ∧
        text = marked '-' pre ++ marked '+' build := by
  constructor
  · intro h
    unfold suffix? at h
    split at h
    · simp only [Option.some.injEq, Prod.mk.injEq] at h
      obtain ⟨rfl, rfl⟩ := h
      exact ⟨by simp, by simp, rfl⟩
    -- build metadata only
    next text =>
      simp only [Option.bind_eq_bind, Option.bind_eq_some_iff, Option.some.injEq,
        Prod.mk.injEq] at h
      obtain ⟨ids, hids, rfl, rfl⟩ := h
      obtain ⟨hne, hbuild, rfl⟩ := build?_eq_some_iff.1 hids
      refine ⟨by simp, hbuild, ?_⟩
      rw [marked_of_ne_nil hne]
      rfl
    next text =>
      split at h
      -- a pre-release, and build metadata behind the first plus
      next preText buildText hcut =>
        simp only [Option.bind_eq_bind, Option.bind_eq_some_iff, Option.some.injEq,
          Prod.mk.injEq] at h
        obtain ⟨ids, hids, ids', hids', rfl, rfl⟩ := h
        obtain ⟨hne, hpre, rfl⟩ := pre?_eq_some_iff.1 hids
        obtain ⟨hne', hbuild, rfl⟩ := build?_eq_some_iff.1 hids'
        obtain ⟨rfl, -⟩ := cutFirst?_eq_some_iff.1 hcut
        refine ⟨hpre, hbuild, ?_⟩
        rw [marked_of_ne_nil hne, marked_of_ne_nil hne', List.cons_append]
      -- a pre-release only
      next hcut =>
        simp only [Option.bind_eq_bind, Option.bind_eq_some_iff, Option.some.injEq,
          Prod.mk.injEq] at h
        obtain ⟨ids, hids, rfl, rfl⟩ := h
        obtain ⟨hne, hpre, rfl⟩ := pre?_eq_some_iff.1 hids
        refine ⟨hpre, by simp, ?_⟩
        rw [marked_of_ne_nil hne, marked, List.append_nil]
    · exact absurd h (by simp)
  · intro h
    obtain ⟨hpre, hbuild, rfl⟩ := h
    cases pre with
    | nil =>
      cases build with
      | nil => rfl
      | cons id ids =>
        have hread : build? (dotted (id :: ids)) = some (id :: ids) :=
          build?_eq_some_iff.2 ⟨by simp, hbuild, rfl⟩
        simp [marked, suffix?, hread]
    | cons id ids =>
      have hread : pre? (dotted (id :: ids)) = some (id :: ids) :=
        pre?_eq_some_iff.2 ⟨by simp, hpre, rfl⟩
      have hplus := plus_not_mem_dotted hpre
      cases build with
      | nil =>
        have hcut : cutFirst? '+' (dotted (id :: ids)) = none := cutFirst?_eq_none_iff.2 hplus
        simp [marked, suffix?, hcut, hread]
      | cons id' ids' =>
        have hread' : build? (dotted (id' :: ids')) = some (id' :: ids') :=
          build?_eq_some_iff.2 ⟨by simp, hbuild, rfl⟩
        have hcut : cutFirst? '+' (dotted (id :: ids) ++ '+' :: dotted (id' :: ids')) =
            some (dotted (id :: ids), dotted (id' :: ids')) :=
          cutFirst?_eq_some_iff.2 ⟨rfl, hplus⟩
        simp [marked, suffix?, hcut, hread, hread']

/-! ## Where the numbers end -/

/-- What follows the numbers is nothing, or begins with a sign. -/
def IsTail (text : List Char) : Prop := ∀ c ∈ text.head?, endsCore c

theorem core_append_suffix (text : List Char) : core text ++ suffix text = text :=
  List.takeWhile_append_dropWhile

theorem isTail_suffix (text : List Char) : IsTail (suffix text) := by
  intro c hc
  have h := List.head?_dropWhile_not (!endsCore ·) text
  unfold suffix at hc
  rw [Option.mem_def] at hc
  rw [hc] at h
  simpa using h

theorem isTail_marked (pre build : List Identifier) :
    IsTail (marked '-' pre ++ marked '+' build) := by
  intro c hc
  cases pre with
  | nil =>
    cases build with
    | nil => exact absurd hc (by simp [marked])
    | cons id ids =>
      obtain rfl : '+' = c := by simpa [marked] using hc
      rfl
  | cons id ids =>
    obtain rfl : '-' = c := by simpa [marked] using hc
    rfl

/-- A text is cut at its first sign. -/
theorem core_suffix_append {front back : List Char} (hfront : ∀ c ∈ front, endsCore c = false)
    (hback : IsTail back) : core (front ++ back) = front ∧ suffix (front ++ back) = back := by
  have hall : ∀ c ∈ front, (!endsCore c) = true := fun c hc => by rw [hfront c hc]; rfl
  unfold core suffix
  rw [List.takeWhile_append_of_pos hall, List.dropWhile_append_of_pos hall]
  cases back with
  | nil => simp
  | cons c back =>
    have hc : endsCore c = true := hback c rfl
    simp [hc]

/-! ## Groups of digits -/

/-- One digit at least, and nothing else. -/
def IsDigits (digits : List Char) : Prop := digits ≠ [] ∧ ∀ c ∈ digits, c.isDigit

theorem not_mem_of_isDigit {digits : List Char} (h : ∀ c ∈ digits, c.isDigit) {c : Char}
    (hc : c.isDigit = false) : c ∉ digits := by
  intro hmem
  rw [h c hmem] at hc
  cases hc

theorem endsCore_dotted {groups : List (List Char)} (h : ∀ digits ∈ groups, IsDigits digits) :
    ∀ c ∈ dotted groups, endsCore c = false := by
  intro c hc
  rcases mem_dotted hc with rfl | ⟨digits, hdigits, hmem⟩
  · rfl
  · have hdigit := (h digits hdigits).2 c hmem
    cases hends : endsCore c with
    | false => rfl
    | true =>
      simp only [endsCore, Bool.or_eq_true, beq_iff_eq] at hends
      rcases hends with rfl | rfl <;> exact absurd hdigit (by decide)

/-- Groups of digits and what follows them are found again. -/
theorem splitOn_core_append {groups : List (List Char)} (hne : groups ≠ [])
    (h : ∀ digits ∈ groups, IsDigits digits) {back : List Char} (hback : IsTail back) :
    (core (dotted groups ++ back)).splitOn '.' = groups ∧
      suffix (dotted groups ++ back) = back := by
  obtain ⟨hcore, hsuffix⟩ := core_suffix_append (endsCore_dotted h) hback
  rw [hcore, hsuffix]
  refine ⟨(splitOn_eq_iff fun digits hdigits => ?_).2 ⟨hne, rfl⟩, rfl⟩
  exact not_mem_of_isDigit (h digits hdigits).2 rfl

theorem number?_eq_some_iff {digits : List Char} {n : UInt64} :
    number? digits = some n ↔ IsGroup digits ∧ n.toNat = Nat.ofDigitChars 10 digits 0 := by
  unfold number?
  dsimp only
  constructor
  · intro h
    split at h
    next hcond =>
      simp only [Bool.and_eq_true, Bool.not_eq_true', List.isEmpty_eq_false_iff, List.all_eq_true,
        decide_eq_true_eq] at hcond
      obtain ⟨⟨hne, hdigits⟩, hlt⟩ := hcond
      obtain rfl := Option.some.inj h
      exact ⟨⟨hne, hdigits, hlt⟩, UInt64.toNat_ofNat_of_lt hlt⟩
    next => exact absurd h (by simp)
  · intro h
    obtain ⟨⟨hne, hdigits, hlt⟩, hvalue⟩ := h
    rw [if_pos, ← hvalue, UInt64.ofNat_toNat]
    simp only [Bool.and_eq_true, Bool.not_eq_true', List.isEmpty_eq_false_iff, List.all_eq_true,
      decide_eq_true_eq]
    exact ⟨⟨hne, hdigits⟩, hlt⟩

/-- Zeros in front do not count. -/
theorem ofDigitChars_trimZeros (digits : List Char) :
    Nat.ofDigitChars 10 (trimZeros digits) 0 = Nat.ofDigitChars 10 digits 0 := by
  have hdrop : Nat.ofDigitChars 10 (digits.dropWhile (· == '0')) 0 =
      Nat.ofDigitChars 10 digits 0 := by
    induction digits with
    | nil => rfl
    | cons c digits ih =>
      by_cases hc : c = '0'
      · subst hc
        rw [List.dropWhile_cons_of_pos (by rfl), ih, Nat.ofDigitChars_cons]
        simp
      · rw [List.dropWhile_cons_of_neg (by simpa using hc)]
  unfold trimZeros
  split
  next hnil => rw [← hdrop, hnil]; rfl
  next => exact hdrop

theorem isDigits_trimZeros {digits : List Char} (h : IsDigits digits) :
    IsDigits (trimZeros digits) := by
  unfold trimZeros
  split
  next => exact ⟨by simp, by simp⟩
  next hne =>
    exact ⟨fun hnil => hne hnil, fun c hc =>
      h.2 c ((List.dropWhile_sublist _).subset hc)⟩

theorem hasLeadingZero_trimZeros (digits : List Char) :
    Identifier.hasLeadingZero (trimZeros digits) = false := by
  rw [hasLeadingZero_eq_false_iff]
  intro rest heq
  unfold trimZeros at heq
  split at heq
  next => exact (List.cons.inj heq).2.symm
  next =>
    have h := List.head?_dropWhile_not (· == '0') digits
    rw [heq] at h
    exact absurd h (by simp)

/-- Without its zeros a group of digits is strict, and has the value it had before. -/
theorem strictNumber?_trimZeros {digits : List Char} (h : IsDigits digits) :
    strictNumber? (trimZeros digits) = number? digits := by
  have htrim := isDigits_trimZeros h
  unfold strictNumber?
  rw [hasLeadingZero_trimZeros, if_neg (by simp)]
  ext n
  rw [number?_eq_some_iff, number?_eq_some_iff, ofDigitChars_trimZeros]
  constructor
  · intro h
    obtain ⟨hgroup, hn⟩ := h
    exact ⟨⟨h.1, h.2, ofDigitChars_trimZeros digits ▸ hgroup.fits⟩, hn⟩
  · intro h
    obtain ⟨hgroup, hn⟩ := h
    exact ⟨⟨htrim.1, htrim.2, (ofDigitChars_trimZeros digits).symm ▸ hgroup.fits⟩, hn⟩

/-! ## The strict form -/

/-- The groups of the strict form: without zeros in front, and three of them. -/
def padded (groups : List (List Char)) : List (List Char) :=
  groups.map trimZeros ++ List.replicate (3 - groups.length) ['0']

theorem isDigits_padded {groups : List (List Char)} (h : ∀ digits ∈ groups, IsDigits digits) :
    ∀ digits ∈ padded groups, IsDigits digits := by
  intro digits hdigits
  rcases List.mem_append.1 hdigits with hmap | hzero
  · obtain ⟨group, hgroup, rfl⟩ := List.mem_map.1 hmap
    exact isDigits_trimZeros (h group hgroup)
  · obtain rfl := List.eq_of_mem_replicate hzero
    exact ⟨by simp, by simp⟩

/-- Up to three groups of digits have a strict form, in front of whatever follows them. -/
theorem normal?_append {groups : List (List Char)} (hne : groups ≠ [])
    (hlen : groups.length ≤ 3) (h : ∀ digits ∈ groups, IsDigits digits) {back : List Char}
    (hback : IsTail back) :
    normal? (dotted groups ++ back) = some (dotted (padded groups) ++ back) := by
  obtain ⟨hsplit, hsuffix⟩ := splitOn_core_append hne h hback
  have hall : (groups.all fun part => !part.isEmpty && part.all Char.isDigit) = true := by
    simp only [List.all_eq_true, Bool.and_eq_true, Bool.not_eq_true', List.isEmpty_eq_false_iff]
    exact fun digits hdigits => h digits hdigits
  unfold normal?
  dsimp only
  rw [hsplit, hsuffix, hall, decide_eq_true hlen]
  rfl

/-- Only texts that begin with up to three groups of digits have a strict form. -/
theorem exists_groups_of_normal? {text strictText : List Char}
    (h : normal? text = some strictText) :
    ∃ groups, groups ≠ [] ∧ groups.length ≤ 3 ∧ (∀ digits ∈ groups, IsDigits digits) ∧
      text = dotted groups ++ suffix text := by
  unfold normal? at h
  dsimp only at h
  split at h
  next hcond =>
    simp only [Bool.and_eq_true, List.all_eq_true, Bool.not_eq_true', List.isEmpty_eq_false_iff,
      decide_eq_true_eq] at hcond
    refine ⟨(core text).splitOn '.', List.splitOn_ne_nil _ _, hcond.2, hcond.1, ?_⟩
    rw [dotted, List.intercalate_splitOn, core_append_suffix]
  next => exact absurd h (by simp)

/-- How the strict form is read: each number is that of its group, a missing one zero. -/
theorem strict?_padded {groups : List (List Char)} (hne : groups ≠ []) (hlen : groups.length ≤ 3)
    (h : ∀ digits ∈ groups, IsDigits digits) {back : List Char} (hback : IsTail back) :
    strict? (dotted (padded groups) ++ back) = (do
      let major ← number? (groups.getD 0 ['0'])
      let minor ← number? (groups.getD 1 ['0'])
      let patch ← number? (groups.getD 2 ['0'])
      let (pre, build) ← suffix? back
      some { major, minor, patch, pre, build }) := by
  obtain ⟨hsplit, hsuffix⟩ := splitOn_core_append (by simp [padded, hne]) (isDigits_padded h) hback
  have hzero : strictNumber? ['0'] = number? ['0'] := rfl
  unfold strict?
  rw [hsplit, hsuffix]
  -- The three lengths differ in how many zeros are filled in.
  match groups, hne, hlen with
  | [major], _, _ =>
    simp only [List.forall_mem_cons] at h
    simp [padded, List.replicate, strictNumber?_trimZeros h.1, hzero]
  | [major, minor], _, _ =>
    simp only [List.forall_mem_cons] at h
    simp [padded, strictNumber?_trimZeros h.1, strictNumber?_trimZeros h.2.1, hzero]
  | [major, minor, patch], _, _ =>
    simp only [List.forall_mem_cons] at h
    simp [padded, strictNumber?_trimZeros h.1, strictNumber?_trimZeros h.2.1,
      strictNumber?_trimZeros h.2.2.1]

/-- A group that a strict version has for a number keeps its digits in the strict form. -/
theorem trimZeros_of_strictNumber? {digits : List Char} {n : UInt64}
    (h : strictNumber? digits = some n) : IsDigits digits ∧ trimZeros digits = digits := by
  unfold strictNumber? at h
  split at h
  next => exact absurd h (by simp)
  next hzero =>
    have hgroup := (number?_eq_some_iff.1 h).1
    refine ⟨⟨hgroup.ne_nil, hgroup.digit⟩, ?_⟩
    rw [Bool.not_eq_true, hasLeadingZero_eq_false_iff] at hzero
    cases digits with
    | nil => exact absurd rfl hgroup.ne_nil
    | cons c rest =>
      by_cases hc : c = '0'
      · subst hc
        rw [hzero rest rfl]
        rfl
      · simp [trimZeros, hc]

/-- A strict text is its own strict form. -/
theorem normal?_of_strict? {text : List Char} {version : Version}
    (h : strict? text = some version) : normal? text = some text := by
  unfold strict? at h
  split at h
  next major minor patch hsplit =>
    simp only [Option.bind_eq_bind, Option.bind_eq_some_iff] at h
    obtain ⟨_, hmajor, _, hminor, _, hpatch, -⟩ := h
    obtain ⟨hdigits₁, htrim₁⟩ := trimZeros_of_strictNumber? hmajor
    obtain ⟨hdigits₂, htrim₂⟩ := trimZeros_of_strictNumber? hminor
    obtain ⟨hdigits₃, htrim₃⟩ := trimZeros_of_strictNumber? hpatch
    have hdigits : ∀ digits ∈ [major, minor, patch], IsDigits digits := by
      simp only [List.forall_mem_cons]
      exact ⟨hdigits₁, hdigits₂, hdigits₃, by simp⟩
    have hpadded : padded [major, minor, patch] = [major, minor, patch] := by
      simp [padded, htrim₁, htrim₂, htrim₃]
    have htext : dotted [major, minor, patch] ++ suffix text = text := by
      rw [← hsplit, dotted, List.intercalate_splitOn, core_append_suffix]
    have hform := normal?_append (by simp) (by simp) hdigits (isTail_suffix text)
    rwa [hpadded, htext] at hform
  next => exact absurd h (by simp)

/-- So the second attempt finds the version of the first. -/
theorem lenient?_of_strict? {text : List Char} {version : Version}
    (h : strict? text = some version) : lenient? text = some version := by
  rw [lenient?, normal?_of_strict? h]
  exact h

theorem strict?_or_lenient? (text : List Char) :
    (strict? text <|> lenient? text) = lenient? text := by
  cases hstrict : strict? text with
  | none => rfl
  | some version =>
    rw [lenient?_of_strict? hstrict]
    rfl

/-! ## The version of a tag -/

/-- The groups of a strict form are read as numbers that fit, or not at all. -/
theorem numbers_eq_some_iff {groups : List (List Char)} {back : List Char} {version : Version} :
    (do
      let major ← number? (groups.getD 0 ['0'])
      let minor ← number? (groups.getD 1 ['0'])
      let patch ← number? (groups.getD 2 ['0'])
      let (pre, build) ← suffix? back
      some { major, minor, patch, pre, build }) = some version ↔
    (∀ i < 3, IsGroup (groups.getD i ['0'])) ∧
      version.major.toNat = valueAt groups 0 ∧ version.minor.toNat = valueAt groups 1 ∧
      version.patch.toNat = valueAt groups 2 ∧
      suffix? back = some (version.pre, version.build) := by
  constructor
  · intro h
    simp only [Option.bind_eq_bind, Option.bind_eq_some_iff, Prod.exists] at h
    obtain ⟨major, hmajor, minor, hminor, patch, hpatch, pre, build, hback, hversion⟩ := h
    obtain rfl := Option.some.inj hversion
    obtain ⟨hgroup₁, hvalue₁⟩ := number?_eq_some_iff.1 hmajor
    obtain ⟨hgroup₂, hvalue₂⟩ := number?_eq_some_iff.1 hminor
    obtain ⟨hgroup₃, hvalue₃⟩ := number?_eq_some_iff.1 hpatch
    refine ⟨fun i hi => ?_, hvalue₁, hvalue₂, hvalue₃, hback⟩
    match i, hi with
    | 0, _ => exact hgroup₁
    | 1, _ => exact hgroup₂
    | 2, _ => exact hgroup₃
  · intro h
    obtain ⟨hgroups, hmajor, hminor, hpatch, hback⟩ := h
    rw [number?_eq_some_iff.2 ⟨hgroups 0 (by decide), hmajor⟩,
      number?_eq_some_iff.2 ⟨hgroups 1 (by decide), hminor⟩,
      number?_eq_some_iff.2 ⟨hgroups 2 (by decide), hpatch⟩, hback]
    rfl

/-- Of up to three groups, all fit exactly if the first three do, zeros standing for those that are
missing. -/
theorem forall_isGroup_iff {groups : List (List Char)} (hlen : groups.length ≤ 3) :
    (∀ i < 3, IsGroup (groups.getD i ['0'])) ↔ ∀ digits ∈ groups, IsGroup digits := by
  constructor
  · intro h digits hdigits
    obtain ⟨i, hi, rfl⟩ := List.getElem_of_mem hdigits
    have hgroup := h i (by omega)
    rwa [List.getD_eq_getElem?_getD, List.getElem?_eq_getElem hi] at hgroup
  · intro h i _
    rw [List.getD_eq_getElem?_getD]
    rcases Nat.lt_or_ge i groups.length with hi | hi
    · rw [List.getElem?_eq_getElem hi]
      exact h _ (List.getElem_mem hi)
    · rw [List.getElem?_eq_none hi]
      exact ⟨by simp, by simp, by decide⟩

/-- The second attempt alone accepts the grammar. -/
theorem lenient?_eq_some_iff {text : List Char} {version : Version} :
    lenient? text = some version ↔ Spells text version := by
  have hread {groups : List (List Char)} (hne : groups ≠ []) (hlen : groups.length ≤ 3)
      (h : ∀ digits ∈ groups, IsDigits digits) {back : List Char} (hback : IsTail back) :
      lenient? (dotted groups ++ back) = some version ↔
        (∀ digits ∈ groups, IsGroup digits) ∧
          version.major.toNat = valueAt groups 0 ∧ version.minor.toNat = valueAt groups 1 ∧
          version.patch.toNat = valueAt groups 2 ∧
          suffix? back = some (version.pre, version.build) := by
    rw [lenient?, normal?_append hne hlen h hback, Option.bind_some,
      strict?_padded hne hlen h hback, numbers_eq_some_iff, forall_isGroup_iff hlen]
  constructor
  · intro h
    obtain ⟨strictText, hnormal, -⟩ := Option.bind_eq_some_iff.1 h
    obtain ⟨groups, hne, hlen, hdigits, htext⟩ := exists_groups_of_normal? hnormal
    rw [htext] at h
    obtain ⟨hgroups, hmajor, hminor, hpatch, hsuffix⟩ :=
      (hread hne hlen hdigits (isTail_suffix text)).1 h
    obtain ⟨hpre, hbuild, hmarked⟩ := suffix?_eq_some_iff.1 hsuffix
    rw [hmarked] at htext
    exact ⟨groups, List.length_pos_iff.2 hne, hlen, hgroups, hmajor, hminor, hpatch, hpre, hbuild,
      htext⟩
  · intro h
    obtain ⟨groups, hpos, hlen, hgroups, hmajor, hminor, hpatch, hpre, hbuild, rfl⟩ := h
    have hdigits : ∀ digits ∈ groups, IsDigits digits := fun digits hmem =>
      ⟨(hgroups digits hmem).ne_nil, (hgroups digits hmem).digit⟩
    exact (hread (List.length_pos_iff.1 hpos) hlen hdigits (isTail_marked _ _)).2
      ⟨hgroups, hmajor, hminor, hpatch, suffix?_eq_some_iff.2 ⟨hpre, hbuild, rfl⟩⟩

/-- A text that spells a version begins with a digit. -/
theorem isDigit_of_spells {c : Char} {text : List Char} {version : Version}
    (h : Spells (c :: text) version) : c.isDigit := by
  obtain ⟨groups, hpos, -, hgroups, -, -, -, -, -, htext⟩ := h
  cases groups with
  | nil => exact absurd hpos (by simp)
  | cons digits groups =>
    have hgroup := hgroups digits (by simp)
    cases digits with
    | nil => exact absurd rfl hgroup.ne_nil
    | cons d digits =>
      have hc : c = d := by
        cases groups with
        | nil => simpa [dotted, List.intercalate] using (List.cons.inj htext).1
        | cons next groups =>
          rw [dotted_cons_cons] at htext
          exact (List.cons.inj htext).1
      exact hc ▸ hgroup.digit d (by simp)

/-- **The tags that are versions**: a tag is read as a version exactly if its text spells that
version, after a `v` if there is one. -/
theorem ofTag?_eq_some_iff (tag : String) (version : Version) :
    ofTag? tag = some version ↔
      ∃ text, (tag.toList = text ∨ tag.toList = 'v' :: text) ∧ Spells text version := by
  have hattempts (text : List Char) :
      (strict? text <|> lenient? text) = some version ↔ Spells text version := by
    rw [← lenient?_eq_some_iff]
    cases hstrict : strict? text with
    | none => rfl
    | some first => rw [lenient?_of_strict? hstrict]; rfl
  unfold ofTag?
  dsimp only
  rw [hattempts]
  split
  next text htag =>
    rw [htag]
    constructor
    · exact fun hspells => ⟨text, Or.inr rfl, hspells⟩
    · intro hspelled
      obtain ⟨other, htext, hspells⟩ := hspelled
      rcases htext with rfl | heq
      · -- a version does not begin with a letter
        exact absurd (isDigit_of_spells hspells) (by decide)
      · exact (List.cons.inj heq).2 ▸ hspells
  next text hnot =>
    constructor
    · exact fun hspells => ⟨tag.toList, Or.inl rfl, hspells⟩
    · intro hspelled
      obtain ⟨other, htext, hspells⟩ := hspelled
      rcases htext with rfl | heq
      · exact hspells
      · exact absurd heq (hnot other)

end LatestTag.Version
