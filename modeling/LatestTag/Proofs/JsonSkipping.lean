import LatestTag.Json.Skip
import LatestTag.Proofs.JsonValues

/-!
# Values are skipped up to their end

A value that does not matter is skipped without a look at what it stands for. Strings may pair
surrogates wrongly, numbers may be of any size, and lists and objects may nest to any depth; still
the reader has to find where the value ends, or what follows would be misread.

> `exists_skips`: the turns of the loop that a JSON value takes are fewer than twice its
> characters, and they leave what stands behind it, with the same lists and objects still open.

> `yields_skipValue`: so every JSON value is skipped, wherever it stands.

The first one goes by the grammar. The parts of a list or an object, its items or members, are
skipped one after another (`Part.Skips`), each from the comma before it.
-/

namespace LatestTag.Json

variable {tail : List Char}

/-! ## Strings -/

/-- A string ends at the first quote that is not escaped. -/
theorem skipChars_isBody {body : List Char} (hbody : IsBody body) (rest : List Char) :
    skipChars (body ++ '"' :: rest) = .ok rest := by
  induction hbody with
  | nil => rw [List.nil_append, skipChars]
  | plain hc _ ih =>
    rw [List.cons_append, skipChars, if_neg hc.not_low, ih]
    · exact hc.1
    -- the patterns before the last one all begin with a backslash
    all_goals
      intros
      exact absurd ‹_ = '\\'› hc.2.1
  | escape hc _ ih =>
    obtain ⟨hu, hletter⟩ := ofShortEscape?_of_isEscape hc
    rw [List.cons_append, List.cons_append, skipChars, hletter, if_pos Option.isSome_some, ih]
    · intro _ _ _ _ _ heq
      exact absurd heq hu
    · exact hu
  | unit hunit _ ih =>
    simp only [List.cons_append]
    rw [skipChars, hexQuad?_of_isQuad hunit]
    exact ih

/-! ## Numbers -/

theorem skipDigits_append {digits back : List Char} (hdigits : IsDigits digits)
    (hback : ∀ c ∈ back.head?, c.isDigit = false) : skipDigits (digits ++ back) = .ok back := by
  obtain ⟨hne, hdigit⟩ := hdigits
  obtain ⟨d, rest, rfl⟩ := List.exists_cons_of_ne_nil hne
  have hrest : ∀ c ∈ rest, c.isDigit := fun c hc => hdigit c (List.mem_cons_of_mem d hc)
  have hdrop : (rest ++ back).dropWhile Char.isDigit = back := by
    have hsplit := List.takeWhile_append_dropWhile (p := Char.isDigit) (l := rest ++ back)
    rw [Numeral.takeWhile_isDigit_append hrest hback] at hsplit
    exact List.append_cancel_left hsplit
  rw [List.cons_append, skipDigits, if_pos (hdigit d List.mem_cons_self), hdrop]

theorem skipExponent_append (exponent? : Option Exponent) (htail : IsEnd tail) :
    skipExponent (NumberLiteral.exponentText exponent? ++ tail) = .ok tail := by
  cases exponent? with
  | none =>
    -- what follows goes on no number
    rw [NumberLiteral.exponentText, List.nil_append]
    unfold skipExponent
    split
    · exact absurd rfl htail.head_ne.2.1
    · exact absurd rfl htail.head_ne.2.2
    · rfl
  | some exponent =>
    have hskip : skipDigits (readExponentSign (exponent.sign ++ (exponent.digits ++ tail))).2 =
        .ok tail := by
      rw [readExponentSign_append exponent.isSign exponent.isDigits]
      exact skipDigits_append exponent.isDigits htail.not_digit
    rw [NumberLiteral.exponentText, Exponent.text, List.cons_append, List.append_assoc]
    rcases exponent.isLetter with hletter | hletter
    · rw [hletter]
      exact hskip
    · rw [hletter]
      exact hskip

/-- What is skipped behind the digits of an integer. -/
def skipBehind : List Char → Except Problem (List Char)
  | '.' :: rest => skipDigits rest >>= skipExponent
  | rest => skipExponent rest

theorem skipNumber_append {whole back : List Char} (hwhole : IsInteger whole)
    (hback : ∀ c ∈ back.head?, c.isDigit = false) :
    skipNumber (whole ++ back) = skipBehind back := by
  obtain ⟨hdigits, hzero⟩ := hwhole
  have hskip := skipDigits_append hdigits hback
  obtain ⟨d, rest, rfl⟩ := List.exists_cons_of_ne_nil hdigits.1
  by_cases hd : d = '0'
  · -- a zero stands alone
    obtain rfl : rest = [] := hzero rest (hd ▸ rfl)
    subst hd
    cases back with
    | nil => rfl
    | cons c back =>
      have hc : c.isDigit = false := hback c rfl
      unfold skipNumber
      simp only [List.cons_append, List.nil_append, hc]
      rfl
  · have hbind : skipNumber (d :: rest ++ back) =
        skipDigits (d :: rest ++ back) >>= skipBehind := by
      unfold skipNumber
      split
      · next heq => exact absurd (List.head_eq_of_cons_eq heq) hd
      · rfl
    rw [hbind, hskip]
    rfl

theorem skipBehind_exponentText (exponent? : Option Exponent) (htail : IsEnd tail) :
    skipBehind (NumberLiteral.exponentText exponent? ++ tail) = .ok tail := by
  have hpoint : (NumberLiteral.exponentText exponent? ++ tail).head? ≠ some '.' := by
    intro h
    cases exponent? with
    | none => exact absurd (htail '.' h) (by decide)
    | some exponent =>
      have hletter : exponent.letter = '.' := Option.some.inj h
      rcases exponent.isLetter with h | h <;> exact absurd (h.symm.trans hletter) (by decide)
  rw [← skipExponent_append exponent? htail]
  unfold skipBehind
  split
  · next heq => exact absurd (heq ▸ List.head?_cons) hpoint
  · rfl

/-- **A number** ends where nothing goes on it. -/
theorem skipNumber_unsigned (literal : NumberLiteral) (htail : IsEnd tail) :
    skipNumber (literal.unsigned ++ tail) = .ok tail := by
  rw [NumberLiteral.unsigned, List.append_assoc, List.append_assoc]
  by_cases hfraction : literal.fraction = []
  · have hfraction : literal.fractionText = [] := if_pos hfraction
    rw [hfraction, List.nil_append,
      skipNumber_append literal.isInteger (exponentText_head literal.exponent? htail),
      skipBehind_exponentText literal.exponent? htail]
  · have hdigits : IsDigits literal.fraction := ⟨hfraction, literal.isFraction⟩
    have hfraction : literal.fractionText = '.' :: literal.fraction := if_neg hfraction
    rw [hfraction, List.cons_append,
      skipNumber_append literal.isInteger (fun c hc => by cases hc; rfl)]
    show skipDigits _ >>= skipExponent = _
    rw [skipDigits_append hdigits (exponentText_head literal.exponent? htail)]
    exact skipExponent_append literal.exponent? htail

/-! ## The loop -/

/-- The value takes so many turns, and leaves what stands behind it. -/
def Skips (turns : Nat) (text : List Char) : Prop :=
  ∀ (fuel : Nat) (outer : List Enclosing) (blank : Blank) (tail : List Char), IsEnd tail →
    skipTurns (fuel + turns) .value outer (blank.chars ++ (text ++ tail)) =
      skipTurns fuel .after outer tail

theorem skipSpace_blank (blank : Blank) {c : Char} (hc : isSpace c = false) (rest : List Char) :
    skipSpace (blank.chars ++ c :: rest) = c :: rest := by
  unfold skipSpace
  rw [List.dropWhile_append_of_pos blank.isSpace,
    List.dropWhile_cons_of_neg (ne_true_of_eq_false hc)]

/-- A value that is neither a list nor an object takes one turn. -/
theorem skips_scalar {c : Char} {rest : List Char} (hspace : isSpace c = false) (hlist : c ≠ '[')
    (hobject : c ≠ '\x7b') (hskip : ∀ tail, IsEnd tail → skipScalar c (rest ++ tail) = .ok tail) :
    Skips 1 (c :: rest) := by
  intro fuel outer blank tail htail
  rw [skipTurns, List.cons_append, skipSpace_blank blank hspace]
  split
  · next heq => cases heq
  · next heq => exact absurd (List.head_eq_of_cons_eq heq) hlist
  · next heq => exact absurd (List.head_eq_of_cons_eq heq) hobject
  · next heq =>
    obtain ⟨rfl, rfl⟩ := List.cons.inj heq
    rw [hskip tail htail]
    rfl

/-- A digit begins a number. -/
theorem skipScalar_of_isDigit {d : Char} (hd : d.isDigit) (rest : List Char) :
    skipScalar d rest = skipNumber (d :: rest) := by
  obtain ⟨_, _, hn, ht, hf, hquote⟩ := number_first (Or.inr hd)
  have hminus : d ≠ '-' := by
    rintro rfl
    exact absurd hd (by decide)
  unfold skipScalar
  rw [if_neg hn, if_neg ht, if_neg hf, if_neg hquote, if_neg hminus, if_pos hd]

theorem skips_number (literal : NumberLiteral) : Skips 1 literal.text := by
  unfold NumberLiteral.text
  cases literal.isNegative with
  | true => exact skips_scalar rfl (by decide) (by decide) fun tail => skipNumber_unsigned literal
  | false =>
    obtain ⟨d, rest, hunsigned, hd⟩ := literal.exists_unsigned
    have hlist : d ≠ '[' := by
      rintro rfl
      exact absurd hd (by decide)
    have hobject : d ≠ '\x7b' := by
      rintro rfl
      exact absurd hd (by decide)
    rw [if_neg Bool.false_ne_true, hunsigned]
    refine skips_scalar (isSpace_of_isDigit hd) hlist hobject fun tail htail => ?_
    rw [skipScalar_of_isDigit hd, ← List.cons_append, ← hunsigned]
    exact skipNumber_unsigned literal htail

theorem skips_string (literal : StringLiteral) : Skips 1 literal.text := by
  refine skips_scalar rfl (by decide) (by decide) fun tail _ => ?_
  rw [List.append_assoc]
  exact skipChars_isBody literal.isBody tail

/-! ## Lists and objects -/

/-- The character that begins it. -/
def Enclosing.opening : Enclosing → Char
  | list => '['
  | object => '\x7b'

/-- An item or a member, and the space around it. -/
structure Part where
  front : Blank
  core : List Char
  behind : Blank

/-- The part as it is written. -/
def Part.text (part : Part) : List Char := part.front.chars ++ (part.core ++ part.behind.chars)

/-- Parts with a comma before each of them. -/
def laterText (parts : List Part) : List Char := parts.flatMap fun part => ',' :: part.text

/-- A list or an object of the parts; the blank is for one without any. -/
def enclosedText (inner : Enclosing) (blank : Blank) (parts : List Part) : List Char :=
  inner.opening :: (blank.chars ++ ([','].intercalate (parts.map Part.text) ++ [inner.closing]))

/-- Behind the comma the part takes so many turns, and leaves what stands behind it. -/
structure Part.Skips (inner : Enclosing) (turns : Nat) (part : Part) : Prop where
  begins : ∃ c rest, part.core = c :: rest ∧ isSpace c = false ∧ c ≠ inner.closing
  skips : ∀ (fuel : Nat) (outer : List Enclosing) (blank : Blank) (tail : List Char), IsEnd tail →
    (skipName inner (blank.chars ++ (part.core ++ tail)) >>=
        skipTurns (fuel + turns) .value (inner :: outer)) =
      skipTurns fuel .after (inner :: outer) tail

section Turns

variable (inner : Enclosing) (fuel : Nat) (outer : List Enclosing) (blank : Blank)
  (rest : List Char)

theorem isSpace_closing : isSpace inner.closing = false := by
  cases inner <;> rfl

theorem skipTurns_opening :
    skipTurns (fuel + 1) .value outer (blank.chars ++ inner.opening :: rest) =
      skipTurns fuel .first (inner :: outer) rest := by
  cases inner with
  | list =>
    rw [skipTurns, Enclosing.opening, skipSpace_blank blank rfl]
    rfl
  | object =>
    rw [skipTurns, Enclosing.opening, skipSpace_blank blank rfl]
    rfl

theorem skipTurns_first_closing :
    skipTurns (fuel + 1) .first (inner :: outer) (blank.chars ++ inner.closing :: rest) =
      skipTurns fuel .after outer rest := by
  conv_lhs => unfold skipTurns
  rw [skipSpace_blank blank (isSpace_closing inner)]
  exact if_pos rfl

theorem skipTurns_first {c : Char} (hspace : isSpace c = false) (hclosing : c ≠ inner.closing) :
    skipTurns (fuel + 1) .first (inner :: outer) (blank.chars ++ c :: rest) =
      skipName inner (c :: rest) >>= skipTurns fuel .value (inner :: outer) := by
  conv_lhs => unfold skipTurns
  rw [skipSpace_blank blank hspace]
  exact if_neg hclosing

theorem skipTurns_closing :
    skipTurns (fuel + 1) .after (inner :: outer) (blank.chars ++ inner.closing :: rest) =
      skipTurns fuel .after outer rest := by
  have hcomma : inner.closing ≠ ',' := by
    cases inner <;> decide
  conv_lhs => unfold skipTurns
  rw [skipSpace_blank blank (isSpace_closing inner)]
  exact (if_neg hcomma).trans (if_pos rfl)

theorem skipTurns_comma :
    skipTurns (fuel + 1) .after (inner :: outer) (blank.chars ++ ',' :: rest) =
      skipName inner rest >>= skipTurns fuel .value (inner :: outer) := by
  conv_lhs => unfold skipTurns
  rw [skipSpace_blank blank rfl]
  exact if_pos rfl

end Turns

theorem isEnd_laterText (inner : Enclosing) (parts : List Part) (rest : List Char) :
    IsEnd (laterText parts ++ inner.closing :: rest) := by
  intro c hc
  cases parts with
  | nil =>
    obtain rfl := Option.some.inj hc
    cases inner <;> decide
  | cons part parts =>
    obtain rfl := Option.some.inj hc
    decide

/-- What takes fewer turns than twice its characters. -/
def Part.Bounded (inner : Enclosing) (part : Part) : Prop :=
  ∃ turns, turns < 2 * part.core.length ∧ part.Skips inner turns

/-- **The parts behind the first one** are skipped one after another, with the end. -/
theorem exists_skips_laterText {inner : Enclosing} {parts : List Part}
    (hparts : ∀ part ∈ parts, part.Bounded inner) :
    ∃ turns, turns ≤ 2 * (laterText parts).length + 1 ∧
      ∀ (fuel : Nat) (outer : List Enclosing) (blank : Blank) (rest : List Char),
        skipTurns (fuel + turns) .after (inner :: outer)
            (blank.chars ++ (laterText parts ++ inner.closing :: rest)) =
          skipTurns fuel .after outer rest := by
  induction parts with
  | nil =>
    refine ⟨1, Nat.le_add_left 1 _, fun fuel outer blank rest => ?_⟩
    exact skipTurns_closing inner fuel outer blank rest
  | cons part parts ih =>
    obtain ⟨turns, hturns, hpart⟩ := hparts part List.mem_cons_self
    obtain ⟨more, hmore, hlater⟩ := ih fun p hp => hparts p (List.mem_cons_of_mem _ hp)
    have hcons : laterText (part :: parts) =
        ',' :: (part.front.chars ++ (part.core ++ (part.behind.chars ++ laterText parts))) := by
      simp [laterText, Part.text]
    refine ⟨more + turns + 1, ?_, fun fuel outer blank rest => ?_⟩
    · rw [hcons]
      simp only [List.length_cons, List.length_append]
      omega
    · rw [hcons, ← Nat.add_assoc, ← Nat.add_assoc]
      simp only [List.cons_append, List.append_assoc]
      rw [skipTurns_comma, hpart.skips _ _ _ _
        (isEnd_blank part.behind (isEnd_laterText inner parts rest))]
      exact hlater fuel outer part.behind rest

/-- **A list or an object** is skipped if its parts are. -/
theorem exists_skips_enclosedText {inner : Enclosing} {parts : List Part} (blank : Blank)
    (hparts : ∀ part ∈ parts, part.Bounded inner) :
    ∃ turns, turns < 2 * (enclosedText inner blank parts).length ∧
      Skips turns (enclosedText inner blank parts) := by
  cases parts with
  | nil =>
    refine ⟨2, ?_, fun fuel outer lead tail _ => ?_⟩
    · simp [enclosedText]
    · have htext : enclosedText inner blank [] ++ tail =
          inner.opening :: (blank.chars ++ inner.closing :: tail) := by
        simp [enclosedText]
      rw [htext, skipTurns_opening, skipTurns_first_closing]
  | cons part parts =>
    obtain ⟨turns, hturns, hpart⟩ := hparts part List.mem_cons_self
    obtain ⟨more, hmore, hlater⟩ :=
      exists_skips_laterText fun p hp => hparts p (List.mem_cons_of_mem _ hp)
    obtain ⟨c, rest, hcore, hspace, hclosing⟩ := hpart.begins
    have htext : enclosedText inner blank (part :: parts) = inner.opening ::
        ((blank.append part.front).chars ++ (part.core ++
          (part.behind.chars ++ (laterText parts ++ [inner.closing])))) := by
      rw [enclosedText, List.map_cons, intercalate_comma, List.flatMap_map]
      simp [Part.text, laterText, Blank.append]
    refine ⟨more + turns + 1 + 1, ?_, fun fuel outer lead tail _ => ?_⟩
    · rw [htext]
      simp only [List.length_cons, List.length_append, List.length_nil]
      omega
    · rw [htext, ← Nat.add_assoc, ← Nat.add_assoc, ← Nat.add_assoc]
      simp only [List.cons_append, List.append_assoc, List.nil_append]
      rw [skipTurns_opening]
      have hfirst (back : List Char) := skipTurns_first inner (fuel + more + turns) outer
        (blank.append part.front) (rest ++ back) hspace hclosing
      rw [hcore, List.cons_append, hfirst, ← List.cons_append, ← hcore]
      have hskip := hpart.skips (fuel + more) outer .none _
        (isEnd_blank part.behind (isEnd_laterText inner parts tail))
      exact hskip.trans (hlater fuel outer part.behind tail)

/-! ## Values -/

/-- An item as a part of a list. -/
def Item.part (item : Item) : Part := ⟨item.before, item.value, item.behind⟩

/-- A member as a part of an object. -/
def Member.part (member : Member) : Part := ⟨member.front, member.core, member.behind⟩

theorem listText_eq (blank : Blank) (items : List Item) :
    listText blank items = enclosedText .list blank (items.map Item.part) := by
  rw [listText, enclosedText, List.map_map]
  rfl

theorem objectText_eq (blank : Blank) (members : List Member) :
    objectText blank members = enclosedText .object blank (members.map Member.part) := by
  have htext : Member.text = Part.text ∘ Member.part := funext fun member => member.text_eq
  rw [objectText, enclosedText, List.map_map, htext]
  rfl

/-- An item is its value. -/
theorem Item.skips {item : Item} {turns : Nat} (hvalue : IsValue item.value)
    (h : Skips turns item.value) : item.part.Skips .list turns where
  begins := by
    obtain ⟨c, hkind⟩ := hvalue.exists_kind
    obtain ⟨rest, hrest⟩ := hkind.begins
    exact ⟨c, rest, hrest, hkind.not_space, hkind.not_end⟩
  skips := fun fuel outer blank tail htail => h fuel (.list :: outer) blank tail htail

/-- The name of a member is skipped with its colon, and then the value. -/
theorem Member.skips {member : Member} {turns : Nat} (h : Skips turns member.value) :
    member.part.Skips .object turns where
  begins := ⟨'"', _, rfl, rfl, by decide⟩
  skips := by
    intro fuel outer blank tail htail
    have hname : skipName .object (blank.chars ++ (member.core ++ tail)) =
        .ok (member.before.chars ++ (member.value ++ tail)) := by
      have hliteral (back : List Char) : member.name.text ++ back =
          '"' :: (member.name.body ++ '"' :: back) := by
        simp [StringLiteral.text]
      rw [member.core_append, hliteral, skipName, skipSpace_blank blank rfl]
      dsimp only
      rw [if_pos rfl, skipChars_isBody member.name.isBody]
      dsimp only [Bind.bind, Except.bind]
      rw [skipSpace_blank member.middle rfl]
      rfl
    show skipName .object (blank.chars ++ (member.core ++ tail)) >>= _ = _
    rw [hname]
    exact h fuel (.object :: outer) member.before tail htail

/-- **Every value is skipped** as a whole, in fewer turns than twice its characters. -/
theorem exists_skips {text : List Char} (h : IsValue text) :
    ∃ turns, turns < 2 * text.length ∧ Skips turns text := by
  have hone {text : List Char} (hskips : Skips 1 text) (hne : text ≠ []) :
      ∃ turns, turns < 2 * text.length ∧ Skips turns text := by
    have hpos := List.length_pos_iff.2 hne
    exact ⟨1, by omega, hskips⟩
  induction h with
  | null => exact hone (skips_scalar rfl (by decide) (by decide) fun _ _ => rfl) (by decide)
  | true => exact hone (skips_scalar rfl (by decide) (by decide) fun _ _ => rfl) (by decide)
  | false => exact hone (skips_scalar rfl (by decide) (by decide) fun _ _ => rfl) (by decide)
  | number literal =>
    obtain ⟨c, rest, htext, -⟩ := literal.exists_first
    exact hone (skips_number literal) (htext ▸ List.cons_ne_nil c rest)
  | string literal => exact hone (skips_string literal) (List.cons_ne_nil _ _)
  | list blank hitems ih =>
    rw [listText_eq]
    refine exists_skips_enclosedText blank fun part hpart => ?_
    obtain ⟨item, hitem, rfl⟩ := List.mem_map.1 hpart
    obtain ⟨turns, hturns, hskips⟩ := ih item hitem
    exact ⟨turns, hturns, Item.skips (hitems item hitem) hskips⟩
  | object blank hmembers ih =>
    rw [objectText_eq]
    refine exists_skips_enclosedText blank fun part hpart => ?_
    obtain ⟨member, hmember, rfl⟩ := List.mem_map.1 hpart
    obtain ⟨turns, hturns, hskips⟩ := ih member hmember
    refine ⟨turns, ?_, Member.skips hskips⟩
    have hlength : member.value.length ≤ member.part.core.length := by
      simp only [Member.part, Member.core, List.length_append, List.length_cons]
      omega
    omega

/-- **A value is skipped** wherever it stands. -/
theorem yields_skipValue {text : List Char} (h : IsValue text) :
    Yields Reader.skipValue text (.ok ()) := by
  intro blank tail htail
  obtain ⟨turns, hturns, hskips⟩ := exists_skips h
  obtain ⟨fuel, hfuel⟩ : ∃ fuel,
      2 * (blank.chars ++ (text ++ tail)).length + 2 = fuel + 1 + turns := by
    refine ⟨2 * (blank.chars ++ (text ++ tail)).length + 1 - turns, ?_⟩
    rw [List.length_append, List.length_append]
    omega
  rw [Reader.skipValue, hfuel, hskips (fuel + 1) [] blank tail htail, skipTurns]
  rfl

end LatestTag.Json
