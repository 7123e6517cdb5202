import LatestTag.Json.Value
import LatestTag.Proofs.JsonNumbers
import LatestTag.Proofs.JsonStrings
import Mathlib.Data.List.DropRight

/-!
# Values of a kind are read wherever they stand

A value in an object or a list has space in front of it and space, a comma or an end behind it. What
a reader makes of the value depends on none of these (`Yields`), and this file says for the readers
of fields what that is:

> `Decodes reader Says`: the reader takes exactly the values that say something of its kind, and
> refuses every other JSON value for a reason that lies in the value.

A value shows by its first character of what kind it is (`IsValue.exists_kind`). The reader of a
kind goes by it, and so it is enough to look at the values that begin in the right way; all others
are read only to be refused (`Reader.exists_refuse`).
-/

namespace LatestTag.Json

variable {α β : Type} {reader : Reader α} {text : List Char}

/-- The reader makes the outcome of the text, whatever space is in front and whatever ends it. -/
def Yields (reader : Reader α) (text : List Char) (outcome : Except Problem α) : Prop :=
  ∀ (blank : Blank) (tail : List Char), IsEnd tail →
    reader (blank.chars ++ (text ++ tail)) = outcome.map (·, tail)

/-- The reader reads exactly the values that say something, as what they say. -/
structure Decodes (reader : Reader α) (Says : List Char → α → Prop) : Prop where
  reads : ∀ text value, Says text value → Yields reader text (.ok value)
  settles : ∀ text, IsValue text →
    ∃ outcome, Yields reader text outcome ∧ ∀ value, outcome = .ok value → Says text value

/-! ## Steps of a reader -/

theorem Blank.isSpace (blank : Blank) : ∀ c ∈ blank.chars, isSpace c = true := by
  intro c hc
  rcases blank.blank c hc with rfl | rfl | rfl | rfl <;> rfl

namespace Reader

/-- What has been read is handed on, with what stands behind it. -/
theorem bind_of_ok {next : α → Reader β} {value : α} {ahead rest : List Char}
    (h : reader ahead = .ok (value, rest)) : (reader >>= next) ahead = next value rest := by
  show (reader ahead >>= fun read => next read.1 read.2) = next value rest
  rw [h]
  rfl

/-- The space in front is skipped. -/
theorem peek_blank (blank : Blank) {c : Char} (hc : isSpace c = false) (rest : List Char) :
    peek (blank.chars ++ c :: rest) = .ok (c, c :: rest) := by
  unfold peek skipSpace
  rw [List.dropWhile_append_of_pos blank.isSpace,
    List.dropWhile_cons_of_neg (ne_true_of_eq_false hc)]

theorem peek_cons {c : Char} (hc : isSpace c = false) (rest : List Char) :
    peek (c :: rest) = .ok (c, c :: rest) := peek_blank .none hc rest

/-- What is next stays next. -/
theorem peek_of_peek {c : Char} {ahead back : List Char} (h : peek ahead = .ok (c, back)) :
    peek back = .ok (c, back) := by
  have hskip : skipSpace (skipSpace ahead) = skipSpace ahead := List.dropWhile_idempotent _ _
  unfold peek at h ⊢
  split at h
  next => cases h
  next first rest heq =>
    rw [heq] at hskip
    obtain ⟨rfl, rfl⟩ := Prod.mk.inj (Except.ok.inj h)
    rw [hskip]

end Reader

/-! ## Text between values -/

theorem isEnd_blank (blank : Blank) {tail : List Char} (htail : IsEnd tail) :
    IsEnd (blank.chars ++ tail) := by
  cases hchars : blank.chars with
  | nil => exact htail
  | cons c rest =>
    intro d hd
    obtain rfl := Option.some.inj hd
    rcases blank.blank c (hchars ▸ List.mem_cons_self) with rfl | rfl | rfl | rfl <;> decide

/-- Parts with commas between them are the first one and then each other one behind its comma. -/
theorem intercalate_comma (first : List Char) (parts : List (List Char)) :
    [','].intercalate (first :: parts) = first ++ parts.flatMap (',' :: ·) := by
  induction parts generalizing first with
  | nil => simp
  | cons next parts ih =>
    rw [List.intercalate_cons_cons, ih, List.flatMap_cons]
    simp

/-- A member without the space in front and behind. -/
def Member.core (member : Member) : List Char :=
  member.name.text ++ (member.middle.chars ++ ':' :: (member.before.chars ++ member.value))

theorem Member.text_eq (member : Member) :
    member.text = member.front.chars ++ (member.core ++ member.behind.chars) := by
  simp [Member.text, Item.text, Member.core]

theorem Member.core_append (member : Member) (tail : List Char) :
    member.core ++ tail = member.name.text ++
      (member.middle.chars ++ ':' :: (member.before.chars ++ (member.value ++ tail))) := by
  simp [Member.core]

/-! ## First characters -/

theorem isSpace_of_isDigit {c : Char} (h : c.isDigit) : isSpace c = false := by
  cases hspace : isSpace c with
  | false => rfl
  | true =>
    simp only [isSpace, Bool.or_eq_true, beq_iff_eq, or_assoc] at hspace
    rcases hspace with rfl | rfl | rfl | rfl <;> exact absurd h (by decide)

/-- The first character of a number. -/
theorem number_first {c : Char} (h : c = '-' ∨ c.isDigit) :
    isSpace c = false ∧ c ≠ ']' ∧ c ≠ 'n' ∧ c ≠ 't' ∧ c ≠ 'f' ∧ c ≠ '"' := by
  rcases h with rfl | hdigit
  · decide
  · have hne {d : Char} (hd : d.isDigit = false) : c ≠ d := by
      intro heq
      rw [heq, hd] at hdigit
      exact absurd hdigit Bool.false_ne_true
    exact ⟨isSpace_of_isDigit hdigit, hne rfl, hne rfl, hne rfl, hne rfl, hne rfl⟩

theorem NumberLiteral.exists_first (literal : NumberLiteral) :
    ∃ c rest, literal.text = c :: rest ∧ (c = '-' ∨ c.isDigit) := by
  obtain ⟨d, rest, hunsigned, hd⟩ := literal.exists_unsigned
  unfold text
  cases literal.isNegative with
  | true => exact ⟨'-', _, rfl, Or.inl rfl⟩
  | false => exact ⟨d, rest, hunsigned, Or.inr hd⟩

/-- What the first character of a value says about it. -/
structure Kind (text : List Char) (first : Char) : Prop where
  begins : ∃ rest, text = first :: rest
  not_space : isSpace first = false
  not_end : first ≠ ']'
  null : first = 'n' → text = "null".toList
  true : first = 't' → text = "true".toList
  false : first = 'f' → text = "false".toList
  string : first = '"' → ∃ literal : StringLiteral, text = literal.text
  number : first = '-' ∨ first.isDigit → ∃ literal : NumberLiteral, text = literal.text

/-- **Every value shows its kind** by its first character. -/
theorem IsValue.exists_kind (h : IsValue text) : ∃ first, Kind text first := by
  have no {p q : Prop} (hp : ¬ p) : p → q := fun h => absurd h hp
  cases h with
  | null =>
    exact ⟨'n', ⟨_, rfl⟩, rfl, by decide, fun _ => rfl, no (by decide), no (by decide),
      no (by decide), no (by decide)⟩
  | true =>
    exact ⟨'t', ⟨_, rfl⟩, rfl, by decide, no (by decide), fun _ => rfl, no (by decide),
      no (by decide), no (by decide)⟩
  | false =>
    exact ⟨'f', ⟨_, rfl⟩, rfl, by decide, no (by decide), no (by decide), fun _ => rfl,
      no (by decide), no (by decide)⟩
  | string literal =>
    exact ⟨'"', ⟨_, rfl⟩, rfl, by decide, no (by decide), no (by decide), no (by decide),
      fun _ => ⟨literal, rfl⟩, no (by decide)⟩
  | number literal =>
    obtain ⟨c, rest, htext, hc⟩ := literal.exists_first
    obtain ⟨hspace, hend, hn, ht, hf, hquote⟩ := number_first hc
    exact ⟨c, ⟨rest, htext⟩, hspace, hend, no hn, no ht, no hf, no hquote,
      fun _ => ⟨literal, rfl⟩⟩
  | list blank hitems =>
    exact ⟨'[', ⟨_, rfl⟩, rfl, by decide, no (by decide), no (by decide), no (by decide),
      no (by decide), no (by decide)⟩
  | object blank hmembers =>
    exact ⟨'\x7b', ⟨_, rfl⟩, rfl, by decide, no (by decide), no (by decide), no (by decide),
      no (by decide), no (by decide)⟩

theorem Kind.peek {first : Char} (h : Kind text first) (blank : Blank) (tail : List Char) :
    Reader.peek (blank.chars ++ (text ++ tail)) = .ok (first, text ++ tail) := by
  obtain ⟨rest, rfl⟩ := h.begins
  exact Reader.peek_blank blank h.not_space _

/-! ## Values that are refused -/

namespace Reader

/-- Every value is shown in the same way wherever it stands. -/
theorem exists_inspected (h : IsValue text) :
    ∃ outcome : Except Problem String, ∀ (blank : Blank) (tail : List Char), IsEnd tail →
      ∃ rest, inspected (blank.chars ++ (text ++ tail)) = outcome.map (·, rest) := by
  unfold inspected
  cases h with
  | null =>
    refine ⟨.ok "null", fun blank tail _ => ⟨tail, ?_⟩⟩
    show (peek >>= _) (blank.chars ++ 'n' :: 'u' :: 'l' :: 'l' :: tail) = _
    rw [bind_of_ok (peek_blank blank rfl _)]
    rfl
  | true =>
    refine ⟨.ok "boolean `true`", fun blank tail _ => ⟨tail, ?_⟩⟩
    show (peek >>= _) (blank.chars ++ 't' :: 'r' :: 'u' :: 'e' :: tail) = _
    rw [bind_of_ok (peek_blank blank rfl _)]
    rfl
  | false =>
    refine ⟨.ok "boolean `false`", fun blank tail _ => ⟨tail, ?_⟩⟩
    show (peek >>= _) (blank.chars ++ 'f' :: 'a' :: 'l' :: 's' :: 'e' :: tail) = _
    rw [bind_of_ok (peek_blank blank rfl _)]
    rfl
  | string literal =>
    obtain ⟨outcome, hread, _⟩ := exists_quoted literal
    refine ⟨outcome.map fun s => "string " ++ Text.quote s, fun blank tail _ => ⟨tail, ?_⟩⟩
    have hpeek : peek (blank.chars ++ (literal.text ++ tail)) = .ok ('"', literal.text ++ tail) :=
      peek_blank blank rfl _
    rw [bind_of_ok hpeek]
    show (quoted (literal.text ++ tail) >>= _) = _
    rw [hread]
    cases outcome with
    | ok s => rfl
    | error problem => rfl
  | number literal =>
    obtain ⟨outcome, hread, _⟩ := exists_number literal
    obtain ⟨c, rest, htext, hc⟩ := literal.exists_first
    obtain ⟨hspace, _, hn, ht, hf, hquote⟩ := number_first hc
    refine ⟨outcome.map Number.inspect, fun blank tail htail => ⟨tail, ?_⟩⟩
    have hpeek : peek (blank.chars ++ (literal.text ++ tail)) = .ok (c, literal.text ++ tail) := by
      rw [htext]
      exact peek_blank blank hspace _
    rw [bind_of_ok hpeek, if_neg hn, if_neg ht, if_neg hf, if_neg hquote,
      if_pos (by simpa using hc)]
    show (number (literal.text ++ tail) >>= _) = _
    rw [hread tail htail]
    cases outcome with
    | ok n => rfl
    | error problem => rfl
  | @list blank' items hitems =>
    -- what is in it is not read
    refine ⟨.ok "sequence", fun blank tail _ => ⟨listText blank' items ++ tail, ?_⟩⟩
    have hpeek : peek (blank.chars ++ (listText blank' items ++ tail)) =
        .ok ('[', listText blank' items ++ tail) := peek_blank blank rfl _
    rw [bind_of_ok hpeek]
    rfl
  | @object blank' members hmembers =>
    refine ⟨.ok "map", fun blank tail _ => ⟨objectText blank' members ++ tail, ?_⟩⟩
    have hpeek : peek (blank.chars ++ (objectText blank' members ++ tail)) =
        .ok ('\x7b', objectText blank' members ++ tail) := peek_blank blank rfl _
    rw [bind_of_ok hpeek]
    rfl

/-- **Any value can be refused**, with a reason that lies in it. -/
theorem exists_refuse (h : IsValue text) (expected : String) :
    ∃ problem, Yields (refuse expected : Reader α) text (.error problem) := by
  obtain ⟨outcome, hinspected⟩ := exists_inspected h
  cases outcome with
  | ok found =>
    refine ⟨wrongKind found expected, fun blank tail htail => ?_⟩
    obtain ⟨rest, hread⟩ := hinspected blank tail htail
    unfold refuse
    rw [bind_of_ok hread]
    rfl
  | error problem =>
    refine ⟨problem, fun blank tail htail => ?_⟩
    obtain ⟨rest, hread⟩ := hinspected blank tail htail
    show (inspected (blank.chars ++ (text ++ tail)) >>= _) = _
    rw [hread]
    rfl

end Reader

/-! ## Values that are read -/

/-- The value is the word for the truth value. -/
def SaysBool (text : List Char) (b : Bool) : Prop :=
  text = if b then "true".toList else "false".toList

/-- The value is a string for the text. -/
def SaysString (text : List Char) (s : String) : Prop :=
  ∃ literal : StringLiteral, text = literal.text ∧ literal.Spells s

/-- The value is an integer without sign, fraction and exponent, for the number. -/
def SaysNat (text : List Char) (n : UInt64) : Prop :=
  IsInteger text ∧ Nat.ofDigitChars 10 text 0 = n.toNat

/-- The value is `null` where there is nothing. -/
def SaysOption (Says : List Char → α → Prop) (text : List Char) : Option α → Prop
  | none => text = "null".toList
  | some value => Says text value

/-- What is read may be turned into something else, or refused. -/
theorem Decodes.bind {Says : List Char → α → Prop} (h : Decodes reader Says) {next : α → Reader β}
    {make : α → Except Problem β}
    (hnext : ∀ value ahead, next value ahead = (make value).map (·, ahead)) :
    Decodes (reader >>= next) fun text result => ∃ value, Says text value ∧
      make value = .ok result := by
  have hbind {text : List Char} {outcome : Except Problem α}
      (hyields : Yields reader text outcome) :
      Yields (reader >>= next) text (outcome.bind make) := by
    intro blank tail htail
    show (reader (blank.chars ++ (text ++ tail)) >>= fun read => next read.1 read.2) = _
    rw [hyields blank tail htail]
    cases outcome with
    | ok value => exact hnext value tail
    | error problem => rfl
  refine ⟨?_, ?_⟩
  · intro text result hsaid
    obtain ⟨value, hvalue, hmake⟩ := hsaid
    have hyields := hbind (h.reads text value hvalue)
    rw [show (Except.ok value : Except Problem α).bind make = make value from rfl, hmake] at hyields
    exact hyields
  · intro text hvalue
    obtain ⟨outcome, hyields, hok⟩ := h.settles text hvalue
    refine ⟨outcome.bind make, hbind hyields, ?_⟩
    intro result heq
    cases outcome with
    | ok value => exact ⟨value, hok value rfl, heq⟩
    | error problem => cases heq

theorem Decodes.congr {Says Says' : List Char → α → Prop} (h : Decodes reader Says)
    (hsame : ∀ text value, Says text value ↔ Says' text value) : Decodes reader Says' := by
  have heq : Says = Says' := funext fun text => funext fun value => propext (hsame text value)
  rw [← heq]
  exact h

/-- A reader that goes by the first character and refuses all values that do not begin rightly. -/
theorem settles_of_refuse {Says : List Char → α → Prop} (expected : String)
    (hvalue : IsValue text) (h : ∀ (blank : Blank) (tail : List Char),
      reader (blank.chars ++ (text ++ tail)) = Reader.refuse expected (text ++ tail)) :
    ∃ outcome, Yields reader text outcome ∧ ∀ value, outcome = .ok value → Says text value := by
  obtain ⟨problem, hrefuse⟩ := Reader.exists_refuse (α := α) hvalue expected
  refine ⟨.error problem, fun blank tail htail => ?_, fun value heq => by cases heq⟩
  rw [h blank tail]
  exact hrefuse .none tail htail

theorem yields_bool (b : Bool) :
    Yields Reader.bool (if b then "true".toList else "false".toList) (.ok b) := by
  intro blank tail _
  unfold Reader.bool
  cases b with
  | true =>
    show (Reader.peek >>= _) (blank.chars ++ 't' :: 'r' :: 'u' :: 'e' :: tail) = _
    rw [Reader.bind_of_ok (Reader.peek_blank blank rfl _)]
    rfl
  | false =>
    show (Reader.peek >>= _) (blank.chars ++ 'f' :: 'a' :: 'l' :: 's' :: 'e' :: tail) = _
    rw [Reader.bind_of_ok (Reader.peek_blank blank rfl _)]
    rfl

theorem decodes_bool : Decodes Reader.bool SaysBool := by
  refine ⟨?_, ?_⟩
  · intro text b hsaid
    obtain rfl := hsaid
    exact yields_bool b
  · intro text hvalue
    obtain ⟨first, hkind⟩ := hvalue.exists_kind
    by_cases ht : first = 't'
    · obtain rfl := hkind.true ht
      exact ⟨.ok true, yields_bool true, fun b heq => by cases heq; rfl⟩
    · by_cases hf : first = 'f'
      · obtain rfl := hkind.false hf
        exact ⟨.ok false, yields_bool false, fun b heq => by cases heq; rfl⟩
      · refine settles_of_refuse "a boolean" hvalue fun blank tail => ?_
        unfold Reader.bool
        rw [Reader.bind_of_ok (hkind.peek blank tail), if_neg ht, if_neg hf]

/-- A literal is read as a string. -/
theorem string_literal (literal : StringLiteral) (expected : String) (blank : Blank)
    (tail : List Char) : Reader.string expected (blank.chars ++ (literal.text ++ tail)) =
      Reader.quoted (literal.text ++ tail) := by
  have hpeek : Reader.peek (blank.chars ++ (literal.text ++ tail)) =
      .ok ('"', literal.text ++ tail) := Reader.peek_blank blank rfl _
  unfold Reader.string
  rw [Reader.bind_of_ok hpeek, if_pos rfl]

theorem decodes_string (expected : String) : Decodes (Reader.string expected) SaysString := by
  refine ⟨?_, ?_⟩
  · intro text s hsaid
    obtain ⟨literal, rfl, hspells⟩ := hsaid
    obtain ⟨outcome, hread, hok⟩ := Reader.exists_quoted literal
    obtain rfl := (hok s).2 hspells
    intro blank tail _
    rw [string_literal, hread]
  · intro text hvalue
    obtain ⟨first, hkind⟩ := hvalue.exists_kind
    by_cases hquote : first = '"'
    · obtain ⟨literal, rfl⟩ := hkind.string hquote
      obtain ⟨outcome, hread, hok⟩ := Reader.exists_quoted literal
      refine ⟨outcome, fun blank tail _ => ?_, fun s heq => ⟨literal, rfl, (hok s).1 heq⟩⟩
      rw [string_literal, hread]
    · refine settles_of_refuse expected hvalue fun blank tail => ?_
      unfold Reader.string
      rw [Reader.bind_of_ok (hkind.peek blank tail), if_neg hquote]

/-- A number as one of 64 bits, unless it is something else. -/
def Number.toUInt64 : Number → Except Problem UInt64
  | .natural n => .ok (UInt64.ofNat n)
  | .negative n =>
    .error (.unsuitable ("invalid value: " ++ (Number.negative n).inspect ++ ", expected u64"))
  | .floating isNegative magnitude =>
    .error (wrongKind (Number.floating isNegative magnitude).inspect "u64")

/-- Where a number begins it is read as a number. -/
theorem uint64_number {first : Char} {rest : List Char} (hfirst : first = '-' ∨ first.isDigit)
    (outcome : Except Problem Number) {tail : List Char}
    (hread : Reader.number (first :: rest) = outcome.map (·, tail)) (blank : Blank) :
    Reader.uint64 (blank.chars ++ first :: rest) =
      (outcome.bind Number.toUInt64).map (·, tail) := by
  unfold Reader.uint64
  rw [Reader.bind_of_ok (Reader.peek_blank blank (number_first hfirst).1 rest),
    if_pos (by simpa using hfirst)]
  show (Reader.number (first :: rest) >>= _) = _
  rw [hread]
  cases outcome with
  | ok number =>
    cases number with
    | natural n => rfl
    | negative n => rfl
    | floating isNegative magnitude => rfl
  | error problem => rfl

theorem SaysNat.exists_first {n : UInt64} (h : SaysNat text n) :
    ∃ first rest, text = first :: rest ∧ first.isDigit := by
  obtain ⟨⟨⟨hne, hdigit⟩, _⟩, _⟩ := h
  obtain ⟨first, rest, rfl⟩ := List.exists_cons_of_ne_nil hne
  exact ⟨first, rest, rfl, hdigit first List.mem_cons_self⟩

theorem decodes_uint64 : Decodes Reader.uint64 SaysNat := by
  refine ⟨?_, ?_⟩
  · intro text n hsaid blank tail htail
    obtain ⟨first, rest, rfl, hfirst⟩ := hsaid.exists_first
    obtain ⟨hinteger, hvalue⟩ := hsaid
    have hread := Reader.number_integer hinteger (hvalue ▸ n.toNat_lt_size) htail
    rw [List.cons_append] at hread ⊢
    rw [uint64_number (Or.inr hfirst) (.ok (.natural _)) hread, hvalue]
    show Except.ok (UInt64.ofNat n.toNat, tail) = _
    rw [UInt64.ofNat_toNat]
    rfl
  · intro text hvalue
    obtain ⟨first, hkind⟩ := hvalue.exists_kind
    by_cases hfirst : first = '-' ∨ first.isDigit
    · obtain ⟨literal, rfl⟩ := hkind.number hfirst
      obtain ⟨rest, htext⟩ := hkind.begins
      obtain ⟨outcome, hread, hok⟩ := Reader.exists_number literal
      refine ⟨outcome.bind Number.toUInt64, fun blank tail htail => ?_, fun n heq => ?_⟩
      · have hread := hread tail htail
        rw [htext, List.cons_append] at hread ⊢
        exact uint64_number hfirst outcome hread blank
      · cases outcome with
        | ok number =>
          cases number with
          | natural m =>
            obtain ⟨hinteger, hm, hfits⟩ := hok m rfl
            obtain rfl : UInt64.ofNat m = n := Except.ok.inj heq
            refine ⟨hinteger, ?_⟩
            rw [hm, UInt64.toNat_ofNat_of_lt' hfits]
          | negative m => cases heq
          | floating isNegative magnitude => cases heq
        | error problem => cases heq
    · refine settles_of_refuse "u64" hvalue fun blank tail => ?_
      unfold Reader.uint64
      rw [Reader.bind_of_ok (hkind.peek blank tail), if_neg (by simpa using hfirst)]

/-- What says something does not begin as `null` does. -/
def NeverNull (Says : List Char → α → Prop) : Prop :=
  ∀ text value, Says text value →
    ∃ first rest, text = first :: rest ∧ isSpace first = false ∧ first ≠ 'n'

theorem neverNull_saysString : NeverNull SaysString := by
  intro text s hsaid
  obtain ⟨literal, rfl, _⟩ := hsaid
  exact ⟨'"', _, rfl, rfl, by decide⟩

theorem neverNull_saysNat : NeverNull SaysNat := by
  intro text n hsaid
  obtain ⟨first, rest, htext, hfirst⟩ := hsaid.exists_first
  obtain ⟨hspace, _, hn, _⟩ := number_first (Or.inr hfirst)
  exact ⟨first, rest, htext, hspace, hn⟩

/-- A value that is there is handed to the reader. -/
theorem yields_option_some {first : Char} {rest : List Char} (htext : text = first :: rest)
    (hspace : isSpace first = false) (hfirst : first ≠ 'n') {outcome : Except Problem α}
    (hyields : Yields reader text outcome) :
    Yields (Reader.option reader) text (outcome.map some) := by
  intro blank tail htail
  have hpeek : Reader.peek (blank.chars ++ (text ++ tail)) = .ok (first, text ++ tail) := by
    rw [htext]
    exact Reader.peek_blank blank hspace _
  have hread := hyields .none tail htail
  unfold Reader.option
  rw [Reader.bind_of_ok hpeek, if_neg hfirst]
  show (reader (text ++ tail) >>= _) = _
  rw [show reader (text ++ tail) = _ from hread]
  cases outcome with
  | ok value => rfl
  | error problem => rfl

theorem yields_option_null :
    Yields (Reader.option reader) "null".toList (.ok none) := by
  intro blank tail _
  unfold Reader.option
  show (Reader.peek >>= _) (blank.chars ++ 'n' :: 'u' :: 'l' :: 'l' :: tail) = _
  rw [Reader.bind_of_ok (Reader.peek_blank blank rfl _)]
  rfl

theorem decodes_option {Says : List Char → α → Prop} (h : Decodes reader Says)
    (hnull : NeverNull Says) : Decodes (Reader.option reader) (SaysOption Says) := by
  refine ⟨?_, ?_⟩
  · intro text value? hsaid
    cases value? with
    | none =>
      obtain rfl : text = "null".toList := hsaid
      exact yields_option_null
    | some value =>
      obtain ⟨first, rest, htext, hspace, hfirst⟩ := hnull text value hsaid
      exact yields_option_some htext hspace hfirst (h.reads text value hsaid)
  · intro text hvalue
    obtain ⟨first, hkind⟩ := hvalue.exists_kind
    by_cases hfirst : first = 'n'
    · obtain rfl := hkind.null hfirst
      exact ⟨.ok none, yields_option_null, fun value? heq => by cases heq; rfl⟩
    · obtain ⟨rest, htext⟩ := hkind.begins
      obtain ⟨outcome, hyields, hok⟩ := h.settles text hvalue
      refine ⟨outcome.map some, yields_option_some htext hkind.not_space hfirst hyields, ?_⟩
      intro value? heq
      cases outcome with
      | ok value =>
        obtain rfl := Except.ok.inj heq
        exact hok value rfl
      | error problem => cases heq

end LatestTag.Json
