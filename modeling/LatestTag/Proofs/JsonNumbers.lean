import LatestTag.Json.Number
import LatestTag.Proofs.JsonGrammar
import LatestTag.Proofs.Numerals

/-!
# Number literals are read as what they are

The reader of numbers takes digits as long as there are any, so it stops behind a literal only if
what follows is no digit and goes on no number (`IsEnd`). What it makes of the literal is the same
then, and it is a natural number in one case only:

> `exists_number`: a literal is read as a natural number exactly if it is an integer without sign,
> fraction and exponent whose value fits into 64 bits.

All other literals are read as floating or as negative numbers, or are refused for their size. The
parts of a literal are read one after another, each up to the next one.
-/

namespace LatestTag.Json

variable {tail : List Char} {isNegative : Bool} {digits : Nat} {power : Int}

/-! ## What follows -/

theorem IsEnd.head_eq {c : Char} {rest : List Char} (h : IsEnd (c :: rest)) :
    c = ' ' ∨ c = '\t' ∨ c = '\n' ∨ c = '\r' ∨ c = ',' ∨ c = ']' ∨ c = '\x7d' := by
  have hmem := h c rfl
  simpa only [List.mem_cons, List.not_mem_nil, or_false] using hmem

theorem IsEnd.head_ne {c : Char} {rest : List Char} (h : IsEnd (c :: rest)) :
    c ≠ '.' ∧ c ≠ 'e' ∧ c ≠ 'E' := by
  rcases h.head_eq with rfl | rfl | rfl | rfl | rfl | rfl | rfl <;> decide

theorem IsEnd.not_digit (h : IsEnd tail) : ∀ c ∈ tail.head?, c.isDigit = false := by
  intro c hc
  cases tail with
  | nil => cases hc
  | cons d rest =>
    obtain rfl := Option.some.inj hc
    rcases h.head_eq with rfl | rfl | rfl | rfl | rfl | rfl | rfl <;> rfl

/-- Digits are taken up to what is none. -/
theorem takeWhile_digits {written back : List Char} (hwritten : ∀ c ∈ written, c.isDigit)
    (hback : ∀ c ∈ back.head?, c.isDigit = false) :
    (written ++ back).takeWhile Char.isDigit = written ∧
      (written ++ back).drop ((written ++ back).takeWhile Char.isDigit).length = back := by
  have htake := Numeral.takeWhile_isDigit_append hwritten hback
  refine ⟨htake, ?_⟩
  rw [htake, List.drop_left]

/-- The reader makes the same of the text whatever ends it, and no natural number. -/
def ReadsOther (reader : Reader Number) (text : List Char) : Prop :=
  ∃ outcome : Except Problem Number,
    (∀ tail, IsEnd tail → reader (text ++ tail) = outcome.map (·, tail)) ∧
    ∀ n, outcome ≠ .ok (.natural n)

theorem floating_ne_natural (n : Nat) : floating isNegative digits power ≠ .ok (.natural n) := by
  unfold floating
  intro h
  split at h
  · cases h
  · cases h

/-- A floating number that is made of what has been read. -/
theorem readsOther_floating {reader : Reader Number} {text : List Char} (isNegative : Bool)
    (digits : Nat) (power : Int)
    (h : ∀ tail, IsEnd tail → reader (text ++ tail) =
      floating isNegative digits power >>= fun number => .ok (number, tail)) :
    ReadsOther reader text := by
  refine ⟨floating isNegative digits power, ?_, floating_ne_natural⟩
  intro tail htail
  rw [h tail htail]
  cases floating isNegative digits power with
  | ok number => rfl
  | error problem => rfl

/-! ## Exponents and fractions -/

theorem readExponentSign_append {sign written : List Char}
    (hsign : sign = [] ∨ sign = ['+'] ∨ sign = ['-']) (hwritten : IsDigits written)
    (tail : List Char) :
    readExponentSign (sign ++ (written ++ tail)) = (decide (sign = ['-']), written ++ tail) := by
  obtain ⟨hne, hdigit⟩ := hwritten
  obtain ⟨d, rest, rfl⟩ := List.exists_cons_of_ne_nil hne
  have hd : d.isDigit := hdigit d List.mem_cons_self
  rcases hsign with rfl | rfl | rfl
  · -- a digit is no sign
    rw [List.nil_append, List.cons_append]
    unfold readExponentSign
    split
    · next heq =>
      obtain rfl := (List.cons.inj heq).1
      exact absurd hd (by decide)
    · next heq =>
      obtain rfl := (List.cons.inj heq).1
      exact absurd hd (by decide)
    · rfl
  · rfl
  · rfl

variable (isNegative digits power) in
theorem readsOther_exponent (exponent : Exponent) :
    ReadsOther (readExponent isNegative digits power) (exponent.sign ++ exponent.digits) := by
  obtain ⟨hne, hdigit⟩ := exponent.isDigits
  have hread (tail : List Char) (htail : IsEnd tail) :
      readExponent isNegative digits power (exponent.sign ++ exponent.digits ++ tail) =
        if UInt32.size / 2 ≤ Nat.ofDigitChars 10 exponent.digits 0 then
          if digits = 0 ∨ exponent.sign = ['-'] then .ok (.floating isNegative .zero, tail)
          else .error .malformed
        else
          floating isNegative digits (if exponent.sign = ['-'] then
            power - Nat.ofDigitChars 10 exponent.digits 0
            else power + Nat.ofDigitChars 10 exponent.digits 0) >>= fun number =>
              .ok (number, tail) := by
    obtain ⟨htake, hdrop⟩ := takeWhile_digits hdigit htail.not_digit
    unfold readExponent
    rw [List.append_assoc, readExponentSign_append exponent.isSign exponent.isDigits]
    dsimp only
    rw [hdrop, htake, if_neg (by simp [hne])]
    simp only [decide_eq_true_iff]
  by_cases hbig : UInt32.size / 2 ≤ Nat.ofDigitChars 10 exponent.digits 0
  · -- the value is zero or out of range whatever the digits are
    by_cases hzero : digits = 0 ∨ exponent.sign = ['-']
    · refine ⟨.ok (.floating isNegative .zero), fun tail htail => ?_, fun n h => by cases h⟩
      rw [hread tail htail, if_pos hbig, if_pos hzero]
      rfl
    · refine ⟨.error .malformed, fun tail htail => ?_, fun n h => by cases h⟩
      rw [hread tail htail, if_pos hbig, if_neg hzero]
      rfl
  · refine readsOther_floating isNegative digits (if exponent.sign = ['-'] then
      power - Nat.ofDigitChars 10 exponent.digits 0
      else power + Nat.ofDigitChars 10 exponent.digits 0) fun tail htail => ?_
    rw [hread tail htail, if_neg hbig]

variable (isNegative digits power) in
/-- Behind an integer or a fraction there is an exponent, or the number is over. -/
theorem readsOther_readFloating (exponent? : Option Exponent) :
    ReadsOther (readFloating isNegative digits power) (NumberLiteral.exponentText exponent?) := by
  cases exponent? with
  | none =>
    refine readsOther_floating isNegative digits power fun tail htail => ?_
    show readFloating isNegative digits power tail = _
    unfold readFloating
    split
    · exact absurd rfl htail.head_ne.2.1
    · exact absurd rfl htail.head_ne.2.2
    · rfl
  | some exponent =>
    obtain ⟨outcome, hread, hnot⟩ := readsOther_exponent isNegative digits power exponent
    refine ⟨outcome, fun tail htail => ?_, hnot⟩
    rw [← hread tail htail]
    show readFloating _ _ _ (exponent.letter :: (exponent.sign ++ exponent.digits ++ tail)) = _
    rcases exponent.isLetter with hletter | hletter
    · rw [hletter]
      rfl
    · rw [hletter]
      rfl

/-- What comes behind digits in a number is no digit. -/
theorem exponentText_head (exponent? : Option Exponent) (htail : IsEnd tail) :
    ∀ c ∈ (NumberLiteral.exponentText exponent? ++ tail).head?, c.isDigit = false := by
  cases exponent? with
  | none => exact htail.not_digit
  | some exponent =>
    intro c hc
    obtain rfl : exponent.letter = c := Option.some.inj hc
    rcases exponent.isLetter with hletter | hletter
    · rw [hletter]
      rfl
    · rw [hletter]
      rfl

variable (isNegative digits power) in
theorem readsOther_readFraction {fraction : List Char} (hfraction : IsDigits fraction)
    (exponent? : Option Exponent) :
    ReadsOther (readFraction isNegative digits power)
      (fraction ++ NumberLiteral.exponentText exponent?) := by
  obtain ⟨hne, hdigit⟩ := hfraction
  obtain ⟨outcome, hread, hnot⟩ := readsOther_readFloating isNegative (absorb digits fraction).1
    (power - (fraction.length - (absorb digits fraction).2.length : Nat)) exponent?
  refine ⟨outcome, fun tail htail => ?_, hnot⟩
  obtain ⟨htake, hdrop⟩ := takeWhile_digits hdigit (exponentText_head exponent? htail)
  rw [← hread tail htail, List.append_assoc]
  unfold readFraction
  dsimp only
  rw [hdrop, htake, if_neg (by simp [hne])]

/-! ## Integers -/

/-- All digits are absorbed as long as the value fits. -/
theorem absorb_of_lt {digits : List Char} {value : Nat}
    (hlt : Nat.ofDigitChars 10 digits value < UInt64.size) :
    absorb value digits = (Nat.ofDigitChars 10 digits value, []) := by
  induction digits generalizing value with
  | nil => rfl
  | cons d digits ih =>
    rw [Nat.ofDigitChars_cons, Nat.mul_comm] at hlt ⊢
    have hvalue : value * 10 + digitValue d < UInt64.size :=
      Nat.lt_of_le_of_lt (Numeral.le_ofDigitChars digits _) hlt
    rw [absorb, if_pos hvalue]
    exact ih hlt

/-- What is absorbed without rest is the value, and it fits. -/
theorem absorb_eq_nil {written : List Char} {value n : Nat} (hvalue : value < UInt64.size)
    (h : absorb value written = (n, [])) :
    Nat.ofDigitChars 10 written value = n ∧ n < UInt64.size := by
  induction written generalizing value with
  | nil =>
    obtain rfl := (Prod.mk.inj h).1
    exact ⟨rfl, hvalue⟩
  | cons d written ih =>
    rw [absorb] at h
    split at h
    · next hlt =>
      rw [Nat.ofDigitChars_cons, Nat.mul_comm]
      exact ih hlt h
    · exact absurd (Prod.mk.inj h).2 (List.cons_ne_nil d written)

/-- What the reader does behind the digits of an integer. -/
def readBehind (isNegative : Bool) (whole back : List Char) : Except Problem (Number × List Char) :=
  let (digits, dropped) := absorb 0 whole
  let power : Int := dropped.length
  match back with
  | '.' :: rest => readFraction isNegative digits power rest
  | 'e' :: rest | 'E' :: rest => readExponent isNegative digits power rest
  | tail => do
    if !dropped.isEmpty then .ok (← floating isNegative digits power, tail)
    else if !isNegative then .ok (.natural digits, tail)
    else if 0 < digits ∧ digits ≤ UInt64.size / 2 then .ok (.negative digits, tail)
    else .ok (← floating true digits 0, tail)

variable (isNegative) in
theorem readNumber_append {whole back : List Char} (hwhole : IsInteger whole)
    (hback : ∀ c ∈ back.head?, c.isDigit = false) :
    readNumber isNegative (whole ++ back) = readBehind isNegative whole back := by
  obtain ⟨⟨hne, hdigit⟩, hzero⟩ := hwhole
  obtain ⟨htake, hdrop⟩ := takeWhile_digits hdigit hback
  unfold readNumber
  dsimp only
  rw [hdrop, htake]
  split
  · exact absurd rfl hne
  · exact absurd (hzero _ rfl) (List.cons_ne_nil _ _)
  · rfl

variable (isNegative) in
/-- An integer that ends is a natural or a negative number if it is not too large. -/
theorem readNumber_ends {whole : List Char} (hwhole : IsInteger whole) (htail : IsEnd tail) :
    readNumber isNegative (whole ++ tail) =
      if (absorb 0 whole).2 ≠ [] then
        floating isNegative (absorb 0 whole).1 ((absorb 0 whole).2.length : Nat) >>= fun number =>
          .ok (number, tail)
      else if isNegative = false then .ok (.natural (absorb 0 whole).1, tail)
      else if 0 < (absorb 0 whole).1 ∧ (absorb 0 whole).1 ≤ UInt64.size / 2 then
        .ok (.negative (absorb 0 whole).1, tail)
      else floating true (absorb 0 whole).1 0 >>= fun number => .ok (number, tail) := by
  rw [readNumber_append isNegative hwhole htail.not_digit]
  unfold readBehind
  dsimp only
  -- what follows goes on no number
  split
  · exact absurd rfl htail.head_ne.1
  · exact absurd rfl htail.head_ne.2.1
  · exact absurd rfl htail.head_ne.2.2
  · simp

variable (isNegative) in
/-- An integer is read whatever ends it, as a natural number only if it has no sign and fits. -/
theorem exists_readNumber_ends {whole : List Char} (hwhole : IsInteger whole) :
    ∃ outcome : Except Problem Number,
      (∀ tail, IsEnd tail → readNumber isNegative (whole ++ tail) = outcome.map (·, tail)) ∧
      ∀ n, outcome = .ok (.natural n) →
        isNegative = false ∧ Nat.ofDigitChars 10 whole 0 = n ∧ n < UInt64.size := by
  have hread (tail : List Char) (htail : IsEnd tail) :=
    readNumber_ends isNegative hwhole htail
  by_cases hdropped : (absorb 0 whole).2 = []
  · have habsorb : absorb 0 whole = ((absorb 0 whole).1, []) := Prod.ext rfl hdropped
    simp only [hdropped, ne_eq, not_true_eq_false, if_false] at hread
    cases isNegative with
    | false =>
      simp only [if_true] at hread
      refine ⟨.ok (.natural (absorb 0 whole).1), hread, fun n h => ?_⟩
      obtain rfl := Number.natural.inj (Except.ok.inj h)
      exact ⟨rfl, absorb_eq_nil (by decide) habsorb⟩
    | true =>
      simp only [Bool.true_eq_false, if_false] at hread
      by_cases hsmall : 0 < (absorb 0 whole).1 ∧ (absorb 0 whole).1 ≤ UInt64.size / 2
      · simp only [hsmall, and_self, if_true] at hread
        exact ⟨.ok (.negative (absorb 0 whole).1), hread, fun n h => by cases h⟩
      · simp only [hsmall, if_false] at hread
        obtain ⟨outcome, houtcome, hnot⟩ := readsOther_floating true _ 0 hread
        exact ⟨outcome, houtcome, fun n h => absurd h (hnot n)⟩
  · simp only [hdropped, ne_eq, not_false_eq_true, if_true] at hread
    obtain ⟨outcome, houtcome, hnot⟩ := readsOther_floating isNegative _ _ hread
    exact ⟨outcome, houtcome, fun n h => absurd h (hnot n)⟩

/-! ## Literals -/

/-- A literal without its sign is read whatever ends it, as a natural number only if it is an
integer. -/
theorem exists_readNumber (literal : NumberLiteral) :
    ∃ outcome : Except Problem Number,
      (∀ tail, IsEnd tail →
        readNumber literal.isNegative (literal.unsigned ++ tail) = outcome.map (·, tail)) ∧
      ∀ n, outcome = .ok (.natural n) → literal.isNegative = false ∧
        literal.unsigned = literal.whole ∧ Nat.ofDigitChars 10 literal.whole 0 = n ∧
        n < UInt64.size := by
  obtain ⟨isNegative, whole, hwhole, fraction, hfraction, exponent?⟩ := literal
  unfold NumberLiteral.unsigned NumberLiteral.fractionText
  dsimp only
  by_cases hnone : fraction = []
  · rw [if_pos hnone]
    cases exponent? with
    | none =>
      obtain ⟨outcome, hread, hok⟩ := exists_readNumber_ends isNegative hwhole
      have hplain : whole ++ ([] ++ NumberLiteral.exponentText none) = whole := by
        simp [NumberLiteral.exponentText]
      rw [hplain]
      refine ⟨outcome, hread, fun n h => ?_⟩
      obtain ⟨hsign, hvalue, hfits⟩ := hok n h
      exact ⟨hsign, rfl, hvalue, hfits⟩
    | some exponent =>
      obtain ⟨outcome, hread, hnot⟩ := readsOther_exponent isNegative (absorb 0 whole).1
        ((absorb 0 whole).2.length : Nat) exponent
      refine ⟨outcome, fun tail htail => ?_, fun n h => absurd h (hnot n)⟩
      have htext : whole ++ ([] ++ NumberLiteral.exponentText (some exponent)) ++ tail =
          whole ++ exponent.letter :: (exponent.sign ++ exponent.digits ++ tail) := by
        simp [NumberLiteral.exponentText, Exponent.text]
      rw [htext, ← hread tail htail]
      rcases exponent.isLetter with hletter | hletter
      · rw [hletter, readNumber_append isNegative hwhole (fun c hc => by cases hc; rfl)]
        rfl
      · rw [hletter, readNumber_append isNegative hwhole (fun c hc => by cases hc; rfl)]
        rfl
  · rw [if_neg hnone]
    obtain ⟨outcome, hread, hnot⟩ := readsOther_readFraction isNegative (absorb 0 whole).1
      ((absorb 0 whole).2.length : Nat) ⟨hnone, hfraction⟩ exponent?
    refine ⟨outcome, fun tail htail => ?_, fun n h => absurd h (hnot n)⟩
    have htext : whole ++ ('.' :: fraction ++ NumberLiteral.exponentText exponent?) ++ tail =
        whole ++ '.' :: (fraction ++ NumberLiteral.exponentText exponent? ++ tail) := by simp
    rw [htext, ← hread tail htail,
      readNumber_append isNegative hwhole (fun c hc => by cases hc; rfl)]
    rfl

/-- A number begins with a digit or a minus sign. -/
theorem NumberLiteral.exists_unsigned (literal : NumberLiteral) :
    ∃ d rest, literal.unsigned = d :: rest ∧ d.isDigit := by
  obtain ⟨⟨hne, hdigit⟩, _⟩ := literal.isInteger
  obtain ⟨d, rest, hwhole⟩ := List.exists_cons_of_ne_nil hne
  refine ⟨d, rest ++ (literal.fractionText ++ exponentText literal.exponent?), ?_, ?_⟩
  · unfold unsigned
    rw [hwhole]
    rfl
  · exact hdigit d (hwhole ▸ List.mem_cons_self)

namespace Reader

theorem number_of_isDigit {d : Char} (hd : d.isDigit) (rest : List Char) :
    number (d :: rest) = readNumber false (d :: rest) := by
  unfold number
  split
  · next heq =>
    obtain rfl := (List.cons.inj heq).1
    exact absurd hd (by decide)
  · rfl

/-- **A literal** is read up to its end, with an outcome that does not depend on what ends it, and
as a natural number only if it is an integer without a sign that fits into 64 bits. -/
theorem exists_number (literal : NumberLiteral) :
    ∃ outcome : Except Problem Number,
      (∀ tail, IsEnd tail → number (literal.text ++ tail) = outcome.map (·, tail)) ∧
      ∀ n, outcome = .ok (.natural n) →
        IsInteger literal.text ∧ Nat.ofDigitChars 10 literal.text 0 = n ∧ n < UInt64.size := by
  obtain ⟨outcome, hread, hok⟩ := exists_readNumber literal
  obtain ⟨d, rest, hunsigned, hd⟩ := literal.exists_unsigned
  refine ⟨outcome, fun tail htail => ?_, fun n h => ?_⟩
  · rw [← hread tail htail]
    unfold NumberLiteral.text
    cases hsign : literal.isNegative with
    | true => rfl
    | false =>
      rw [if_neg Bool.false_ne_true, hunsigned, List.cons_append]
      exact number_of_isDigit hd _
  · obtain ⟨hsign, hwhole, hvalue⟩ := hok n h
    have htext : literal.text = literal.whole := by
      unfold NumberLiteral.text
      rw [hsign, if_neg Bool.false_ne_true, hwhole]
    rw [htext]
    exact ⟨literal.isInteger, hvalue⟩

/-- **An integer that fits** is read as the number that it is. -/
theorem number_integer {digits tail : List Char} (hdigits : IsInteger digits)
    (hfits : Nat.ofDigitChars 10 digits 0 < UInt64.size) (htail : IsEnd tail) :
    number (digits ++ tail) = .ok (.natural (Nat.ofDigitChars 10 digits 0), tail) := by
  obtain ⟨d, rest, hcons⟩ := List.exists_cons_of_ne_nil hdigits.1.1
  have hd : d.isDigit := hdigits.1.2 d (hcons ▸ List.mem_cons_self)
  have hnumber : number (digits ++ tail) = readNumber false (digits ++ tail) := by
    rw [hcons, List.cons_append]
    exact number_of_isDigit hd _
  rw [hnumber, readNumber_ends false hdigits htail, absorb_of_lt hfits]
  simp

end Reader

end LatestTag.Json
