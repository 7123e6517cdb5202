import LatestTag.Proofs.Calendar
import LatestTag.Proofs.Numerals
import LatestTag.Time.Timestamp
import Mathlib

/-!
# Timestamps are read back

A timestamp is written part by part and read part by part, and between two parts stands a sign that
the reader asks for. Each part is read back with whatever follows it left as it is; put together:

> `ofText?_text`: every timestamp of the calendar range is read from its own text.

The fields of two digits need no sign behind them, but the others do. A year has four digits or a
sign in front (`readYear_yearText`); a fraction has as many digits as it takes
(`readFraction_fractionText`); and the time of day has a sixtieth second where the nanoseconds go
beyond a whole second (`readTime_timeText`). That the date is the right one is left to
`Date.toDays_ofDays`.
-/

namespace LatestTag

/-! ## White space -/

namespace Text

/-- White space, by its code points. -/
theorem whiteSpace_eq : Unicode.Property.whiteSpace = ⟨[⟨9, 13⟩, ⟨32, 32⟩, ⟨133, 133⟩, ⟨160, 160⟩,
    ⟨5760, 5760⟩, ⟨8192, 8202⟩, ⟨8232, 8233⟩, ⟨8239, 8239⟩, ⟨8287, 8287⟩, ⟨12288, 12288⟩]⟩ := by
  cbv

/-- The visible characters of ASCII are no white space. -/
theorem isSpace_eq_false {c : Char} (hlow : 32 < c.toNat) (hhigh : c.toNat < 127) :
    isSpace c = false := by
  unfold isSpace
  rw [whiteSpace_eq]
  simp [Unicode.CharSet.contains, Unicode.CharSet.containsCode, Unicode.CharSet.containsCode.go]
  omega

theorem trimStart_cons {c : Char} {rest : List Char} (hlow : 32 < c.toNat)
    (hhigh : c.toNat < 127) : trimStart (c :: rest) = c :: rest :=
  List.dropWhile_cons_of_neg (ne_true_of_eq_false (isSpace_eq_false hlow hhigh))

end Text

namespace Timestamp

/-! ## Numbers -/

theorem isDigit_of_mem_padded {width n : Nat} : ∀ c ∈ padded width n, c.isDigit := by
  intro c hc
  unfold padded at hc
  rcases List.mem_append.1 hc with hzero | hdigit
  · rw [List.eq_of_mem_replicate hzero]
    rfl
  · exact Numeral.isDigit_of_mem_toDigits c hdigit

/-- Zeros in front do not change the value. -/
theorem ofDigitChars_padded (width n : Nat) : Nat.ofDigitChars 10 (padded width n) 0 = n := by
  unfold padded
  rw [Nat.ofDigitChars_append, Nat.ofDigitChars_replicate_zero, Nat.mul_zero,
    Nat.ofDigitChars_ten_toDigits]

theorem length_padded {width n : Nat} (hwidth : 0 < width) (hn : n < 10 ^ width) :
    (padded width n).length = width := by
  have hle : (Nat.toDigits 10 n).length ≤ width :=
    (Nat.length_toDigits_le_iff (by decide) hwidth).2 hn
  unfold padded
  rw [List.length_append, List.length_replicate]
  omega

theorem exists_padded (width n : Nat) : ∃ d digits, padded width n = d :: digits ∧ d.isDigit := by
  cases hpadded : padded width n with
  | nil => exact absurd (List.append_eq_nil_iff.1 hpadded).2 Nat.toDigits_ne_nil
  | cons d digits =>
    exact ⟨d, digits, rfl, isDigit_of_mem_padded d (hpadded ▸ List.mem_cons_self)⟩

theorem trimStart_padded (width n : Nat) (rest : List Char) :
    Text.trimStart (padded width n ++ rest) = padded width n ++ rest := by
  obtain ⟨d, digits, hpadded, hd⟩ := exists_padded width n
  have hcode : 48 ≤ d.toNat ∧ d.toNat ≤ 57 := by
    simp only [Char.isDigit, Bool.and_eq_true, decide_eq_true_eq] at hd
    exact hd
  rw [hpadded]
  exact Text.trimStart_cons (by omega) (by omega)

/-- Digits within the limit are read as a number, unless a digit follows that the limit lets in. -/
theorem readNumber_padded {limit width n : Nat} {rest : List Char}
    (hlength : (padded width n).length ≤ limit)
    (hrest : ∀ c ∈ (rest.take (limit - (padded width n).length)).head?, c.isDigit = false) :
    readNumber limit (padded width n ++ rest) = some (n, rest) := by
  have hdigits : ((padded width n ++ rest).take limit).takeWhile Char.isDigit =
      padded width n := by
    rw [List.take_append, List.take_of_length_le hlength]
    exact Numeral.takeWhile_isDigit_append isDigit_of_mem_padded hrest
  obtain ⟨d, digits, hpadded, -⟩ := exists_padded width n
  have hnonempty : ¬ (padded width n).isEmpty = true := by
    rw [hpadded]
    exact Bool.false_ne_true
  unfold readNumber
  dsimp only
  rw [hdigits, if_neg hnonempty, ofDigitChars_padded, List.drop_left]

/-- As many digits as the limit are a number, whatever follows them. -/
theorem readNumber_padded_self {width n : Nat} (hwidth : 0 < width) (hn : n < 10 ^ width)
    (rest : List Char) : readNumber width (padded width n ++ rest) = some (n, rest) := by
  have hlength := length_padded hwidth hn
  refine readNumber_padded (Nat.le_of_eq hlength) ?_
  rw [hlength, Nat.sub_self, List.take_zero]
  simp

/-- Digits are a number if some other character follows them. -/
theorem readNumber_padded_cons {limit width n : Nat} {c : Char}
    (hlength : (padded width n).length ≤ limit) (hc : c.isDigit = false) (rest : List Char) :
    readNumber limit (padded width n ++ c :: rest) = some (n, c :: rest) := by
  refine readNumber_padded hlength ?_
  intro first hfirst
  cases hspare : limit - (padded width n).length with
  | zero =>
    rw [hspare, List.take_zero] at hfirst
    exact absurd hfirst (by simp)
  | succ spare =>
    rw [hspare, List.take_succ_cons, List.head?_cons] at hfirst
    obtain rfl := Option.some.inj hfirst
    exact hc

theorem readField_padded {n : Nat} (hn : n < 100) (rest : List Char) :
    readField 2 (padded 2 n ++ rest) = some (n, rest) := by
  unfold readField
  rw [trimStart_padded]
  exact readNumber_padded_self (by decide) hn rest

theorem readSign_cons {sign : Char} (hlow : 32 < sign.toNat) (hhigh : sign.toNat < 127)
    (rest : List Char) : readSign sign (sign :: rest) = some rest := by
  unfold readSign
  rw [Text.trimStart_cons hlow hhigh]
  exact if_pos rfl

/-! ## Dates -/

/-- **A year** is read back from its four digits or from behind its sign. -/
theorem readYear_yearText (year : Int) (rest : List Char) :
    readYear (yearText year ++ '-' :: rest) = some (year, '-' :: rest) := by
  unfold yearText
  by_cases hshort : 0 ≤ year ∧ year ≤ 9999
  · obtain ⟨d, digits, hpadded, hd⟩ := exists_padded 4 year.toNat
    have hnumber := readNumber_padded_self (by decide) (by omega : year.toNat < 10 ^ 4)
      ('-' :: rest)
    rw [if_pos hshort]
    unfold readYear
    rw [trimStart_padded]
    -- a digit is no sign
    split
    next heq =>
      rw [hpadded] at heq
      obtain rfl := (List.cons.inj heq).1
      exact absurd hd (by decide)
    next heq =>
      rw [hpadded] at heq
      obtain rfl := (List.cons.inj heq).1
      exact absurd hd (by decide)
    next =>
      rw [hnumber, Option.map_some]
      dsimp only
      rw [Int.toNat_of_nonneg hshort.1]
  · have hnumber : readNumber (padded 4 year.natAbs ++ '-' :: rest).length
        (padded 4 year.natAbs ++ '-' :: rest) = some (year.natAbs, '-' :: rest) :=
      readNumber_padded_cons (by rw [List.length_append]; omega) rfl rest
    rw [if_neg hshort]
    by_cases hneg : year < 0
    · rw [if_pos hneg, List.cons_append]
      unfold readYear
      rw [Text.trimStart_cons (by decide) (by decide)]
      show Option.map _ (readNumber (padded 4 year.natAbs ++ '-' :: rest).length _) = _
      rw [hnumber, Option.map_some, Option.some.injEq, Prod.mk.injEq]
      exact ⟨by omega, rfl⟩
    · rw [if_neg hneg, List.cons_append]
      unfold readYear
      rw [Text.trimStart_cons (by decide) (by decide)]
      show Option.map _ (readNumber (padded 4 year.natAbs ++ '-' :: rest).length _) = _
      rw [hnumber, Option.map_some, Option.some.injEq, Prod.mk.injEq]
      exact ⟨by omega, rfl⟩

/-- The date as it is written. -/
def dateText (date : Date) : List Char :=
  yearText date.year ++ '-' :: (padded 2 date.month ++ '-' :: padded 2 date.day)

theorem readDate_dateText {date : Date} (hdate : date.IsValid) (hmin : minYear ≤ date.year)
    (hmax : date.year ≤ maxYear) (rest : List Char) :
    readDate (dateText date ++ rest) = some (date, rest) := by
  have hdash (rest : List Char) : readSign '-' ('-' :: rest) = some rest :=
    readSign_cons (by decide) (by decide) rest
  have hmonth : date.month < 100 := Nat.lt_of_le_of_lt hdate.2.1 (by decide)
  have hday : date.day < 100 := by
    have hle : date.day ≤ Date.daysInMonth date.year date.month := hdate.2.2.2
    unfold Date.daysInMonth at hle
    split at hle
    · split at hle
      all_goals omega
    all_goals omega
  unfold readDate dateText
  simp only [List.append_assoc, List.cons_append, readYear_yearText, hdash,
    readField_padded hmonth, readField_padded hday, Option.bind_eq_bind, Option.bind_some]
  exact if_pos ⟨hdate, hmin, hmax⟩

/-! ## Times of day -/

/-- **A fraction** is read back from three, six or nine digits, or from none. -/
theorem readFraction_fractionText {nanos : Nat} (hnanos : nanos < nanosPerSecond)
    (rest : List Char) :
    readFraction (fractionText nanos ++ 'Z' :: rest) = some (nanos, 'Z' :: rest) := by
  have hdigits (width n : Nat) (hpos : 0 < width) (hwidth : width ≤ 9) (hn : n < 10 ^ width) :
      readFraction ('.' :: padded width n ++ 'Z' :: rest) =
        some (n * 10 ^ (9 - width), 'Z' :: rest) := by
    have hlength := length_padded hpos hn
    have hnumber : readNumber 9 (padded width n ++ 'Z' :: rest) = some (n, 'Z' :: rest) :=
      readNumber_padded_cons (by omega) rfl rest
    have hcount : (padded width n ++ 'Z' :: rest).length - ('Z' :: rest).length = width := by
      rw [List.length_append, Nat.add_sub_cancel_right, hlength]
    have hdrop : ('Z' :: rest).dropWhile Char.isDigit = 'Z' :: rest :=
      List.dropWhile_cons_of_neg (by decide)
    rw [List.cons_append, readFraction, hnumber]
    simp only [Option.bind_eq_bind, Option.bind_some, hcount, hdrop]
    rfl
  unfold nanosPerSecond at hnanos
  unfold fractionText
  split
  next hzero =>
    subst hzero
    rfl
  next =>
    split
    next hmillis =>
      have hvalue : nanos / 1000000 * 10 ^ (9 - 3) = nanos := by omega
      rw [hdigits 3 _ (by decide) (by decide) (by omega), hvalue]
    next =>
      split
      next hmicros =>
        have hvalue : nanos / 1000 * 10 ^ (9 - 6) = nanos := by omega
        rw [hdigits 6 _ (by decide) (by decide) (by omega), hvalue]
      next =>
        rw [hdigits 9 _ (by decide) (by decide) hnanos, Nat.sub_self, Nat.pow_zero, Nat.mul_one]

/-- The time of day as it is written, by the second of the day and the nanoseconds within it. -/
def timeText (second nanos : Nat) : List Char :=
  padded 2 (second / 3600) ++ ':' :: (padded 2 (second / 60 % 60) ++ ':' ::
    (padded 2 (second % 60 + nanos / nanosPerSecond) ++ fractionText (nanos % nanosPerSecond)))

/-- **A time of day** is read back, within a leap second too. -/
theorem readTime_timeText {second nanos : Nat} (hsecond : second < 86400)
    (hnanos : nanos < nanosPerSecond ∨ nanos < 2 * nanosPerSecond ∧ second % 60 = 59)
    (rest : List Char) :
    readTime (timeText second nanos ++ 'Z' :: rest) = some ((second, nanos), 'Z' :: rest) := by
  have hcolon (rest : List Char) : readSign ':' (':' :: rest) = some rest :=
    readSign_cons (by decide) (by decide) rest
  have hfraction := readFraction_fractionText
    (Nat.mod_lt nanos (by decide : 0 < nanosPerSecond)) rest
  have hwhole : nanos / nanosPerSecond < 2 := by
    rw [Nat.div_lt_iff_lt_mul (by decide)]
    omega
  unfold readTime timeText
  simp only [List.append_assoc, List.cons_append, hcolon, hfraction,
    readField_padded (by omega : second / 3600 < 100),
    readField_padded (by omega : second / 60 % 60 < 100),
    readField_padded (by omega : second % 60 + nanos / nanosPerSecond < 100),
    Option.bind_eq_bind, Option.bind_some]
  by_cases hplain : nanos < nanosPerSecond
  · have hsum : second / 3600 * 3600 + second / 60 % 60 * 60 + second % 60 = second := by omega
    rw [Nat.div_eq_of_lt hplain, Nat.mod_eq_of_lt hplain, Nat.add_zero, if_pos (by omega),
      if_neg (by omega), if_neg (by omega), Nat.add_zero, hsum]
  · -- a leap second: written as the sixtieth one, read as the last one with a second to spare
    obtain ⟨hnanos, hlast⟩ := hnanos.resolve_left hplain
    have hsum : second / 3600 * 3600 + second / 60 % 60 * 60 + 59 = second := by omega
    have hone : nanos / nanosPerSecond = 1 := by
      have : 0 < nanos / nanosPerSecond := Nat.div_pos (Nat.le_of_not_lt hplain) (by decide)
      omega
    have hpart : nanos % nanosPerSecond + nanosPerSecond = nanos := by
      have := Nat.div_add_mod nanos nanosPerSecond
      rw [hone] at this
      omega
    rw [hone, hlast, if_pos (by omega), if_pos rfl, if_pos rfl, hpart, hsum]

/-! ## Timestamps -/

theorem toList_text (t : Timestamp) : t.text.toList =
    dateText (Date.ofDays t.day) ++ 'T' :: (timeText t.secondOfDay t.nanos ++ ['Z']) := by
  unfold text dateText timeText
  rw [String.toList_ofList]
  simp

/-- **Every timestamp is read from its own text.** -/
theorem ofText?_text {t : Timestamp} (h : t.IsValid) : ofText? t.text = some t := by
  obtain ⟨hmin, hmax, hnanos⟩ := h
  have hsecond : t.secondOfDay < 86400 := by
    unfold secondOfDay secondsPerDay
    omega
  have hdate := readDate_dateText (Date.isValid_ofDays t.day) hmin hmax
    ('T' :: (timeText t.secondOfDay t.nanos ++ ['Z']))
  have hseparator : (guard (['T', 't', ' '].contains 'T' = true) : Option Unit) = some () := rfl
  have htime := readTime_timeText hsecond hnanos []
  have htrim : Text.trimStart ['Z'] = ['Z'] := Text.trimStart_cons (by decide) (by decide)
  have hoffset : readOffset ['Z'] = some (0, []) := rfl
  have hseconds : (Date.ofDays t.day).toDays * secondsPerDay + t.secondOfDay - 0 = t.seconds := by
    rw [Date.toDays_ofDays]
    unfold day secondOfDay secondsPerDay
    omega
  -- each part is read with the next one ahead, so the readers can be run one after another
  unfold ofText?
  rw [toList_text, hdate]
  simp only [Option.bind_eq_bind, Option.bind_some, List.head?_cons, List.drop_one,
    List.tail_cons, hseparator, htime, htrim, hoffset, hseconds]
  rw [if_pos]
  simp [Text.trimStart, hmin, hmax]

end Timestamp

end LatestTag
