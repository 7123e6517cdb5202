/-!
# Floating point numbers

A number in JSON text that is no integer in range is taken for a floating point number of 64 bits.
None of the records here has a field for one, so such a number only occurs in the message that
refuses it, where it is written with as few digits as tell it from its neighbours. This file has the
arithmetic for that, on exact fractions of natural numbers; signs are kept apart.
-/

namespace LatestTag.Json

/-- The finite number `mantissa * 2 ^ exponent`, with a mantissa below `mantissaLimit` and an
exponent from `-1074`, as small as that allows. -/
structure Double where
  /-- The mantissa. -/
  mantissa : Nat
  /-- The exponent of two. -/
  exponent : Int
deriving DecidableEq, Repr

namespace Double

/-- What mantissas are below. All but those of the smallest numbers reach half of it. -/
def mantissaLimit : Nat := 1 <<< 53

/-- Zero. -/
def zero : Double := ⟨0, -1074⟩

/-- A fraction times `base ^ exponent`. -/
def scaleRatio (base num den : Nat) (exponent : Int) : Nat × Nat :=
  if 0 ≤ exponent then (num * base.pow exponent.toNat, den)
  else (num, den * base.pow exponent.natAbs)

/-- The number nearest to a fraction, in the middle of two the one with an even mantissa; none if
that is too large. -/
def ofRatio? (num den : Nat) : Option Double :=
  if num = 0 then some zero
  else
    let estimate : Int := (num.log2 : Int) - den.log2
    let (n, d) := scaleRatio 2 num den (-estimate)
    let lead := if n < d then estimate - 1 else estimate
    let exponent := max (lead - 52) (-1074)
    let (n, d) := scaleRatio 2 num den (-exponent)
    let below := n / d
    let rest := 2 * (n % d)
    let mantissa := if rest > d ∨ (rest = d ∧ below % 2 = 1) then below + 1 else below
    let rounded : Double :=
      if mantissa = mantissaLimit then ⟨mantissaLimit / 2, exponent + 1⟩ else ⟨mantissa, exponent⟩
    if rounded.exponent > 971 then none else some rounded

/-- The number as a fraction. -/
def toRatio (x : Double) : Nat × Nat := scaleRatio 2 x.mantissa 1 x.exponent

/-- A power of ten up to `10 ^ 308`. -/
def powerOfTen (n : Nat) : Double := (ofRatio? (Nat.pow 10 n) 1).getD zero

/-- The product, unless it is too large. -/
def mul? (x y : Double) : Option Double :=
  let (xn, xd) := x.toRatio
  let (yn, yd) := y.toRatio
  ofRatio? (xn * yn) (xd * yd)

/-- The quotient, unless it is too large. -/
def div? (x y : Double) : Option Double :=
  let (xn, xd) := x.toRatio
  let (yn, yd) := y.toRatio
  ofRatio? (xn * yd) (xd * yn)

/-- A number scaled by a power of ten, unless the result is too large. Each round brings a very
small power 308 closer to zero; after a few of them the number is zero, so `fuel` is small. -/
def scaleTen? (fuel : Nat) (x : Double) (power : Int) : Option Double :=
  if power.natAbs ≤ 308 then
    if 0 ≤ power then x.mul? (powerOfTen power.natAbs) else x.div? (powerOfTen power.natAbs)
  else if x.mantissa = 0 then some x
  else
    match fuel with
    | 0 => none
    | fuel + 1 =>
      if 0 ≤ power then none
      else do scaleTen? fuel (← x.div? (powerOfTen 308)) (power + 308)

/-- The numbers that are read as `x`: they lie between the middles to its neighbours, and count
themselves if the mantissa is even. All three are multiples of `1 / unit`. -/
structure Interval where
  /-- The lower end. -/
  low : Nat
  /-- The number itself. -/
  value : Nat
  /-- The upper end. -/
  high : Nat
  /-- What the three are counted in. -/
  unit : Nat
  /-- Whether the ends belong to the interval. -/
  closed : Bool

/-- The interval of a number. -/
def interval (x : Double) : Interval :=
  let m := 4 * x.mantissa
  let low := if x.mantissa = mantissaLimit / 2 ∧ x.exponent > -1074 then m - 1 else m - 2
  let (value, unit) := scaleRatio 2 m 1 (x.exponent - 2)
  { low := (scaleRatio 2 low 1 (x.exponent - 2)).1
    value, unit
    high := (scaleRatio 2 (m + 2) 1 (x.exponent - 2)).1
    closed := x.mantissa % 2 = 0 }

/-- Whether `c * 10 ^ power` lies in the interval. -/
def Interval.holds (i : Interval) (c : Nat) (power : Int) : Bool :=
  let (n, d) := scaleRatio 10 (c * i.unit) 1 power
  if i.closed then i.low * d ≤ n && n ≤ i.high * d else i.low * d < n && n < i.high * d

/-- The power of ten of the first digit of a fraction that is not zero. -/
def leadingPower (num den : Nat) : Int :=
  if den ≤ num then ((Nat.toDigits 10 (num / den)).length : Int) - 1
  else
    match (List.range 400).find? fun k => den ≤ num * Nat.pow 10 k with
    | some k => -(k : Int)
    | none => -400

/-- The shortest decimal, as its digits and the power of ten of the last one, that is read as `x`;
of several the closest one. At most 17 digits are needed. -/
def shortest (x : Double) : Nat × Int :=
  let i := x.interval
  let lead := leadingPower i.value i.unit
  let candidate (count : Nat) : Option (Nat × Int) :=
    let power := lead + 1 - count
    let (n, d) := scaleRatio 10 i.value i.unit (-power)
    let below := n / d
    match i.holds below power, i.holds (below + 1) power with
    | true, true =>
      let rest := 2 * (n % d)
      some (if rest > d ∨ (rest = d ∧ below % 2 = 1) then below + 1 else below, power)
    | true, false => some (below, power)
    | false, true => some (below + 1, power)
    | false, false => none
  ((List.range 17).findSome? fun k => candidate (k + 1)).getD (0, 0)

/-- The number as text: with a decimal point as long as its first digit stands not too far from it,
with an exponent otherwise. -/
def text (x : Double) : String :=
  if x.mantissa = 0 then "0.0"
  else
    let (value, power) := x.shortest
    let written := Nat.toDigits 10 value
    let lead := power + written.length - 1
    let digits := (written.reverse.dropWhile (· == '0')).reverse
    .ofList <|
      if 0 ≤ lead ∧ lead ≤ 15 then
        let whole := lead.toNat + 1
        digits.take whole ++ List.replicate (whole - digits.length) '0' ++ '.' ::
          (if digits.length ≤ whole then ['0'] else digits.drop whole)
      else if -5 ≤ lead ∧ lead < 0 then
        '0' :: '.' :: List.replicate (lead.natAbs - 1) '0' ++ digits
      else
        let fraction := if digits.length = 1 then [] else '.' :: digits.drop 1
        digits.take 1 ++ fraction ++ 'e' :: (if lead < 0 then '-' else '+') ::
          Nat.toDigits 10 lead.natAbs

end Double

end LatestTag.Json
