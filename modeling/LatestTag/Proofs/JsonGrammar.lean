import LatestTag.Json.Reader

/-!
# The grammar of JSON

The readers of this library look at one character at a time and give up at the first one that does
not suit. This file says what JSON text is without them. The tokens that can be written in several
ways are literals, which carry what makes them well formed; a string literal may stand for a text
(`StringLiteral.Spells`), and does unless its code units are paired wrongly.

> `IsValue text`: the text is a JSON value, of any kind and nested to any depth, with any space
> between its tokens.

An object is written from its members (`objectText`) and a list from its items (`listText`), each
with the space around it, so texts that differ in nothing but space differ in the blanks of the same
members.
-/

namespace LatestTag.Json

/-- Space that may stand between two tokens. -/
structure Blank where
  chars : List Char
  blank : ∀ c ∈ chars, c = ' ' ∨ c = '\t' ∨ c = '\n' ∨ c = '\r'

/-- No space. -/
def Blank.none : Blank := ⟨[], fun _ hc => absurd hc List.not_mem_nil⟩

/-- One space behind another. -/
def Blank.append (first second : Blank) : Blank :=
  ⟨first.chars ++ second.chars, fun c hc =>
    (List.mem_append.1 hc).elim (first.blank c) (second.blank c)⟩

/-- What may follow a value: nothing, space, a comma, or the end of a list or an object. -/
def IsEnd (tail : List Char) : Prop :=
  ∀ c ∈ tail.head?, c ∈ [' ', '\t', '\n', '\r', ',', ']', '\x7d']

/-! ## Strings -/

/-- The digit has this value, in small or in capital letters. -/
def IsHexDigit (digit : Char) (value : Nat) : Prop :=
  value < 16 ∧ (digit = Nat.digitChar value ∨ digit = (Nat.digitChar value).toUpper)

/-- The four hexadecimal digits have this value. -/
def IsQuad (a b c d : Char) (unit : Nat) : Prop :=
  ∃ i j k l, IsHexDigit a i ∧ IsHexDigit b j ∧ IsHexDigit c k ∧ IsHexDigit d l ∧
    unit = ((i * 16 + j) * 16 + k) * 16 + l

/-- The character may stand for itself. -/
def IsPlain (c : Char) : Prop := c ≠ '"' ∧ c ≠ '\\' ∧ ' ' ≤ c
deriving Decidable

/-- The letter behind a backslash stands for the character. -/
def IsEscape (letter c : Char) : Prop :=
  (letter, c) ∈ [('"', '"'), ('\\', '\\'), ('/', '/'), ('b', '\x08'), ('f', '\x0C'), ('n', '\n'),
    ('r', '\r'), ('t', '\t')]

/-- The first code unit of a pair. -/
def IsHigh (unit : Nat) : Prop := 0xD800 ≤ unit ∧ unit ≤ 0xDBFF
deriving Decidable

/-- The second code unit of a pair. -/
def IsLow (unit : Nat) : Prop := 0xDC00 ≤ unit ∧ unit ≤ 0xDFFF
deriving Decidable

/-- What stands between the quotes of a string. -/
inductive IsBody : List Char → Prop where
  | nil : IsBody []
  | plain {c : Char} {body : List Char} (hc : IsPlain c) (hbody : IsBody body) : IsBody (c :: body)
  | escape {letter c : Char} {body : List Char} (hc : IsEscape letter c) (hbody : IsBody body) :
      IsBody ('\\' :: letter :: body)
  | unit {a b c d : Char} {unit : Nat} {body : List Char} (hunit : IsQuad a b c d unit)
      (hbody : IsBody body) : IsBody ('\\' :: 'u' :: a :: b :: c :: d :: body)

/-- What stands between the quotes stands for the characters. A code unit of a pair does so only
together with the other one. -/
inductive BodySpells : List Char → List Char → Prop where
  | nil : BodySpells [] []
  | plain {c : Char} {body chars : List Char} (hc : IsPlain c) (hbody : BodySpells body chars) :
      BodySpells (c :: body) (c :: chars)
  | escape {letter c : Char} {body chars : List Char} (hc : IsEscape letter c)
      (hbody : BodySpells body chars) : BodySpells ('\\' :: letter :: body) (c :: chars)
  | unit {a b c d : Char} {unit : Nat} {body chars : List Char} (hunit : IsQuad a b c d unit)
      (hhigh : ¬ IsHigh unit) (hlow : ¬ IsLow unit) (hbody : BodySpells body chars) :
      BodySpells ('\\' :: 'u' :: a :: b :: c :: d :: body) (Char.ofNat unit :: chars)
  | pair {a b c d a' b' c' d' : Char} {high low : Nat} {body chars : List Char}
      (hhigh : IsQuad a b c d high) (hlow : IsQuad a' b' c' d' low) (his : IsHigh high)
      (his' : IsLow low) (hbody : BodySpells body chars) :
      BodySpells ('\\' :: 'u' :: a :: b :: c :: d :: '\\' :: 'u' :: a' :: b' :: c' :: d' :: body)
        (Char.ofNat (0x10000 + (high - 0xD800) * 0x400 + (low - 0xDC00)) :: chars)

theorem BodySpells.isBody {body chars : List Char} (h : BodySpells body chars) : IsBody body := by
  induction h with
  | nil => exact .nil
  | plain hc _ ih => exact .plain hc ih
  | escape hc _ ih => exact .escape hc ih
  | unit hunit _ _ _ ih => exact .unit hunit ih
  | pair hhigh hlow _ _ _ ih => exact .unit hhigh (.unit hlow ih)

/-- A string as it is written. -/
structure StringLiteral where
  body : List Char
  isBody : IsBody body

namespace StringLiteral

/-- The string with its quotes. -/
def text (literal : StringLiteral) : List Char := '"' :: (literal.body ++ ['"'])

/-- A string of which it is known what it stands for. -/
def ofSpells {body chars : List Char} (h : BodySpells body chars) : StringLiteral :=
  ⟨body, h.isBody⟩

/-- The string stands for the text. -/
def Spells (literal : StringLiteral) (s : String) : Prop := BodySpells literal.body s.toList

end StringLiteral

/-! ## Numbers -/

/-- One digit at least, and nothing else. -/
def IsDigits (digits : List Char) : Prop := digits ≠ [] ∧ ∀ c ∈ digits, c.isDigit

/-- Digits without a zero in front of others. -/
def IsInteger (digits : List Char) : Prop :=
  IsDigits digits ∧ ∀ rest, digits = '0' :: rest → rest = []

/-- The exponent of a number, which may have a sign. -/
structure Exponent where
  letter : Char
  isLetter : letter = 'e' ∨ letter = 'E'
  sign : List Char
  isSign : sign = [] ∨ sign = ['+'] ∨ sign = ['-']
  digits : List Char
  isDigits : IsDigits digits

/-- The exponent as it is written. -/
def Exponent.text (exponent : Exponent) : List Char :=
  exponent.letter :: (exponent.sign ++ exponent.digits)

/-- A number as it is written: a minus sign perhaps, an integer, the digits behind the point, if
there is a point, and an exponent perhaps. -/
structure NumberLiteral where
  isNegative : Bool
  whole : List Char
  isInteger : IsInteger whole
  fraction : List Char
  isFraction : ∀ c ∈ fraction, c.isDigit
  exponent? : Option Exponent

namespace NumberLiteral

/-- The fraction with its point. -/
def fractionText (literal : NumberLiteral) : List Char :=
  if literal.fraction = [] then [] else '.' :: literal.fraction

/-- The exponent, or nothing. -/
def exponentText : Option Exponent → List Char
  | none => []
  | some exponent => exponent.text

/-- The number without its sign. -/
def unsigned (literal : NumberLiteral) : List Char :=
  literal.whole ++ (literal.fractionText ++ exponentText literal.exponent?)

/-- The number. -/
def text (literal : NumberLiteral) : List Char :=
  if literal.isNegative then '-' :: literal.unsigned else literal.unsigned

end NumberLiteral

/-! ## Values -/

/-- A value and the space around it. -/
structure Item where
  before : Blank
  value : List Char
  behind : Blank

/-- The item as it is written. -/
def Item.text (item : Item) : List Char := item.before.chars ++ (item.value ++ item.behind.chars)

/-- A member of an object: a name, a colon and a value, with space in front, in the middle and
around the value. -/
structure Member extends Item where
  front : Blank
  name : StringLiteral
  middle : Blank

/-- The member as it is written. -/
def Member.text (member : Member) : List Char :=
  member.front.chars ++ (member.name.text ++ (member.middle.chars ++ ':' :: member.toItem.text))

/-- A list of the items; the blank is for a list without any. -/
def listText (blank : Blank) (items : List Item) : List Char :=
  '[' :: (blank.chars ++ ([','].intercalate (items.map Item.text) ++ [']']))

/-- An object of the members; the blank is for an object without any. -/
def objectText (blank : Blank) (members : List Member) : List Char :=
  '\x7b' :: (blank.chars ++ ([','].intercalate (members.map Member.text) ++ ['\x7d']))

/-- The text is a JSON value. -/
inductive IsValue : List Char → Prop where
  | null : IsValue "null".toList
  | true : IsValue "true".toList
  | false : IsValue "false".toList
  | number (literal : NumberLiteral) : IsValue literal.text
  | string (literal : StringLiteral) : IsValue literal.text
  | list (blank : Blank) {items : List Item} (hitems : ∀ item ∈ items, IsValue item.value) :
      IsValue (listText blank items)
  | object (blank : Blank) {members : List Member}
      (hmembers : ∀ member ∈ members, IsValue member.value) : IsValue (objectText blank members)

/-- A text as a whole: a value with space in front and behind. -/
def document (lead : Blank) (value : List Char) (trail : Blank) : String :=
  .ofList (lead.chars ++ (value ++ trail.chars))

end LatestTag.Json
