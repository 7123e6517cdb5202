import LatestTag.Unicode.Property
import LatestTag.Unicode.Script

/-!
# Text segmentation

Three properties of characters say where a text can be cut: into the characters that a user sees,
into words and into sentences, by Unicode 16. The values of each are sets of characters that do not
meet; a character in none of them has the value `Other`, which has no set. Most sets follow from
other properties; the members that do not are listed.
-/

namespace LatestTag.Unicode.Segmentation

open Category Property

/-- Carriage return. -/
def carriageReturn : CharSet := .singleton '\r'

/-- Line feed. -/
def lineFeed : CharSet := .singleton '\n'

/-- The joiner of width zero. -/
def zeroWidthJoiner : CharSet := .ofHex ["200D"]

namespace Grapheme

/-- Characters that stay with the one before them. -/
def extend : CharSet := graphemeExtend.union emojiModifier

/-- Controls, which stay alone. -/
def control : CharSet :=
  let controls := CharSet.unionAll [
    lineSeparator, paragraphSeparator, Category.control, format,
    unassigned.inter defaultIgnorableCodePoint]
  controls.diff <| .unionAll [
    carriageReturn, lineFeed, zeroWidthJoiner, extend, prependedConcatenationMark]

/-- Characters that stay with the one behind them. -/
def prepended : CharSet :=
  prependedConcatenationMark.union
    (.ofHex ["D4E 111C2-111C3 113D1 1193F 11941 11A3A 11A84-11A89 11D46 11F02"])

/-- Spacing marks that do not stay with the character before them. -/
def looseMarks : CharSet := .ofHex [
  "102B-102C 1038 1062-1064 1067-106D 1083 1087-108C 108F 109A-109C 1A61 1A63-1A64 AA7B AA7D",
  "11720-11721"]

/-- Marks that stay with the character before them and take up space. -/
def spacingMark : CharSet :=
  ((Category.spacingMark.diff extend).union (.ofHex ["E33 EB3"])).diff looseMarks

/-- Leading consonants of Hangul. -/
def leading : CharSet := .ofHex ["1100-115F A960-A97C"]

/-- Vowels of Hangul, and others that behave alike. -/
def vowel : CharSet := .ofHex ["1160-11A7 D7B0-D7C6 16D63 16D67-16D6A"]

/-- Trailing consonants of Hangul. -/
def trailing : CharSet := .ofHex ["11A8-11FF D7CB-D7FB"]

/-- Syllables of Hangul. -/
def syllable : CharSet := .range 0xAC00 0xD7A3

/-- Syllables of Hangul without a trailing consonant: the first of each 28. -/
def openSyllable : CharSet :=
  .ofRanges <| (List.range 399).map fun i => ⟨0xAC00 + 28 * i, 0xAC00 + 28 * i⟩

end Grapheme

namespace Word

/-- Ends of lines but for the two of ASCII. -/
def newline : CharSet := .ofHex ["B-C 85 2028-2029"]

/-- Characters that stay with the one before them. -/
def extend : CharSet := (Grapheme.extend.union spacingMark).diff zeroWidthJoiner

/-- Formatting characters. -/
def format : CharSet :=
  Category.format.diff <|
    .unionAll [.ofHex ["200B-200D"], graphemeExtend, prependedConcatenationMark]

/-- Characters of Katakana, and others that are used with it. -/
def katakana : CharSet :=
  Script.katakana.members.union (.ofHex ["3031-3035 309B-309C 30A0 30FC FF70"])

/-- Letters of Hebrew. -/
def hebrewLetter : CharSet := Script.hebrew.members.inter otherLetter

/-- Letters of writing systems that set words without spaces. -/
def unspacedLetter : CharSet := .ofHex [
  "E01-E30 E32-E33 E40-E46 E81-E82 E84 E86-E8A E8C-EA3 EA5 EA7-EB0 EB2-EB3 EBD EC0-EC4 EC6",
  "EDC-EDF 1000-102A 103F 1050-1055 105A-105D 1061 1065-1066 106E-1070 1075-1081 108E 1780-17B3",
  "17D7 17DC 1950-196D 1970-1974 1980-19AB 19B0-19C9 1A20-1A54 1AA7 A9E0-A9E4 A9E6-A9EF",
  "A9FA-A9FE AA60-AA76 AA7A AA7E-AAAF AAB1 AAB5-AAB6 AAB9-AABD AAC0 AAC2 AADB-AADD 11700-1171A",
  "11740-11746"]

/-- Letters. -/
def letter : CharSet :=
  (alphabetic.diff <| .unionAll [
    ideographic, katakana, unspacedLetter, Script.hiragana.members, extend, hebrewLetter]).union
  (.ofHex [
    "2C2-2C5 2D2-2D7 2DE-2DF 2E5-2EB 2ED 2EF-2FF 55A-55C 55E 58A 5F3 70F A708-A716 A720-A721",
    "A789-A78A AB5B"])

/-- Marks within words. -/
def midLetter : CharSet := .ofHex ["3A B7 387 55F 5F4 2027 FE13 FE55 FF1A"]

/-- Marks within numbers. -/
def midNumber : CharSet :=
  .ofHex ["2C 3B 37E 589 60C-60D 66C 7F8 2044 FE50 FE54 FF0C FF1B"]

/-- Marks within words and numbers. -/
def midBoth : CharSet := .ofHex ["2E 2018-2019 2024 FE52 FF07 FF0E"]

/-- Signs in front of numbers. -/
def numberSign : CharSet := prependedConcatenationMark.diff (.ofHex ["70F"])

/-- Digits and what counts as such. -/
def numeric : CharSet := .unionAll [decimalNumber, numberSign, .ofHex ["66B 19DA"]]

/-- Characters that connect words. -/
def connector : CharSet := connectorPunctuation.union (.ofHex ["202F"])

/-- Spaces. -/
def space : CharSet := .ofHex ["20 1680 2000-2006 2008-200A 205F 3000"]

end Word

namespace Sentence

/-- Separators of lines and paragraphs. -/
def separator : CharSet := .ofHex ["85 2028-2029"]

/-- Characters that stay with the one before them. -/
def extend : CharSet := graphemeExtend.union (Category.spacingMark.union zeroWidthJoiner)

/-- Formatting characters. -/
def format : CharSet :=
  Category.format.diff <| .unionAll [.ofHex ["200C-200D"], graphemeExtend, Word.numberSign]

/-- White space within lines. -/
def space : CharSet := whiteSpace.diff (.unionAll [separator, carriageReturn, lineFeed])

/-- Lowercase characters. -/
def lower : CharSet :=
  lowercase.diff (graphemeExtend.union (.ofHex ["10D0-10FA 10FD-10FF"]))

/-- Uppercase characters, and titlecase ones. -/
def upper : CharSet :=
  titlecaseLetter.union (uppercase.diff (.ofHex ["1C90-1CBA 1CBD-1CBF"]))

/-- Other letters. -/
def otherLetter : CharSet :=
  (alphabetic.union (.ofHex ["5F3"])).diff (.unionAll [lower, upper, extend])

/-- Digits and what counts as such. -/
def numeric : CharSet := Word.numeric.union (.ofHex ["66C"])

/-- Full stops, which may also end an abbreviation. -/
def fullStop : CharSet := .ofHex ["2E 2024 FE52 FF0E"]

/-- Marks that end a sentence for sure. -/
def terminal : CharSet := sentenceTerminal.diff fullStop

/-- Marks behind which a sentence goes on. -/
def continuing : CharSet := .ofHex [
  "2C-2D 3A-3B 37E 55D 60C-60D 7F8 1802 1808 2013-2014 3001 FE10-FE11 FE13-FE14 FE31-FE32",
  "FE50-FE51 FE54-FE55 FE58 FE63 FF0C-FF0D FF1A-FF1B FF64"]

/-- Brackets and quotation marks. -/
def closing : CharSet :=
  .unionAll [
    openPunctuation, closePunctuation, initialPunctuation, finalPunctuation,
    .ofHex ["22 27 275B-2760 2E00-2E01 2E06-2E08 2E0B 1F676-1F678"]]

end Sentence

end LatestTag.Unicode.Segmentation
