import LatestTag.Unicode.Age
import LatestTag.Unicode.Segmentation

/-!
# Sets of characters by name

Properties, general categories and scripts are found by name. Spelling is loose: case, spaces, `_`
and `-` do not matter, nor does a leading `is`. A name on its own is looked up among the properties,
then the categories, then the scripts; `property=value` names a category or a script, or the script
extensions, which count every script that uses a character, or an age, or one of the breaks of text
segmentation.
-/

namespace LatestTag.Unicode

/-- The name without what does not matter in its spelling. -/
def looseName (name : List Char) : String :=
  let lower := (name.filter fun c => c.toNat < 0x80 && !" _-".toList.contains c).map Char.toLower
  match name.map Char.toLower with
  | 'i' :: 's' :: _ => if lower = ['i', 's', 'c'] then "isc" else .ofList (lower.drop 2)
  | _ => .ofList lower

/-- A set of characters with the names under which it is found. -/
abbrev Named := List String × CharSet

/-- The set among these that has the name. -/
def findNamed (table : List Named) (name : String) : Option CharSet :=
  (table.find? (·.1.contains name)).map (·.2)

/-- The general categories and their groups. -/
def categories : List Named := [
  (["any"], .univ), (["assigned"], Category.assigned), (["ascii"], .ascii),
  (["c", "other"], Category.other), (["cc", "control", "cntrl"], Category.control),
  (["cf", "format"], Category.format), (["cn", "unassigned"], Category.unassigned),
  (["co", "privateuse"], Category.privateUse), (["l", "letter"], Category.letter),
  (["lc", "casedletter"], Category.casedLetter),
  (["ll", "lowercaseletter"], Category.lowercaseLetter),
  (["lm", "modifierletter"], Category.modifierLetter),
  (["lo", "otherletter"], Category.otherLetter),
  (["lt", "titlecaseletter"], Category.titlecaseLetter),
  (["lu", "uppercaseletter"], Category.uppercaseLetter),
  (["m", "mark", "combiningmark"], Category.mark),
  (["mc", "spacingmark"], Category.spacingMark),
  (["me", "enclosingmark"], Category.enclosingMark),
  (["mn", "nonspacingmark"], Category.nonspacingMark), (["n", "number"], Category.number),
  (["nd", "decimalnumber", "digit"], Category.decimalNumber),
  (["nl", "letternumber"], Category.letterNumber),
  (["no", "othernumber"], Category.otherNumber),
  (["p", "punctuation", "punct"], Category.punctuation),
  (["pc", "connectorpunctuation"], Category.connectorPunctuation),
  (["pd", "dashpunctuation"], Category.dashPunctuation),
  (["pe", "closepunctuation"], Category.closePunctuation),
  (["pf", "finalpunctuation"], Category.finalPunctuation),
  (["pi", "initialpunctuation"], Category.initialPunctuation),
  (["po", "otherpunctuation"], Category.otherPunctuation),
  (["ps", "openpunctuation"], Category.openPunctuation), (["s", "symbol"], Category.symbol),
  (["sc", "currencysymbol"], Category.currencySymbol),
  (["sk", "modifiersymbol"], Category.modifierSymbol),
  (["sm", "mathsymbol"], Category.mathSymbol), (["so", "othersymbol"], Category.otherSymbol),
  (["z", "separator"], Category.separator), (["zl", "lineseparator"], Category.lineSeparator),
  (["zp", "paragraphseparator"], Category.paragraphSeparator),
  (["zs", "spaceseparator"], Category.spaceSeparator)]

/-- The properties that a character has or lacks. -/
def properties : List Named := [
  (["asciihexdigit", "ahex"], Property.asciiHexDigit),
  (["alphabetic", "alpha"], Property.alphabetic),
  (["bidicontrol", "bidic"], Property.bidiControl),
  (["bidimirrored", "bidim"], Property.bidiMirrored),
  (["caseignorable", "ci"], Property.caseIgnorable), (["cased"], Property.cased),
  (["changeswhencasefolded", "cwcf"], Property.changesWhenCasefolded),
  (["changeswhencasemapped", "cwcm"], Property.changesWhenCasemapped),
  (["changeswhenlowercased", "cwl"], Property.changesWhenLowercased),
  (["changeswhentitlecased", "cwt"], Property.changesWhenTitlecased),
  (["changeswhenuppercased", "cwu"], Property.changesWhenUppercased),
  (["dash"], Property.dash),
  (["defaultignorablecodepoint", "di"], Property.defaultIgnorableCodePoint),
  (["deprecated", "dep"], Property.deprecated), (["diacritic", "dia"], Property.diacritic),
  (["emoji"], Property.emoji), (["emojicomponent", "ecomp"], Property.emojiComponent),
  (["emojimodifier", "emod"], Property.emojiModifier),
  (["emojimodifierbase", "ebase"], Property.emojiModifierBase),
  (["emojipresentation", "epres"], Property.emojiPresentation),
  (["extendedpictographic", "extpict"], Property.extendedPictographic),
  (["extender", "ext"], Property.extender),
  (["graphemebase", "grbase"], Property.graphemeBase),
  (["graphemeextend", "grext"], Property.graphemeExtend),
  (["graphemelink", "grlink"], Property.graphemeLink), (["hexdigit", "hex"], Property.hexDigit),
  (["hyphen"], Property.hyphen), (["idsbinaryoperator", "idsb"], Property.idsBinaryOperator),
  (["idstrinaryoperator", "idst"], Property.idsTrinaryOperator),
  (["idsunaryoperator", "idsu"], Property.idsUnaryOperator),
  (["idcompatmathcontinue"], Property.idCompatMathContinue),
  (["idcompatmathstart"], Property.idCompatMathStart),
  (["idcontinue", "idc"], Property.idContinue), (["idstart", "ids"], Property.idStart),
  (["ideographic", "ideo"], Property.ideographic),
  (["joincontrol", "joinc"], Property.joinControl),
  (["logicalorderexception", "loe"], Property.logicalOrderException),
  (["lowercase", "lower"], Property.lowercase), (["math"], Property.math),
  (["modifiercombiningmark", "mcm"], Property.modifierCombiningMark),
  (["noncharactercodepoint", "nchar"], Property.noncharacterCodePoint),
  (["otheralphabetic", "oalpha"], Property.otherAlphabetic),
  (["otherdefaultignorablecodepoint", "odi"], Property.otherDefaultIgnorableCodePoint),
  (["othergraphemeextend", "ogrext"], Property.otherGraphemeExtend),
  (["otheridcontinue", "oidc"], Property.otherIdContinue),
  (["otheridstart", "oids"], Property.otherIdStart),
  (["otherlowercase", "olower"], Property.otherLowercase),
  (["othermath", "omath"], Property.otherMath),
  (["otheruppercase", "oupper"], Property.otherUppercase),
  (["patternsyntax", "patsyn"], Property.patternSyntax),
  (["patternwhitespace", "patws"], Property.patternWhiteSpace),
  (["prependedconcatenationmark", "pcm"], Property.prependedConcatenationMark),
  (["quotationmark", "qmark"], Property.quotationMark), (["radical"], Property.radical),
  (["regionalindicator", "ri"], Property.regionalIndicator),
  (["sentenceterminal", "sterm"], Property.sentenceTerminal),
  (["softdotted", "sd"], Property.softDotted),
  (["terminalpunctuation", "term"], Property.terminalPunctuation),
  (["unifiedideograph", "uideo"], Property.unifiedIdeograph),
  (["uppercase", "upper"], Property.uppercase),
  (["variationselector", "vs"], Property.variationSelector),
  (["whitespace", "wspace", "space"], Property.whiteSpace),
  (["xidcontinue", "xidc"], Property.xidContinue), (["xidstart", "xids"], Property.xidStart)]

/-- The ways in which characters keep to those that a user sees as one with them. -/
def graphemeBreaks : List Named := [
  (["cr"], Segmentation.carriageReturn), (["cn", "control"], Segmentation.Grapheme.control),
  (["ex", "extend"], Segmentation.Grapheme.extend), (["l"], Segmentation.Grapheme.leading),
  (["lf"], Segmentation.lineFeed), (["lv"], Segmentation.Grapheme.openSyllable),
  (["lvt"], Segmentation.Grapheme.syllable.diff Segmentation.Grapheme.openSyllable),
  (["pp", "prepend"], Segmentation.Grapheme.prepended),
  (["ri", "regionalindicator"], Property.regionalIndicator),
  (["sm", "spacingmark"], Segmentation.Grapheme.spacingMark),
  (["t"], Segmentation.Grapheme.trailing), (["v"], Segmentation.Grapheme.vowel),
  (["zwj"], Segmentation.zeroWidthJoiner)]

/-- The parts that characters play in words. -/
def wordBreaks : List Named := [
  (["le", "aletter"], Segmentation.Word.letter), (["cr"], Segmentation.carriageReturn),
  (["dq", "doublequote"], .singleton '"'), (["extend"], Segmentation.Word.extend),
  (["ex", "extendnumlet"], Segmentation.Word.connector),
  (["fo", "format"], Segmentation.Word.format),
  (["hl", "hebrewletter"], Segmentation.Word.hebrewLetter),
  (["ka", "katakana"], Segmentation.Word.katakana), (["lf"], Segmentation.lineFeed),
  (["ml", "midletter"], Segmentation.Word.midLetter),
  (["mn", "midnum"], Segmentation.Word.midNumber),
  (["mb", "midnumlet"], Segmentation.Word.midBoth),
  (["nl", "newline"], Segmentation.Word.newline), (["nu", "numeric"], Segmentation.Word.numeric),
  (["ri", "regionalindicator"], Property.regionalIndicator),
  (["sq", "singlequote"], .singleton '\''), (["wsegspace"], Segmentation.Word.space),
  (["zwj"], Segmentation.zeroWidthJoiner)]

/-- The parts that characters play in sentences. -/
def sentenceBreaks : List Named := [
  (["at", "aterm"], Segmentation.Sentence.fullStop),
  (["cl", "close"], Segmentation.Sentence.closing), (["cr"], Segmentation.carriageReturn),
  (["ex", "extend"], Segmentation.Sentence.extend),
  (["fo", "format"], Segmentation.Sentence.format), (["lf"], Segmentation.lineFeed),
  (["lo", "lower"], Segmentation.Sentence.lower),
  (["nu", "numeric"], Segmentation.Sentence.numeric),
  (["le", "oletter"], Segmentation.Sentence.otherLetter),
  (["sc", "scontinue"], Segmentation.Sentence.continuing),
  (["st", "sterm"], Segmentation.Sentence.terminal),
  (["se", "sep"], Segmentation.Sentence.separator),
  (["sp"], Segmentation.Sentence.space), (["up", "upper"], Segmentation.Sentence.upper)]

/-- The characters of the property, the category or the script of that name. -/
def named? (name : List Char) : Option CharSet :=
  let name := looseName name
  findNamed properties name <|> findNamed categories name <|> (Script.find? name).map (·.members)

/-- The characters whose property has the value: their category, their script, one of the scripts
that use them, the version that has them, or their part in text segmentation. -/
def valued? (property value : List Char) : Option CharSet :=
  let value := looseName value
  match looseName property with
  | "gc" | "generalcategory" => findNamed categories value
  | "sc" | "script" => (Script.find? value).map (·.members)
  | "scx" | "scriptextensions" => (Script.find? value).map (·.extended)
  | "age" => Age.upTo? value
  | "gcb" | "graphemeclusterbreak" => findNamed graphemeBreaks value
  | "wb" | "wordbreak" => findNamed wordBreaks value
  | "sb" | "sentencebreak" => findNamed sentenceBreaks value
  | _ => none

end LatestTag.Unicode
