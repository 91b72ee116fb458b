import Walkthrough.Unicode.AgeTable
import Walkthrough.Unicode.Segmentation

/-!
Names of Unicode properties in patterns: binary properties, general categories and scripts by their
name alone, and properties with a value. Case, spaces, hyphens, underscores and a leading `is` do
not matter in a name.
-/
namespace Walkthrough.Pattern

open Unicode (CodeSet Property GraphemeBreak WordBreak SentenceBreak)

def normalized (cs : List Char) : List Char :=
  (cs.filter fun c => c.toNat < 128 && c != ' ' && c != '_' && c != '-').map Char.toLower

/-- A leading `is` is dropped, but from the name of the category `C`: that would leave no more than
the letter. -/
def looseName (name : String) : String :=
  match name.toList with
  | i :: s :: rest =>
    if i.toLower = 'i' ∧ s.toLower = 's' then
      if normalized rest = ['c'] then "isc" else String.ofList (normalized rest)
    else String.ofList (normalized (i :: s :: rest))
  | cs => String.ofList (normalized cs)

def categoryNames : List (List String × List String) := [
  (["l", "letter"], ["L"]),
  (["lc", "casedletter"], ["Lu", "Ll", "Lt"]),
  (["lu", "uppercaseletter"], ["Lu"]),
  (["ll", "lowercaseletter"], ["Ll"]),
  (["lt", "titlecaseletter"], ["Lt"]),
  (["lm", "modifierletter"], ["Lm"]),
  (["lo", "otherletter"], ["Lo"]),
  (["m", "mark", "combiningmark"], ["M"]),
  (["mn", "nonspacingmark"], ["Mn"]),
  (["mc", "spacingmark"], ["Mc"]),
  (["me", "enclosingmark"], ["Me"]),
  (["n", "number"], ["N"]),
  (["nd", "decimalnumber", "digit"], ["Nd"]),
  (["nl", "letternumber"], ["Nl"]),
  (["no", "othernumber"], ["No"]),
  (["p", "punctuation", "punct"], ["P"]),
  (["pc", "connectorpunctuation"], ["Pc"]),
  (["pd", "dashpunctuation"], ["Pd"]),
  (["ps", "openpunctuation"], ["Ps"]),
  (["pe", "closepunctuation"], ["Pe"]),
  (["pi", "initialpunctuation"], ["Pi"]),
  (["pf", "finalpunctuation"], ["Pf"]),
  (["po", "otherpunctuation"], ["Po"]),
  (["s", "symbol"], ["S"]),
  (["sm", "mathsymbol"], ["Sm"]),
  (["sc", "currencysymbol"], ["Sc"]),
  (["sk", "modifiersymbol"], ["Sk"]),
  (["so", "othersymbol"], ["So"]),
  (["z", "separator"], ["Z"]),
  (["zs", "spaceseparator"], ["Zs"]),
  (["zl", "lineseparator"], ["Zl"]),
  (["zp", "paragraphseparator"], ["Zp"]),
  (["c", "other"], ["C"]),
  (["cc", "control", "cntrl"], ["Cc"]),
  (["cf", "format"], ["Cf"]),
  (["co", "privateuse"], ["Co"]),
  (["cn", "unassigned"], ["Cn"])]

def named? {α : Type} (table : List (List String × α)) (name : String) : Option α :=
  (table.find? fun (names, _) => names.contains name).map (·.2)

def ofCategory? (name : String) : Option CodeSet :=
  if name = "any" then some .all
  else if name = "ascii" then some (.range 0 127)
  else if name = "assigned" then some (Unicode.inCategory "Cn").complement
  else (named? categoryNames name).map Unicode.inCategories

def propertyNames : List (List String × Property) := [
  (["ahex", "asciihexdigit"], .asciiHexDigit),
  (["alpha", "alphabetic"], .alphabetic),
  (["bidic", "bidicontrol"], .bidiControl),
  (["bidim", "bidimirrored"], .bidiMirrored),
  (["ci", "caseignorable"], .caseIgnorable),
  (["cased"], .cased),
  (["cwcf", "changeswhencasefolded"], .changesWhenCasefolded),
  (["cwcm", "changeswhencasemapped"], .changesWhenCasemapped),
  (["cwl", "changeswhenlowercased"], .changesWhenLowercased),
  (["cwt", "changeswhentitlecased"], .changesWhenTitlecased),
  (["cwu", "changeswhenuppercased"], .changesWhenUppercased),
  (["dash"], .dash),
  (["di", "defaultignorablecodepoint"], .defaultIgnorable),
  (["dep", "deprecated"], .deprecated),
  (["dia", "diacritic"], .diacritic),
  (["emoji"], .emoji),
  (["ecomp", "emojicomponent"], .emojiComponent),
  (["emod", "emojimodifier"], .emojiModifier),
  (["ebase", "emojimodifierbase"], .emojiModifierBase),
  (["epres", "emojipresentation"], .emojiPresentation),
  (["extpict", "extendedpictographic"], .extendedPictographic),
  (["ext", "extender"], .extender),
  (["grbase", "graphemebase"], .graphemeBase),
  (["grext", "graphemeextend"], .graphemeExtend),
  (["grlink", "graphemelink"], .graphemeLink),
  (["hex", "hexdigit"], .hexDigit),
  (["hyphen"], .hyphen),
  (["idcompatmathcontinue"], .mathContinue),
  (["idcompatmathstart"], .mathStart),
  (["idc", "idcontinue"], .idContinue),
  (["ids", "idstart"], .idStart),
  (["idsb", "idsbinaryoperator"], .idsBinaryOperator),
  (["idst", "idstrinaryoperator"], .idsTrinaryOperator),
  (["idsu", "idsunaryoperator"], .idsUnaryOperator),
  (["ideo", "ideographic"], .ideographic),
  (["joinc", "joincontrol"], .joinControl),
  (["loe", "logicalorderexception"], .logicalOrderException),
  (["lower", "lowercase"], .lowercase),
  (["math"], .math),
  (["mcm", "modifiercombiningmark"], .modifierCombiningMark),
  (["nchar", "noncharactercodepoint"], .noncharacter),
  (["oalpha", "otheralphabetic"], .otherAlphabetic),
  (["odi", "otherdefaultignorablecodepoint"], .otherDefaultIgnorable),
  (["ogrext", "othergraphemeextend"], .otherGraphemeExtend),
  (["oidc", "otheridcontinue"], .otherIdContinue),
  (["oids", "otheridstart"], .otherIdStart),
  (["olower", "otherlowercase"], .otherLowercase),
  (["omath", "othermath"], .otherMath),
  (["oupper", "otheruppercase"], .otherUppercase),
  (["patsyn", "patternsyntax"], .patternSyntax),
  (["patws", "patternwhitespace"], .patternWhiteSpace),
  (["pcm", "prependedconcatenationmark"], .prependedConcatenationMark),
  (["qmark", "quotationmark"], .quotationMark),
  (["radical"], .radical),
  (["ri", "regionalindicator"], .regionalIndicator),
  (["sterm", "sentenceterminal"], .sentenceTerminal),
  (["sd", "softdotted"], .softDotted),
  (["term", "terminalpunctuation"], .terminalPunctuation),
  (["uideo", "unifiedideograph"], .unifiedIdeograph),
  (["upper", "uppercase"], .uppercase),
  (["vs", "variationselector"], .variationSelector),
  (["wspace", "space", "whitespace"], .whiteSpace),
  (["xidc", "xidcontinue"], .xidContinue),
  (["xids", "xidstart"], .xidStart)]

def graphemeBreakNames : List (List String × GraphemeBreak) := [
  (["cr"], .carriageReturn), (["lf"], .lineFeed), (["cn", "control"], .control),
  (["ex", "extend"], .extend), (["zwj"], .joiner),
  (["ri", "regionalindicator"], .regionalIndicator), (["pp", "prepend"], .prepend),
  (["sm", "spacingmark"], .spacingMark), (["l"], .lead), (["v"], .vowel), (["t"], .trail),
  (["lv"], .leadVowel), (["lvt"], .leadVowelTrail)]

def wordBreakNames : List (List String × WordBreak) := [
  (["cr"], .carriageReturn), (["lf"], .lineFeed), (["nl", "newline"], .newline),
  (["zwj"], .joiner), (["dq", "doublequote"], .doubleQuote), (["sq", "singlequote"], .singleQuote),
  (["extend"], .extend), (["fo", "format"], .format),
  (["ri", "regionalindicator"], .regionalIndicator), (["hl", "hebrewletter"], .hebrewLetter),
  (["ka", "katakana"], .katakana), (["le", "aletter"], .letter), (["ml", "midletter"], .midLetter),
  (["mn", "midnum"], .midNumber), (["mb", "midnumlet"], .midNumberLetter),
  (["nu", "numeric"], .numeric), (["ex", "extendnumlet"], .extendNumberLetter),
  (["wsegspace"], .space)]

def sentenceBreakNames : List (List String × SentenceBreak) := [
  (["cr"], .carriageReturn), (["lf"], .lineFeed), (["se", "sep"], .separator),
  (["ex", "extend"], .extend), (["fo", "format"], .format), (["sp"], .space),
  (["lo", "lower"], .lower), (["up", "upper"], .upper), (["le", "oletter"], .otherLetter),
  (["nu", "numeric"], .numeric), (["at", "aterm"], .fullStop), (["st", "sterm"], .terminal),
  (["sc", "scontinue"], .continuation), (["cl", "close"], .close)]

def script? (name : String) : Option (List String × CodeSet) :=
  (Unicode.scriptSpans.find? fun (names, _) => (names.map looseName).contains name).map
    fun (names, lines) => (names, .ofTable lines)

def ofScript? (name : String) : Option CodeSet := (script? name).map (·.2)

def ofAge? (name : String) : Option CodeSet :=
  match Unicode.ageSpans.findIdx? fun (names, _) => names.contains name with
  | some index =>
    some (.unionAll ((Unicode.ageSpans.take (index + 1)).map fun (_, lines) => .ofTable lines))
  | none => none

def ofPropertyName? (name : String) : Option CodeSet :=
  let name := looseName name
  (named? propertyNames name).map Property.members <|> ofCategory? name <|> ofScript? name

def ofPropertyValue? (property value : String) : Option CodeSet :=
  let property := looseName property
  let value := looseName value
  if property = "gc" ∨ property = "generalcategory" then ofCategory? value
  else if property = "sc" ∨ property = "script" then ofScript? value
  else if property = "scx" ∨ property = "scriptextensions" then
    (script? value).map fun (names, assigned) => Unicode.usedBy names assigned
  else if property = "age" then ofAge? value
  else if property = "gcb" ∨ property = "graphemeclusterbreak" then
    (named? graphemeBreakNames value).map GraphemeBreak.members
  else if property = "wb" ∨ property = "wordbreak" then
    (named? wordBreakNames value).map WordBreak.members
  else if property = "sb" ∨ property = "sentencebreak" then
    (named? sentenceBreakNames value).map SentenceBreak.members
  else none

end Walkthrough.Pattern
