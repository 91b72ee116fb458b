import Walkthrough.Unicode.Category
import Walkthrough.Unicode.PropertyTable
import Walkthrough.Unicode.ScriptExtensionTable
import Walkthrough.Unicode.ScriptTable

/-!
Binary properties of code points. Those that the standard derives from others are derived here by
the same rules. Scripts: the one that a code point is assigned to, and all that use it.
-/
namespace Walkthrough.Unicode

def whiteSpace : CodeSet := .ofTable whiteSpaceSpans

def lowercase : CodeSet := (inCategory "Ll").union (.ofTable otherLowercaseSpans)

def uppercase : CodeSet := (inCategory "Lu").union (.ofTable otherUppercaseSpans)

def alphabetic : CodeSet :=
  .unionAll [inCategories ["L", "Nl"], lowercase, uppercase, .ofTable otherAlphabeticSpans]

def joinControl : CodeSet := .ofTable joinControlSpans

def graphemeExtend : CodeSet :=
  (inCategories ["Me", "Mn"]).union (.ofTable otherGraphemeExtendSpans)

def wordChars : CodeSet := .unionAll [alphabetic, inCategories ["M", "Nd", "Pc"], joinControl]

def isAsciiWord (c : Char) : Bool := c.isAlphanum || c == '_'

def isWord (c : Char) : Bool :=
  if c.toNat < 128 then isAsciiWord c else wordChars.contains c

inductive Property where
  | asciiHexDigit | alphabetic | bidiControl | bidiMirrored | caseIgnorable | cased
  | changesWhenCasefolded | changesWhenCasemapped | changesWhenLowercased | changesWhenTitlecased
  | changesWhenUppercased | dash | defaultIgnorable | deprecated | diacritic | emoji
  | emojiComponent | emojiModifier | emojiModifierBase | emojiPresentation | extendedPictographic
  | extender | graphemeBase | graphemeExtend | graphemeLink | hexDigit | hyphen | mathContinue
  | mathStart | idContinue | idStart | idsBinaryOperator | idsTrinaryOperator | idsUnaryOperator
  | ideographic | joinControl | logicalOrderException | lowercase | math | modifierCombiningMark
  | noncharacter | otherAlphabetic | otherDefaultIgnorable | otherGraphemeExtend | otherIdContinue
  | otherIdStart | otherLowercase | otherMath | otherUppercase | patternSyntax | patternWhiteSpace
  | prependedConcatenationMark | quotationMark | radical | regionalIndicator | sentenceTerminal
  | softDotted | terminalPunctuation | unifiedIdeograph | uppercase | variationSelector | whiteSpace
  | xidContinue | xidStart
deriving DecidableEq, Repr

namespace Property

def innerPunctuation : List String :=
  ["27 2E 3A B7 387 55F 5F4 2018-2019 2024 2027 FE13 FE52 FE55 FF07 FF0E FF1A"]

def patternMarks : CodeSet :=
  (CodeSet.ofTable patternSyntaxSpans).union (.ofTable patternWhiteSpaceSpans)

def startOfName : CodeSet :=
  ((inCategories ["L", "Nl"]).union (.ofTable otherIdStartSpans)).difference patternMarks

def partOfName : CodeSet :=
  (CodeSet.unionAll
    [startOfName, inCategories ["Mn", "Mc", "Nd", "Pc"], .ofTable otherIdContinueSpans]).difference
    patternMarks

/-- Characters whose compatibility forms do not begin a name, or are no part of one. -/
def notPartWhenNormalized : List String :=
  ["37A 309B-309C FC5E-FC63 FDFA-FDFB FE70-FE7E/2"]

def notStartWhenNormalized : List String := notPartWhenNormalized ++ ["E33 EB3 FF9E-FF9F"]

def visibleFormats : CodeSet :=
  (CodeSet.ofTable prependedConcatenationMarkSpans).union (.ofTable ["FFF9-FFFB 13430-1343F"])

def changedByCase : CodeSet :=
  .unionAll [.ofTable changesWhenLowercasedSpans, .ofTable changesWhenUppercasedSpans,
    .ofTable changesWhenTitlecasedSpans]

def members : Property → CodeSet
  | .asciiHexDigit => .ofTable asciiHexDigitSpans
  | .alphabetic => Unicode.alphabetic
  | .bidiControl => .ofTable bidiControlSpans
  | .bidiMirrored => .ofTable bidiMirroredSpans
  | .caseIgnorable =>
    (inCategories ["Mn", "Me", "Cf", "Lm", "Sk"]).union (.ofTable innerPunctuation)
  | .cased => .unionAll [Unicode.lowercase, Unicode.uppercase, inCategory "Lt"]
  | .changesWhenCasefolded => .ofTable changesWhenCasefoldedSpans
  | .changesWhenCasemapped => changedByCase
  | .changesWhenLowercased => .ofTable changesWhenLowercasedSpans
  | .changesWhenTitlecased => .ofTable changesWhenTitlecasedSpans
  | .changesWhenUppercased => .ofTable changesWhenUppercasedSpans
  | .dash => .ofTable dashSpans
  | .defaultIgnorable =>
    (CodeSet.unionAll [.ofTable otherDefaultIgnorableSpans, inCategory "Cf",
      .ofTable variationSelectorSpans]).difference (Unicode.whiteSpace.union visibleFormats)
  | .deprecated => .ofTable deprecatedSpans
  | .diacritic => .ofTable diacriticSpans
  | .emoji => .ofTable emojiSpans
  | .emojiComponent => .ofTable emojiComponentSpans
  | .emojiModifier => .ofTable emojiModifierSpans
  | .emojiModifierBase => .ofTable emojiModifierBaseSpans
  | .emojiPresentation => .ofTable emojiPresentationSpans
  | .extendedPictographic => .ofTable extendedPictographicSpans
  | .extender => .ofTable extenderSpans
  | .graphemeBase =>
    CodeSet.all.difference ((inCategories ["C", "Zl", "Zp"]).union Unicode.graphemeExtend)
  | .graphemeExtend => Unicode.graphemeExtend
  | .graphemeLink => .ofTable graphemeLinkSpans
  | .hexDigit => .ofTable hexDigitSpans
  | .hyphen => .ofTable hyphenSpans
  | .mathContinue => .ofTable mathContinueSpans
  | .mathStart => .ofTable mathStartSpans
  | .idContinue => partOfName
  | .idStart => startOfName
  | .idsBinaryOperator => .ofTable idsBinaryOperatorSpans
  | .idsTrinaryOperator => .ofTable idsTrinaryOperatorSpans
  | .idsUnaryOperator => .ofTable idsUnaryOperatorSpans
  | .ideographic => .ofTable ideographicSpans
  | .joinControl => Unicode.joinControl
  | .logicalOrderException => .ofTable logicalOrderExceptionSpans
  | .lowercase => Unicode.lowercase
  | .math => (inCategory "Sm").union (.ofTable otherMathSpans)
  | .modifierCombiningMark => .ofTable modifierCombiningMarkSpans
  | .noncharacter => .ofTable noncharacterSpans
  | .otherAlphabetic => .ofTable otherAlphabeticSpans
  | .otherDefaultIgnorable => .ofTable otherDefaultIgnorableSpans
  | .otherGraphemeExtend => .ofTable otherGraphemeExtendSpans
  | .otherIdContinue => .ofTable otherIdContinueSpans
  | .otherIdStart => .ofTable otherIdStartSpans
  | .otherLowercase => .ofTable otherLowercaseSpans
  | .otherMath => .ofTable otherMathSpans
  | .otherUppercase => .ofTable otherUppercaseSpans
  | .patternSyntax => .ofTable patternSyntaxSpans
  | .patternWhiteSpace => .ofTable patternWhiteSpaceSpans
  | .prependedConcatenationMark => .ofTable prependedConcatenationMarkSpans
  | .quotationMark => .ofTable quotationMarkSpans
  | .radical => .ofTable radicalSpans
  | .regionalIndicator => .ofTable regionalIndicatorSpans
  | .sentenceTerminal => .ofTable sentenceTerminalSpans
  | .softDotted => .ofTable softDottedSpans
  | .terminalPunctuation => .ofTable terminalPunctuationSpans
  | .unifiedIdeograph => .ofTable unifiedIdeographSpans
  | .uppercase => Unicode.uppercase
  | .variationSelector => .ofTable variationSelectorSpans
  | .whiteSpace => Unicode.whiteSpace
  | .xidContinue => partOfName.difference (.ofTable notPartWhenNormalized)
  | .xidStart => startOfName.difference (.ofTable notStartWhenNormalized)

end Property

def ofScript (name : String) : CodeSet :=
  .unionAll (scriptSpans.filterMap fun (names, lines) =>
    if names.contains name then some (.ofTable lines) else none)

/-- The code points that a script uses, by its names: those listed with it, and those assigned to
it that no list is about. -/
def usedBy (names : List String) (assigned : CodeSet) : CodeSet :=
  let listed := scriptExtensionSpans.flatMap fun (_, lines) => (CodeSet.ofTable lines).spans.toList
  let own := scriptExtensionSpans.filterMap fun (users, lines) =>
    if names.any (users.splitOn " ").contains then some (CodeSet.ofTable lines) else none
  .unionAll (assigned.difference (.ofSpans listed) :: own)

end Walkthrough.Unicode
