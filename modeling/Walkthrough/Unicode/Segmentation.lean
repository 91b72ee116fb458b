import Walkthrough.Unicode.Property

/-!
The classes of code points by which text is cut into characters as readers see them, into words and
into sentences.
-/
namespace Walkthrough.Unicode

def carriageReturn : CodeSet := .range 0xD 0xD

def lineFeed : CodeSet := .range 0xA 0xA

def joiner : CodeSet := .range 0x200D 0x200D

def joiners : CodeSet := .range 0x200C 0x200D

def separatorsOfParagraphs : CodeSet := .ofTable ["85 2028-2029"]

def numeric : CodeSet :=
  .unionAll [decimalNumbers, .range 0x66B 0x66B,
    (CodeSet.ofTable prependedConcatenationMarkSpans).difference (.range 0x70F 0x70F)]

def formats (extenders : CodeSet) : CodeSet :=
  (inCategory "Cf").difference (.unionAll [joiners, numeric, extenders])

inductive GraphemeBreak where
  | carriageReturn | lineFeed | control | extend | joiner | regionalIndicator | prepend
  | spacingMark | lead | vowel | trail | leadVowel | leadVowelTrail
deriving DecidableEq, Repr

namespace GraphemeBreak

def extenders : CodeSet := graphemeExtend.union (.ofTable emojiModifierSpans)

def prepended : CodeSet :=
  .unionAll [.ofTable prependedConcatenationMarkSpans,
    .ofTable ["D4E 111C2-111C3 113D1 1193F 11941 11A3A 11A84-11A89 11D46 11F02"]]

def separateMarks : List String :=
  ["102B-102C 1038 1062-1064 1067-106D 1083 1087-108C 108F 109A-109C 1A61-1A63/2 1A64 AA7B-AA7D/2",
   "11720-11721"]

def syllables : CodeSet := .range 0xAC00 0xD7A3

def openSyllables : List String := ["AC00-D788/1C"]

def members : GraphemeBreak → CodeSet
  | .carriageReturn => Unicode.carriageReturn
  | .lineFeed => Unicode.lineFeed
  | .control =>
    ((inCategories ["Zl", "Zp", "Cc", "Cf"]).union
      ((inCategory "Cn").intersection (Property.members .defaultIgnorable))).difference
      (.unionAll [Unicode.carriageReturn, Unicode.lineFeed, joiners,
        .ofTable prependedConcatenationMarkSpans, extenders])
  | .extend => extenders
  | .joiner => Unicode.joiner
  | .regionalIndicator => .ofTable regionalIndicatorSpans
  | .prepend => prepended
  | .spacingMark =>
    ((inCategory "Mc").union (.ofTable ["E33 EB3"])).difference
      (extenders.union (.ofTable separateMarks))
  | .lead => .ofTable ["1100-115F A960-A97C"]
  | .vowel => .ofTable ["1160-11A7 D7B0-D7C6 16D63 16D67-16D6A"]
  | .trail => .ofTable ["11A8-11FF D7CB-D7FB"]
  | .leadVowel => .ofTable openSyllables
  | .leadVowelTrail => syllables.difference (.ofTable openSyllables)

end GraphemeBreak

inductive WordBreak where
  | carriageReturn | lineFeed | newline | joiner | doubleQuote | singleQuote | extend | format
  | regionalIndicator | hebrewLetter | katakana | letter | midLetter | midNumber | midNumberLetter
  | numeric | extendNumberLetter | space
deriving DecidableEq, Repr

namespace WordBreak

def extenders : CodeSet :=
  (CodeSet.unionAll [graphemeExtend, inCategory "Mc", .ofTable emojiModifierSpans]).difference
    Unicode.joiner

def hebrewLetters : CodeSet := (ofScript "Hebrew").intersection (inCategory "Lo")

def kana : CodeSet :=
  (ofScript "Katakana").union (.ofTable ["3031-3035 309B-309C 30A0 30FC FF70"])

def scriptsWithoutSpaces : CodeSet :=
  .unionAll (["Thai", "Lao", "Khmer", "Myanmar", "Tai_Le", "New_Tai_Lue", "Tai_Tham", "Tai_Viet",
    "Ahom", "Hiragana"].map ofScript)

def wordMarks : List String :=
  ["2C2-2C5 2D2-2D7 2DE-2DF 2E5-2EB 2ED 2EF-2FF 55A-55C 55E 58A 5F3 70F A708-A716 A720-A721",
   "A789-A78A AB5B"]

def members : WordBreak → CodeSet
  | .carriageReturn => Unicode.carriageReturn
  | .lineFeed => Unicode.lineFeed
  | .newline => separatorsOfParagraphs.union (.range 0xB 0xC)
  | .joiner => Unicode.joiner
  | .doubleQuote => .single '"'
  | .singleQuote => .single '\''
  | .extend => extenders
  | .format =>
    (formats extenders).difference (.ofTable ["70F 200B"])
  | .regionalIndicator => .ofTable regionalIndicatorSpans
  | .hebrewLetter => hebrewLetters
  | .katakana => kana
  | .letter =>
    (alphabetic.union (.ofTable wordMarks)).difference
      (.unionAll [.ofTable ideographicSpans, kana, scriptsWithoutSpaces, extenders, hebrewLetters])
  | .midLetter => .ofTable ["3A B7 387 55F 5F4 2027 FE13 FE55 FF1A"]
  | .midNumber =>
    .ofTable ["2C 3B 37E 589 60C-60D 66C 7F8 2044 FE10 FE14 FE50 FE54 FF0C FF1B"]
  | .midNumberLetter => .ofTable ["2E 2018-2019 2024 FE52 FF07 FF0E"]
  | .numeric => Unicode.numeric
  | .extendNumberLetter => (inCategory "Pc").union (.range 0x202F 0x202F)
  | .space => (inCategory "Zs").difference (.ofTable ["A0 2007 202F"])

end WordBreak

inductive SentenceBreak where
  | carriageReturn | lineFeed | separator | extend | format | space | lower | upper | otherLetter
  | numeric | fullStop | terminal | continuation | close
deriving DecidableEq, Repr

namespace SentenceBreak

def extenders : CodeSet := .unionAll [graphemeExtend, inCategory "Mc", Unicode.joiner]

def lowerLetters : CodeSet :=
  Unicode.lowercase.difference (graphemeExtend.union (.ofTable ["10D0-10FA 10FD-10FF"]))

def upperLetters : CodeSet :=
  (Unicode.uppercase.union (inCategory "Lt")).difference (.ofTable ["1C90-1CBA 1CBD-1CBF"])

def fullStops : CodeSet := .ofTable ["2E 2024 FE52 FF0E"]

def plainQuotes : List String := ["22 27 275B-2760 2E00-2E01 2E06-2E08 2E0B 1F676-1F678"]

def members : SentenceBreak → CodeSet
  | .carriageReturn => Unicode.carriageReturn
  | .lineFeed => Unicode.lineFeed
  | .separator => separatorsOfParagraphs
  | .extend => extenders
  | .format => formats extenders
  | .space =>
    whiteSpace.difference
      (.unionAll [separatorsOfParagraphs, Unicode.carriageReturn, Unicode.lineFeed])
  | .lower => lowerLetters
  | .upper => upperLetters
  | .otherLetter =>
    (alphabetic.union (.range 0x5F3 0x5F3)).difference
      (.unionAll [lowerLetters, upperLetters, extenders])
  | .numeric => Unicode.numeric.union (.range 0x66C 0x66C)
  | .fullStop => fullStops
  | .terminal => (CodeSet.ofTable sentenceTerminalSpans).difference fullStops
  | .continuation =>
    .ofTable ["2C-2D 3A-3B 37E 55D 60C-60D 7F8 1802 1808 2013-2014 3001 FE10-FE11 FE13-FE14",
      "FE31-FE32 FE50-FE51 FE54-FE55 FE58 FE63 FF0C-FF0D FF1A-FF1B FF64"]
  | .close => (inCategories ["Ps", "Pe", "Pi", "Pf"]).union (.ofTable plainQuotes)

end SentenceBreak

end Walkthrough.Unicode
