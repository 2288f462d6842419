import Abac.Unicode.Property
import Abac.Unicode.Script

/-!
# Breaks in a text

Three properties tell where a text may be cut: between characters as the user sees them, between
words and between sentences. Each of them gives every character one value; most values follow from
other properties, with a few exceptions.
-/

namespace Abac.Unicode

/-! ## Rows of exceptions -/

/-- Rows of the spacing marks that start a character of their own. -/
def looseMarkRows : List String :=
  ["102B-102C 1038 1062-1064 1067-106D 1083 1087-108C 108F 109A-109C 1A61 1A63-1A64 AA7B AA7D",
    "11720-11721"]

/-- Rows of the characters that belong to the one after them. -/
def prependRows : List String :=
  ["600-605 6DD 70F 890-891 8E2 D4E 110BD 110CD 111C2-111C3 113D1 1193F 11941 11A3A",
    "11A84-11A89 11D46 11F02"]

/-- Rows of the vowels of Hangul. -/
def vowelRows : List String :=
  ["1160-11A7 D7B0-D7C6 16D63 16D67-16D6A"]

/-- Rows of the letters of scripts that are written without blanks between words. -/
def unspacedLetterRows : List String :=
  ["E01-E30 E32-E33 E40-E46 E81-E82 E84 E86-E8A E8C-EA3 EA5 EA7-EB0 EB2-EB3 EBD EC0-EC4 EC6",
    "EDC-EDF 1000-102A 103F 1050-1055 105A-105D 1061 1065-1066 106E-1070 1075-1081 108E",
    "1780-17B3 17D7 17DC 1950-196D 1970-1974 1980-19AB 19B0-19C9 1A20-1A54 1AA7 A9E0-A9E4",
    "A9E6-A9EF A9FA-A9FE AA60-AA76 AA7A AA7E-AAAF AAB1 AAB5-AAB6 AAB9-AABD AAC0 AAC2 AADB-AADD",
    "11700-1171A 11740-11746"]

/-- Rows of the letters of words that are no letters in the wide sense. -/
def otherWordRows : List String :=
  ["2C2-2C5 2D2-2D7 2DE-2DF 2E5-2EB 2ED 2EF-2FF 55A-55C 55E 58A 5F3 70F A708-A716 A720-A721",
    "A789-A78A AB5B"]

/-- Rows of the signs that count as digits. -/
def numeralRows : List String :=
  ["600-605 6DD 890-891 8E2 19DA 110BD 110CD"]

/-- Rows of the punctuation inside of sentences. -/
def continueRows : List String :=
  ["2C-2D 3A-3B 37E 55D 60C-60D 7F8 1802 1808 2013-2014 3001 FE10-FE11 FE13-FE14 FE31-FE32",
    "FE50-FE51 FE54-FE55 FE58 FE63 FF0C-FF0D FF1A-FF1B FF64"]

/-- Rows of the signs that end a sentence but have other uses too. -/
def fullStopRows : List String :=
  ["2E 2024 FE52 FF0E"]

/-- Rows of what else opens and closes a part of a sentence. -/
def otherCloseRows : List String :=
  ["275B-2760 2E00-2E01 2E06-2E08 2E0B 1F676-1F678"]

/-- The characters of the script with a code. -/
def scriptSet (code : String) : CharSet := ((Script.named? code).map Script.set).getD .empty

/-- The marks that go on with a character, in any of the senses. -/
def markSet : CharSet := Property.graphemeExtendSet.union Category.spacingMark.set

/-! ## Characters as the user sees them -/

/-- What a character does at the cuts between the characters that the user sees. -/
inductive GraphemeBreak where
  | carriageReturn
  | control
  | extend
  | hangulLead
  | hangulLeadVowel
  | hangulSyllable
  | hangulTrail
  | hangulVowel
  | joiner
  | lineFeed
  | prepended
  | regionalIndicator
  | spacingMark
  deriving DecidableEq, Repr

namespace GraphemeBreak

/-- The names of a value, as loose matching sees them. -/
def names : GraphemeBreak → List String
  | .carriageReturn => ["cr"]
  | .control => ["cn", "control"]
  | .extend => ["ex", "extend"]
  | .hangulLead => ["l"]
  | .hangulLeadVowel => ["lv"]
  | .hangulSyllable => ["lvt"]
  | .hangulTrail => ["t"]
  | .hangulVowel => ["v"]
  | .joiner => ["zwj"]
  | .lineFeed => ["lf"]
  | .prepended => ["pp", "prepend"]
  | .regionalIndicator => ["ri", "regionalindicator"]
  | .spacingMark => ["sm", "spacingmark"]

/-- All values. -/
def all : List GraphemeBreak :=
  [.carriageReturn, .control, .extend, .hangulLead, .hangulLeadVowel, .hangulSyllable,
    .hangulTrail, .hangulVowel, .joiner, .lineFeed, .prepended, .regionalIndicator, .spacingMark]

/-- The syllables of Hangul without a last consonant. -/
def leadVowelSet : CharSet := setOf ["AC00-D788/28"]

/-- What goes on with a character. -/
def extendSet : CharSet :=
  (setOf emojiModifierRows).union (Property.graphemeExtendSet.difference (setOf ["200D"]))

/-- What is no part of a character. -/
def controlSet : CharSet :=
  CharSet.difference
    ((Category.unassigned.intersection Property.defaultIgnorableSet).union
      (Category.unions [.lineSeparator, .paragraphSeparator, .control, .format]))
    ((setOf (["A D 200D"] ++ prependedConcatenationMarkRows)).union extendSet)

/-- The characters with a value. -/
def set : GraphemeBreak → CharSet
  | .carriageReturn => setOf ["D"]
  | .control => controlSet
  | .extend => extendSet
  | .hangulLead => setOf ["1100-115F A960-A97C"]
  | .hangulLeadVowel => leadVowelSet
  | .hangulSyllable => (CharSet.range 0xAC00 0xD7A3).difference leadVowelSet
  | .hangulTrail => setOf ["11A8-11FF D7CB-D7FB"]
  | .hangulVowel => setOf vowelRows
  | .joiner => setOf ["200D"]
  | .lineFeed => setOf ["A"]
  | .prepended => setOf prependRows
  | .regionalIndicator => setOf regionalIndicatorRows
  | .spacingMark =>
    CharSet.union (Category.spacingMark.set.difference (extendSet.union (setOf looseMarkRows)))
      (setOf ["E33 EB3"])

/-- The value with a name. -/
def named? (name : String) : Option GraphemeBreak := all.find? fun v => v.names.contains name

end GraphemeBreak

/-! ## Words -/

/-- What a character does at the cuts between words. -/
inductive WordBreak where
  | carriageReturn
  | doubleQuote
  | extend
  | extendNumLet
  | format
  | hebrewLetter
  | joiner
  | katakana
  | letter
  | lineFeed
  | midLetter
  | midNum
  | midNumLet
  | newline
  | numeric
  | regionalIndicator
  | singleQuote
  | space
  deriving DecidableEq, Repr

namespace WordBreak

/-- The names of a value, as loose matching sees them. -/
def names : WordBreak → List String
  | .carriageReturn => ["cr"]
  | .doubleQuote => ["dq", "doublequote"]
  | .extend => ["extend"]
  | .extendNumLet => ["ex", "extendnumlet"]
  | .format => ["fo", "format"]
  | .hebrewLetter => ["hl", "hebrewletter"]
  | .joiner => ["zwj"]
  | .katakana => ["ka", "katakana"]
  | .letter => ["le", "aletter"]
  | .lineFeed => ["lf"]
  | .midLetter => ["ml", "midletter"]
  | .midNum => ["mn", "midnum"]
  | .midNumLet => ["mb", "midnumlet"]
  | .newline => ["nl", "newline"]
  | .numeric => ["nu", "numeric"]
  | .regionalIndicator => ["ri", "regionalindicator"]
  | .singleQuote => ["sq", "singlequote"]
  | .space => ["wsegspace"]

/-- All values. -/
def all : List WordBreak :=
  [.carriageReturn, .doubleQuote, .extend, .extendNumLet, .format, .hebrewLetter, .joiner,
    .katakana, .letter, .lineFeed, .midLetter, .midNum, .midNumLet, .newline, .numeric,
    .regionalIndicator, .singleQuote, .space]

/-- What goes on with a character. -/
def extendSet : CharSet :=
  CharSet.difference (markSet.union (setOf emojiModifierRows)) (setOf ["200D"])

/-- The letters of Hebrew. -/
def hebrewSet : CharSet := (scriptSet "hebr").intersection Category.otherLetter.set

/-- The signs of Katakana and those that are used with them. -/
def katakanaSet : CharSet := (scriptSet "kana").union (setOf ["3031-3035 309B-309C 30A0 30FC FF70"])

/-- The letters of scripts that put blanks between words. -/
def letterSet : CharSet :=
  (Property.alphabeticSet.difference
    (.unions [setOf ideographicRows, scriptSet "hira", katakanaSet, hebrewSet, extendSet,
      setOf unspacedLetterRows])).union (setOf otherWordRows)

/-- The characters with a value. -/
def set : WordBreak → CharSet
  | .carriageReturn => setOf ["D"]
  | .doubleQuote => setOf ["22"]
  | .extend => extendSet
  | .extendNumLet => setOf (Category.connectorPunctuationRows ++ ["202F"])
  | .format =>
    Category.format.set.difference
      (Property.graphemeExtendSet.union (setOf (prependedConcatenationMarkRows ++ ["200B 200D"])))
  | .hebrewLetter => hebrewSet
  | .joiner => setOf ["200D"]
  | .katakana => katakanaSet
  | .letter => letterSet
  | .lineFeed => setOf ["A"]
  | .midLetter => setOf midLetterRows
  | .midNum => setOf midNumberRows
  | .midNumLet => setOf midNumberLetterRows
  | .newline => setOf ["B-C 85 2028-2029"]
  | .numeric => setOf (Category.decimalNumberRows ++ numeralRows ++ ["66B"])
  | .regionalIndicator => setOf regionalIndicatorRows
  | .singleQuote => setOf ["27"]
  | .space => Category.spaceSeparator.set.difference (setOf ["A0 2007 202F"])

/-- The value with a name. -/
def named? (name : String) : Option WordBreak := all.find? fun v => v.names.contains name

end WordBreak

/-! ## Sentences -/

/-- What a character does at the cuts between sentences. -/
inductive SentenceBreak where
  | carriageReturn
  | close
  | extend
  | format
  | fullStop
  | lineFeed
  | lower
  | numeric
  | otherLetter
  | sentenceContinue
  | sentenceEnd
  | separator
  | space
  | upper
  deriving DecidableEq, Repr

namespace SentenceBreak

/-- The names of a value, as loose matching sees them. -/
def names : SentenceBreak → List String
  | .carriageReturn => ["cr"]
  | .close => ["cl", "close"]
  | .extend => ["ex", "extend"]
  | .format => ["fo", "format"]
  | .fullStop => ["at", "aterm"]
  | .lineFeed => ["lf"]
  | .lower => ["lo", "lower"]
  | .numeric => ["nu", "numeric"]
  | .otherLetter => ["le", "oletter"]
  | .sentenceContinue => ["sc", "scontinue"]
  | .sentenceEnd => ["st", "sterm"]
  | .separator => ["se", "sep"]
  | .space => ["sp"]
  | .upper => ["up", "upper"]

/-- All values. -/
def all : List SentenceBreak :=
  [.carriageReturn, .close, .extend, .format, .fullStop, .lineFeed, .lower, .numeric,
    .otherLetter, .sentenceContinue, .sentenceEnd, .separator, .space, .upper]

/-- What goes on with a character. -/
def extendSet : CharSet := markSet.union (setOf ["200D"])

/-- The letters in lower case. -/
def lowerSet : CharSet :=
  Property.lowercaseSet.difference ((setOf ["10D0-10FA 10FD-10FF"]).union extendSet)

/-- The letters in upper case, other than those that write a text in capitals only. -/
def upperSet : CharSet :=
  CharSet.difference (Property.uppercaseSet.union Category.titlecaseLetter.set)
    (setOf ["1C90-1CBA 1CBD-1CBF"])

/-- The characters with a value. -/
def set : SentenceBreak → CharSet
  | .carriageReturn => setOf ["D"]
  | .close =>
    CharSet.difference
      (.unions [setOf quotationMarkRows, setOf otherCloseRows,
        Category.unions [.openPunctuation, .closePunctuation, .initialPunctuation,
          .finalPunctuation]])
      (setOf ["FF02 FF07"])
  | .extend => extendSet
  | .format => Category.format.set.difference ((setOf numeralRows).union extendSet)
  | .fullStop => setOf fullStopRows
  | .lineFeed => setOf ["A"]
  | .lower => lowerSet
  | .numeric => setOf (Category.decimalNumberRows ++ numeralRows ++ ["66B-66C"])
  | .otherLetter =>
    (Property.alphabeticSet.union (setOf ["5F3"])).difference
      (.unions [lowerSet, upperSet, extendSet])
  | .sentenceContinue => setOf continueRows
  | .sentenceEnd => (setOf sentenceTerminalRows).difference (setOf fullStopRows)
  | .separator => setOf ["85 2028-2029"]
  | .space => (setOf whiteSpaceRows).difference (setOf ["A D 85 2028-2029"])
  | .upper => upperSet

/-- The value with a name. -/
def named? (name : String) : Option SentenceBreak := all.find? fun v => v.names.contains name

end SentenceBreak

end Abac.Unicode
