import Abac.Unicode.Category
import Abac.Unicode.PropertyTable

/-!
# Properties of characters

A property either is listed in a table or follows from the general categories and other properties,
with a few exceptions.
-/

namespace Abac.Unicode

/-- A property that a character has or has not. -/
inductive Property where
  | alphabetic
  | asciiHexDigit
  | bidiControl
  | bidiMirrored
  | caseIgnorable
  | cased
  | changesWhenCasefolded
  | changesWhenCasemapped
  | changesWhenLowercased
  | changesWhenTitlecased
  | changesWhenUppercased
  | dash
  | defaultIgnorable
  | deprecated
  | diacritic
  | emoji
  | emojiComponent
  | emojiModifier
  | emojiModifierBase
  | emojiPresentation
  | extendedPictographic
  | extender
  | graphemeBase
  | graphemeExtend
  | graphemeLink
  | hexDigit
  | hyphen
  | idCompatMathContinue
  | idCompatMathStart
  | idContinue
  | idStart
  | ideographic
  | idsBinaryOperator
  | idsTrinaryOperator
  | idsUnaryOperator
  | joinControl
  | logicalOrderException
  | lowercase
  | math
  | modifierCombiningMark
  | noncharacter
  | otherAlphabetic
  | otherDefaultIgnorable
  | otherGraphemeExtend
  | otherIdContinue
  | otherIdStart
  | otherLowercase
  | otherMath
  | otherUppercase
  | patternSyntax
  | patternWhiteSpace
  | prependedConcatenationMark
  | quotationMark
  | radical
  | regionalIndicator
  | sentenceTerminal
  | softDotted
  | terminalPunctuation
  | unifiedIdeograph
  | uppercase
  | variationSelector
  | whiteSpace
  | xidContinue
  | xidStart
  deriving DecidableEq, Repr

namespace Property

/-- The names of a property, as loose matching sees them. -/
def names : Property → List String
  | .alphabetic => ["alphabetic", "alpha"]
  | .asciiHexDigit => ["asciihexdigit", "ahex"]
  | .bidiControl => ["bidicontrol", "bidic"]
  | .bidiMirrored => ["bidimirrored", "bidim"]
  | .caseIgnorable => ["caseignorable", "ci"]
  | .cased => ["cased"]
  | .changesWhenCasefolded => ["changeswhencasefolded", "cwcf"]
  | .changesWhenCasemapped => ["changeswhencasemapped", "cwcm"]
  | .changesWhenLowercased => ["changeswhenlowercased", "cwl"]
  | .changesWhenTitlecased => ["changeswhentitlecased", "cwt"]
  | .changesWhenUppercased => ["changeswhenuppercased", "cwu"]
  | .dash => ["dash"]
  | .defaultIgnorable => ["defaultignorablecodepoint", "di"]
  | .deprecated => ["deprecated", "dep"]
  | .diacritic => ["diacritic", "dia"]
  | .emoji => ["emoji"]
  | .emojiComponent => ["emojicomponent", "ecomp"]
  | .emojiModifier => ["emojimodifier", "emod"]
  | .emojiModifierBase => ["emojimodifierbase", "ebase"]
  | .emojiPresentation => ["emojipresentation", "epres"]
  | .extendedPictographic => ["extendedpictographic", "extpict"]
  | .extender => ["extender", "ext"]
  | .graphemeBase => ["graphemebase", "grbase"]
  | .graphemeExtend => ["graphemeextend", "grext"]
  | .graphemeLink => ["graphemelink", "grlink"]
  | .hexDigit => ["hexdigit", "hex"]
  | .hyphen => ["hyphen"]
  | .idCompatMathContinue => ["idcompatmathcontinue"]
  | .idCompatMathStart => ["idcompatmathstart"]
  | .idContinue => ["idcontinue", "idc"]
  | .idStart => ["idstart", "ids"]
  | .ideographic => ["ideographic", "ideo"]
  | .idsBinaryOperator => ["idsbinaryoperator", "idsb"]
  | .idsTrinaryOperator => ["idstrinaryoperator", "idst"]
  | .idsUnaryOperator => ["idsunaryoperator", "idsu"]
  | .joinControl => ["joincontrol", "joinc"]
  | .logicalOrderException => ["logicalorderexception", "loe"]
  | .lowercase => ["lowercase", "lower"]
  | .math => ["math"]
  | .modifierCombiningMark => ["modifiercombiningmark", "mcm"]
  | .noncharacter => ["noncharactercodepoint", "nchar"]
  | .otherAlphabetic => ["otheralphabetic", "oalpha"]
  | .otherDefaultIgnorable => ["otherdefaultignorablecodepoint", "odi"]
  | .otherGraphemeExtend => ["othergraphemeextend", "ogrext"]
  | .otherIdContinue => ["otheridcontinue", "oidc"]
  | .otherIdStart => ["otheridstart", "oids"]
  | .otherLowercase => ["otherlowercase", "olower"]
  | .otherMath => ["othermath", "omath"]
  | .otherUppercase => ["otheruppercase", "oupper"]
  | .patternSyntax => ["patternsyntax", "patsyn"]
  | .patternWhiteSpace => ["patternwhitespace", "patws"]
  | .prependedConcatenationMark => ["prependedconcatenationmark", "pcm"]
  | .quotationMark => ["quotationmark", "qmark"]
  | .radical => ["radical"]
  | .regionalIndicator => ["regionalindicator", "ri"]
  | .sentenceTerminal => ["sentenceterminal", "sterm"]
  | .softDotted => ["softdotted", "sd"]
  | .terminalPunctuation => ["terminalpunctuation", "term"]
  | .unifiedIdeograph => ["unifiedideograph", "uideo"]
  | .uppercase => ["uppercase", "upper"]
  | .variationSelector => ["variationselector", "vs"]
  | .whiteSpace => ["whitespace", "wspace", "space"]
  | .xidContinue => ["xidcontinue", "xidc"]
  | .xidStart => ["xidstart", "xids"]

/-- All properties. -/
def all : List Property :=
  [.alphabetic, .asciiHexDigit, .bidiControl, .bidiMirrored, .caseIgnorable, .cased,
    .changesWhenCasefolded, .changesWhenCasemapped, .changesWhenLowercased,
    .changesWhenTitlecased, .changesWhenUppercased, .dash, .defaultIgnorable, .deprecated,
    .diacritic, .emoji, .emojiComponent, .emojiModifier, .emojiModifierBase, .emojiPresentation,
    .extendedPictographic, .extender, .graphemeBase, .graphemeExtend, .graphemeLink, .hexDigit,
    .hyphen, .idCompatMathContinue, .idCompatMathStart, .idContinue, .idStart, .ideographic,
    .idsBinaryOperator, .idsTrinaryOperator, .idsUnaryOperator, .joinControl,
    .logicalOrderException, .lowercase, .math, .modifierCombiningMark, .noncharacter,
    .otherAlphabetic, .otherDefaultIgnorable, .otherGraphemeExtend, .otherIdContinue,
    .otherIdStart, .otherLowercase, .otherMath, .otherUppercase, .patternSyntax,
    .patternWhiteSpace, .prependedConcatenationMark, .quotationMark, .radical, .regionalIndicator,
    .sentenceTerminal, .softDotted, .terminalPunctuation, .unifiedIdeograph, .uppercase,
    .variationSelector, .whiteSpace, .xidContinue, .xidStart]

/-! ## Derived properties -/

/-- Lower case letters and what else counts as such. -/
def lowercaseSet : CharSet := setOf (Category.lowercaseLetterRows ++ otherLowercaseRows)

/-- Upper case letters and what else counts as such. -/
def uppercaseSet : CharSet := setOf (Category.uppercaseLetterRows ++ otherUppercaseRows)

/-- Letters in a wide sense. -/
def alphabeticSet : CharSet :=
  .unions [lowercaseSet, uppercaseSet, setOf otherAlphabeticRows,
    Category.unions [.titlecaseLetter, .modifierLetter, .otherLetter, .letterNumber]]

/-- What has a case. -/
def casedSet : CharSet := .unions [lowercaseSet, uppercaseSet, Category.titlecaseLetter.set]

/-- What is passed over when a word is looked at for the case of its letters: marks, formats,
modifiers and the punctuation inside of words. -/
def caseIgnorableSet : CharSet :=
  .union (setOf (midLetterRows ++ midNumberLetterRows ++ ["27"]))
    (Category.unions
      [.nonspacingMark, .enclosingMark, .format, .modifierLetter, .modifierSymbol])

/-- What changes with any change of case but folding. -/
def changesWhenCasemappedSet : CharSet :=
  setOf (changesWhenLowercasedRows ++ changesWhenUppercasedRows ++ changesWhenTitlecasedRows)

/-- What is not displayed where it is not supported. -/
def defaultIgnorableSet : CharSet :=
  (setOf (otherDefaultIgnorableRows ++ Category.formatRows ++ variationSelectorRows)).difference
    (setOf (whiteSpaceRows ++ ["FFF9-FFFB 13430-13440"] ++ prependedConcatenationMarkRows))

/-- What goes on with a character as the user sees it. -/
def graphemeExtendSet : CharSet :=
  setOf (Category.enclosingMarkRows ++ Category.nonspacingMarkRows ++ otherGraphemeExtendRows)

/-- The categories of what is not seen. -/
def invisible : List Category :=
  [.control, .format, .privateUse, .lineSeparator, .paragraphSeparator]

/-- What a character as the user sees it can start with. -/
def graphemeBaseSet : CharSet :=
  CharSet.difference
    (Category.unions (Category.all.filter fun c => !invisible.contains c))
    graphemeExtendSet

/-- What is kept for the notation of patterns. -/
def patternSet : CharSet := setOf (patternSyntaxRows ++ patternWhiteSpaceRows)

/-- What an identifier can start with. -/
def idStartSet : CharSet :=
  ((Category.unions [.uppercaseLetter, .lowercaseLetter, .titlecaseLetter, .modifierLetter,
    .otherLetter, .letterNumber]).union (setOf otherIdStartRows)).difference patternSet

/-- What an identifier can go on with. -/
def idContinueSet : CharSet :=
  CharSet.difference
    (.unions [idStartSet, setOf otherIdContinueRows,
      Category.unions [.nonspacingMark, .spacingMark, .decimalNumber, .connectorPunctuation]])
    patternSet

/-- What an identifier cannot go on with because its compatibility form could not. -/
def unstableContinueRows : List String := ["37A 309B-309C FC5E-FC63 FDFA-FDFB FE70-FE7E/2"]

/-- What an identifier cannot start with because its compatibility form could not. -/
def unstableStartRows : List String := unstableContinueRows ++ ["E33 EB3 FF9E-FF9F"]

/-- The characters with a property. -/
def set : Property → CharSet
  | .alphabetic => alphabeticSet
  | .asciiHexDigit => setOf asciiHexDigitRows
  | .bidiControl => setOf bidiControlRows
  | .bidiMirrored => setOf bidiMirroredRows
  | .caseIgnorable => caseIgnorableSet
  | .cased => casedSet
  | .changesWhenCasefolded => setOf changesWhenCasefoldedRows
  | .changesWhenCasemapped => changesWhenCasemappedSet
  | .changesWhenLowercased => setOf changesWhenLowercasedRows
  | .changesWhenTitlecased => setOf changesWhenTitlecasedRows
  | .changesWhenUppercased => setOf changesWhenUppercasedRows
  | .dash => setOf dashRows
  | .defaultIgnorable => defaultIgnorableSet
  | .deprecated => setOf deprecatedRows
  | .diacritic => setOf diacriticRows
  | .emoji => setOf emojiRows
  | .emojiComponent => setOf emojiComponentRows
  | .emojiModifier => setOf emojiModifierRows
  | .emojiModifierBase => setOf emojiModifierBaseRows
  | .emojiPresentation => setOf emojiPresentationRows
  | .extendedPictographic => setOf extendedPictographicRows
  | .extender => setOf extenderRows
  | .graphemeBase => graphemeBaseSet
  | .graphemeExtend => graphemeExtendSet
  | .graphemeLink => setOf graphemeLinkRows
  | .hexDigit => setOf hexDigitRows
  | .hyphen => setOf hyphenRows
  | .idCompatMathContinue => setOf idCompatMathContinueRows
  | .idCompatMathStart => setOf idCompatMathStartRows
  | .idContinue => idContinueSet
  | .idStart => idStartSet
  | .ideographic => setOf ideographicRows
  | .idsBinaryOperator => setOf idsBinaryOperatorRows
  | .idsTrinaryOperator => setOf idsTrinaryOperatorRows
  | .idsUnaryOperator => setOf idsUnaryOperatorRows
  | .joinControl => setOf joinControlRows
  | .logicalOrderException => setOf logicalOrderExceptionRows
  | .lowercase => lowercaseSet
  | .math => setOf (Category.mathSymbolRows ++ otherMathRows)
  | .modifierCombiningMark => setOf modifierCombiningMarkRows
  | .noncharacter => setOf noncharacterRows
  | .otherAlphabetic => setOf otherAlphabeticRows
  | .otherDefaultIgnorable => setOf otherDefaultIgnorableRows
  | .otherGraphemeExtend => setOf otherGraphemeExtendRows
  | .otherIdContinue => setOf otherIdContinueRows
  | .otherIdStart => setOf otherIdStartRows
  | .otherLowercase => setOf otherLowercaseRows
  | .otherMath => setOf otherMathRows
  | .otherUppercase => setOf otherUppercaseRows
  | .patternSyntax => setOf patternSyntaxRows
  | .patternWhiteSpace => setOf patternWhiteSpaceRows
  | .prependedConcatenationMark => setOf prependedConcatenationMarkRows
  | .quotationMark => setOf quotationMarkRows
  | .radical => setOf radicalRows
  | .regionalIndicator => setOf regionalIndicatorRows
  | .sentenceTerminal => setOf sentenceTerminalRows
  | .softDotted => setOf softDottedRows
  | .terminalPunctuation => setOf terminalPunctuationRows
  | .unifiedIdeograph => setOf unifiedIdeographRows
  | .uppercase => uppercaseSet
  | .variationSelector => setOf variationSelectorRows
  | .whiteSpace => setOf whiteSpaceRows
  | .xidContinue => idContinueSet.difference (setOf unstableContinueRows)
  | .xidStart => idStartSet.difference (setOf unstableStartRows)

/-- The property with a name. -/
def named? (name : String) : Option Property := all.find? fun p => p.names.contains name

end Property

end Abac.Unicode
