/-!
# Read errors

Why a text is no pattern.
-/

namespace Abac.Pattern

/-- Why a text is no pattern. -/
inductive ReadError where
  | unclosedGroup
  | unopenedGroup
  | badGroupName
  | badFlags
  | unclosedSet
  | badRange
  | badSetMember
  | nothingToRepeat
  | badRepetition
  | badEscape
  | unknownProperty
  /-- A reference to a group, or a look ahead or behind. -/
  | unsupported
  /-- The pattern would match parts of a character. -/
  | splitsCharacters
  | tooDeep
  | tooLarge
  deriving DecidableEq, Repr

/-- The wording of a read error. -/
def ReadError.message : ReadError → String
  | .unclosedGroup => "unclosed group"
  | .unopenedGroup => "unopened group"
  | .badGroupName => "invalid group name"
  | .badFlags => "invalid flags"
  | .unclosedSet => "unclosed character class"
  | .badRange => "invalid character class range"
  | .badSetMember => "invalid escape sequence in character class"
  | .nothingToRepeat => "repetition operator missing expression"
  | .badRepetition => "invalid repetition count"
  | .badEscape => "invalid escape sequence"
  | .unknownProperty => "unknown character property"
  | .unsupported => "unsupported syntax"
  | .splitsCharacters => "pattern can match a part of a character"
  | .tooDeep => "pattern is nested too deeply"
  | .tooLarge => "pattern is too large"

end Abac.Pattern
