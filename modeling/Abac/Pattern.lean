import Abac.CharSet

/-!
# Patterns

A pattern describes texts: given texts, characters of a set, places in a text, patterns one after
another, either of several patterns, and repetitions. A pattern is only ever asked whether it
matches somewhere in a text, so that it does not matter which of several matches would be preferred.
What matters as well is how large an automaton for the pattern would be; groups, preferences and the
difference between sets of characters and sets of octets are kept for that.
-/

namespace Abac

/-- A condition on a place in a text. -/
inductive Place where
  | textStart
  | textEnd
  /-- The start of the text or the place after a line feed. -/
  | lineStart
  /-- The end of the text or the place before a line feed. -/
  | lineEnd
  /-- As `lineStart`, where a carriage return alone or before a line feed ends a line as well. -/
  | crlfLineStart
  /-- As `lineEnd`, where a carriage return alone or before a line feed ends a line as well. -/
  | crlfLineEnd
  /-- A change between the characters of a set and others. -/
  | boundary (letters : CharSet)
  | noBoundary (letters : CharSet)
  /-- A change from other characters to those of a set. -/
  | wordStart (letters : CharSet)
  /-- A change from the characters of a set to others. -/
  | wordEnd (letters : CharSet)
  /-- No character of a set stands before. -/
  | wordStartHalf (letters : CharSet)
  /-- No character of a set stands after. -/
  | wordEndHalf (letters : CharSet)
  deriving DecidableEq, Repr

namespace Place

/-- Whether there is a character and a set has it. -/
def among (s : CharSet) : Option Char → Bool
  | some c => s.contains c.toNat
  | .none => false

/-- Whether a condition holds between two neighbouring characters, absent at the ends of the text.
-/
def holds (before after : Option Char) : Place → Bool
  | .textStart => before.isNone
  | .textEnd => after.isNone
  | .lineStart => before.isNone || before == some '\n'
  | .lineEnd => after.isNone || after == some '\n'
  | .crlfLineStart => before.isNone || before == some '\n' ||
      (before == some '\r' && after != some '\n')
  | .crlfLineEnd => after.isNone || after == some '\r' ||
      (after == some '\n' && before != some '\r')
  | .boundary s => among s before != among s after
  | .noBoundary s => among s before == among s after
  | .wordStart s => !among s before && among s after
  | .wordEnd s => among s before && !among s after
  | .wordStartHalf s => !among s before
  | .wordEndHalf s => !among s after

end Place

/-- A pattern. -/
inductive Pattern where
  /-- The empty text. -/
  | empty
  /-- A given text. -/
  | literal (text : List Char)
  /-- One character of a set. A set of octets holds only characters of one octet. -/
  | set (octets : Bool) (s : CharSet)
  /-- The empty text at a place. -/
  | place (p : Place)
  /-- A pattern from `least` to `most` times, or without upper bound. -/
  | repeated (least : Nat) (most : Option Nat) (greedy : Bool) (a : Pattern)
  /-- A pattern whose match is kept under a number. -/
  | group (index : Nat) (a : Pattern)
  /-- Patterns one after another. -/
  | seq (parts : List Pattern)
  /-- Either of several patterns. -/
  | alt (choices : List Pattern)

end Abac
