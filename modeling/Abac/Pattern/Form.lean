import Abac.CharSet

/-!
# Written forms

The written form of a pattern is what a reader sees in it before the flags give it a meaning. Forms
are nested as they are written; how deeply they may be nested is limited.
-/

namespace Abac.Pattern

/-- A flag. -/
inductive Flag where
  | ignoreCase
  | multiLine
  | dotAll
  /-- Repetitions without a question mark prefer short matches. -/
  | swapGreed
  | unicode
  /-- Blanks and comments do not count. -/
  | verbose
  | crlf
  deriving DecidableEq, Repr

/-- A flag that is set or cleared. -/
structure FlagChange where
  flag : Flag
  on : Bool
  deriving Repr

/-- A single character. -/
structure Literal where
  char : Char
  /-- Whether it was written with two hexadecimal digits, as an octet is. -/
  octet : Bool
  deriving Repr

/-- A kind of characters that has a letter of its own. -/
inductive Kind where
  | digit
  | blank
  | word
  deriving DecidableEq, Repr

/-- What holds a place in a pattern without matching a character. -/
inductive Anchor where
  | caret
  | dollar
  | textStart
  | textEnd
  | boundary
  | noBoundary
  | wordStart
  | wordEnd
  | wordStartHalf
  | wordEndHalf
  deriving DecidableEq, Repr

/-- What a plain character or an escape stands for. -/
inductive Primitive where
  | literal (c : Literal)
  /-- The characters with a property, which is given as it was written. -/
  | property (negated : Bool) (name : List Char)
  | kind (negated : Bool) (k : Kind)
  | dot
  | anchor (a : Anchor)
  deriving Repr

/-- An operation on two sets. -/
inductive SetOperator where
  | intersection
  | difference
  | symmetricDifference
  deriving DecidableEq, Repr

/-- The written form of a set. -/
inductive SetForm where
  | empty
  | literal (c : Literal)
  | range (first last : Literal)
  /-- The set of a name between colons. -/
  | named (negated : Bool) (s : CharSet)
  | property (negated : Bool) (name : List Char)
  | kind (negated : Bool) (k : Kind)
  /-- A set in brackets. -/
  | brackets (negated : Bool) (s : SetForm)
  /-- Several members. -/
  | union (members : List SetForm)
  | operation (op : SetOperator) (left right : SetForm)

/-- The written form of a pattern. -/
inductive Form where
  | empty
  | flags (changes : List FlagChange)
  | primitive (p : Primitive)
  /-- A set in brackets. -/
  | set (negated : Bool) (s : SetForm)
  | repeated (least : Nat) (most : Option Nat) (greedy : Bool) (a : Form)
  /-- A group with its number, if its match is kept, and the flags inside of it. -/
  | group (index : Option Nat) (changes : List FlagChange) (a : Form)
  | seq (parts : List Form)
  | alt (choices : List Form)

namespace SetForm

/-- Some members as a set. -/
def ofMembers : List SetForm → SetForm
  | [] => .empty
  | [s] => s
  | members => .union members

mutual

/-- Whether a set is nested no deeper than a number of times. Brackets, members beside others and
operations count. -/
def fits : Nat → SetForm → Bool
  | 0, .brackets _ _ => false
  | n + 1, .brackets _ s => s.fits n
  | 0, .union _ => false
  | n + 1, .union members => allFit n members
  | 0, .operation _ _ _ => false
  | n + 1, .operation _ l r => l.fits n && r.fits n
  | _, _ => true

/-- Whether no set is nested deeper than a number of times. -/
def allFit (n : Nat) : List SetForm → Bool
  | [] => true
  | s :: rest => s.fits n && allFit n rest

end

end SetForm

namespace Form

/-- Some parts one after another. -/
def ofParts : List Form → Form
  | [] => .empty
  | [p] => p
  | parts => .seq parts

/-- Either of some choices. -/
def ofChoices : List Form → Form
  | [] => .empty
  | [p] => p
  | choices => .alt choices

mutual

/-- Whether a pattern is nested no deeper than a number of times. Sets in brackets, repetitions,
groups, parts beside others and choices count. -/
def fits : Nat → Form → Bool
  | 0, .set _ _ => false
  | n + 1, .set _ s => s.fits n
  | 0, .repeated _ _ _ _ => false
  | n + 1, .repeated _ _ _ a => a.fits n
  | 0, .group _ _ _ => false
  | n + 1, .group _ _ a => a.fits n
  | 0, .seq _ => false
  | n + 1, .seq parts => allFit n parts
  | 0, .alt _ => false
  | n + 1, .alt choices => allFit n choices
  | _, _ => true

/-- Whether no pattern is nested deeper than a number of times. -/
def allFit (n : Nat) : List Form → Bool
  | [] => true
  | a :: rest => a.fits n && allFit n rest

end

end Form

/-- How deeply a pattern may be nested. -/
def maxDepth : Nat := 250

end Abac.Pattern
