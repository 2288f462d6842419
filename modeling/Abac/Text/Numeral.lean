/-!
# Decimal numerals

Whole numbers are written with their shortest decimal digits. They are read in two ways: a plain
numeral is one or more digits and nothing else, and a signed numeral may open with a sign. A reader
of a bounded type says which of the two bounds it ran into.
-/

namespace Abac.Text

/-- The value of a decimal digit; other characters are not asked for. -/
def digitValue (c : Char) : Nat := c.toNat - 48

/-- The number that a run of digits denotes, most significant digit first. -/
def ofDigits (s : List Char) : Nat := s.foldl (fun n c => 10 * n + digitValue c) 0

/-- The shortest decimal digits of a number. -/
def digits (n : Nat) : List Char := Nat.toDigits 10 n

/-- The decimal digits of `n`, filled with zeros on the left up to `width` characters. -/
def paddedDigits (width n : Nat) : List Char :=
  List.replicate (width - (digits n).length) '0' ++ digits n

/-- The decimal text of an integer: a sign only when it is negative. -/
def signedDigits (i : Int) : List Char :=
  if i < 0 then '-' :: digits i.natAbs else digits i.natAbs

/-- Whether the text is one or more digits and nothing else. -/
def isNumeral (s : List Char) : Bool := !s.isEmpty && s.all Char.isDigit

/-- Read a plain numeral that denotes a number of at most `bound`. -/
def readBounded (bound : Nat) (s : List Char) : Option Nat :=
  if isNumeral s && ofDigits s ≤ bound then some (ofDigits s) else none

/-- Read a numeral of at most `bound` that may open with a plus sign. -/
def readUnsigned (bound : Nat) : List Char → Option Nat
  | '+' :: r => readBounded bound r
  | s => readBounded bound s

/-- Why a text is no integer of a bounded type. -/
inductive NumeralError where
  /-- There is no text. -/
  | empty
  /-- A character is no digit, or a sign stands alone. -/
  | invalidDigit
  /-- The number lies above the upper bound. -/
  | tooLarge
  /-- The number lies below the lower bound. -/
  | tooSmall
  deriving DecidableEq, Repr

/-- The wording of a numeral error. -/
def NumeralError.message : NumeralError → String
  | .empty => "cannot parse integer from empty string"
  | .invalidDigit => "invalid digit found in string"
  | .tooLarge => "number too large to fit in target type"
  | .tooSmall => "number too small to fit in target type"

/-- Read digits from left to right while the number stays at most `bound`. The first character that
is no digit or that takes the number over the bound decides the error. -/
def readDigitsWithin (bound : Nat) (excess : NumeralError) :
    Nat → List Char → Except NumeralError Nat
  | n, [] => .ok n
  | n, c :: r =>
    if !c.isDigit then .error .invalidDigit
    else if 10 * n + digitValue c ≤ bound then
      readDigitsWithin bound excess (10 * n + digitValue c) r
    else .error excess

/-- Read an integer between `-below` and `above`, with an optional sign. -/
def readSigned (below above : Nat) : List Char → Except NumeralError Int
  | [] => .error .empty
  | ['+'] => .error .invalidDigit
  | ['-'] => .error .invalidDigit
  | '+' :: r => (readDigitsWithin above .tooLarge 0 r).map Int.ofNat
  | '-' :: r => (readDigitsWithin below .tooSmall 0 r).map fun n => -(Int.ofNat n)
  | s => (readDigitsWithin above .tooLarge 0 s).map Int.ofNat

end Abac.Text
