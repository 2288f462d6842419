import Abac.Text.Blank
import Abac.Text.Numeral
import Abac.Temporal.Calendar

/-!
# The fields of dates and times

A date is written `year-month-day` and a time of day `hour:minute:second`, the second with an
optional fraction. Blanks may stand before every field but not after it. A year has up to four
digits, or any number of them after a sign; the other fields have up to two. A fraction may have
any number of digits, and those after the ninth do not count.

Fields are read from left to right and the first failure is the one reported. Whether the calendar
has the date is asked only after the whole text has been read.
-/

namespace Abac.Temporal

/-- Why a text is no date or time of day. -/
inductive FieldError where
  /-- A number is too large or too small for its field, or the calendar has no such date. -/
  | outOfRange
  /-- A character stands where another one was expected. -/
  | invalid
  /-- The text ends too early. -/
  | tooShort
  /-- Something follows the last field. -/
  | tooLong
  deriving DecidableEq, Repr

/-- The wording of a field error. -/
def FieldError.message : FieldError → String
  | .outOfRange => "input is out of range"
  | .invalid => "input contains invalid characters"
  | .tooShort => "premature end of input"
  | .tooLong => "trailing input"

/-- The largest number that fits in 63 bits. -/
def maxNumber : Nat := 0x7FFFFFFFFFFFFFFF

/-- Digits, and the text after them. At least one is needed, and the number must fit in 63 bits. -/
def number (ds s rest : List Char) : Except FieldError (Nat × List Char) :=
  match s with
  | [] => .error .tooShort
  | _ :: _ =>
    if ds.isEmpty then .error .invalid
    else if Text.ofDigits ds > maxNumber then .error .outOfRange
    else .ok (Text.ofDigits ds, rest)

/-- A number of at most `width` digits at the start of the text. -/
def shortNumber (width : Nat) (s : List Char) : Except FieldError (Nat × List Char) :=
  let ds := (s.take width).takeWhile Char.isDigit
  number ds s (s.drop ds.length)

/-- A number of any number of digits at the start of the text. -/
def longNumber (s : List Char) : Except FieldError (Nat × List Char) :=
  number (s.takeWhile Char.isDigit) s (s.dropWhile Char.isDigit)

/-- A field of at most two digits between two bounds. -/
def field (low high : Nat) (s : List Char) : Except FieldError (Nat × List Char) := do
  let (n, rest) ← shortNumber 2 (Text.trimLeft s)
  if low ≤ n ∧ n ≤ high then return (n, rest) else throw .outOfRange

/-- The year: it must fit in 32 bits with a sign. -/
def yearField (s : List Char) : Except FieldError (Int × List Char) := do
  let (y, rest) ← match Text.trimLeft s with
    | '-' :: r => (longNumber r).map fun p => (-(p.1 : Int), p.2)
    | '+' :: r => (longNumber r).map fun p => ((p.1 : Int), p.2)
    | t => (shortNumber 4 t).map fun p => ((p.1 : Int), p.2)
  if -0x80000000 ≤ y ∧ y < 0x80000000 then return (y, rest) else throw .outOfRange

/-- The character that stands between two fields. -/
def separator (c : Char) : List Char → Except FieldError (List Char)
  | [] => .error .tooShort
  | d :: rest => if d = c then .ok rest else .error .invalid

/-- The optional fraction of a second, in nanoseconds. -/
def fractionField : List Char → Except FieldError (Nat × List Char)
  | '.' :: r => do
    let ds := (r.take 9).takeWhile Char.isDigit
    let (n, rest) ← shortNumber 9 r
    return (n * Nat.pow 10 (9 - ds.length), rest.dropWhile Char.isDigit)
  | s => .ok (0, s)

/-- The numbers of a date before the calendar is asked. -/
structure DateFields where
  year : Int
  month : Nat
  day : Nat

/-- The three fields of a date. -/
def dateFields (s : List Char) : Except FieldError (DateFields × List Char) := do
  let (y, s) ← yearField s
  let s ← separator '-' s
  let (m, s) ← field 1 12 s
  let s ← separator '-' s
  let (d, s) ← field 1 31 s
  return (⟨y, m, d⟩, s)

/-- The numbers of a time of day as they are written; the second may be 60. -/
structure TimeFields where
  hour : Nat
  minute : Nat
  second : Nat
  nanos : Nat

/-- The fields of a time of day. -/
def timeFields (s : List Char) : Except FieldError (TimeFields × List Char) := do
  let (h, s) ← field 0 23 s
  let s ← separator ':' s
  let (m, s) ← field 0 59 s
  let s ← separator ':' s
  let (sec, s) ← field 0 60 s
  let (n, s) ← fractionField s
  return (⟨h, m, sec, n⟩, s)

/-- The end of the text. -/
def finished : List Char → Except FieldError Unit
  | [] => .ok ()
  | _ :: _ => .error .tooLong

/-- The date that the fields name. -/
def DateFields.resolve (f : DateFields) : Except FieldError CivilDate :=
  match CivilDate.make? f.year f.month f.day with
  | some d => .ok d
  | none => .error .outOfRange

/-- The time of day that the fields name. Second 60 is the leap second at the end of second 59. -/
def TimeFields.resolve (f : TimeFields) : Except FieldError ClockTime :=
  let made :=
    if f.second = 60 then ClockTime.make? f.hour f.minute 59 (nanosPerSecond + f.nanos)
    else ClockTime.make? f.hour f.minute f.second f.nanos
  match made with
  | some t => .ok t
  | none => .error .outOfRange

/-- Read a date. -/
def readDate (s : List Char) : Except FieldError CivilDate := do
  let (f, rest) ← dateFields s
  finished rest
  f.resolve

/-- Read a time of day. -/
def readTime (s : List Char) : Except FieldError ClockTime := do
  let (f, rest) ← timeFields s
  finished rest
  f.resolve

/-- Read a date and a time of day with a `T` between them. -/
def readDateTime (s : List Char) : Except FieldError (CivilDate × ClockTime) := do
  let (f, s) ← dateFields s
  let s ← separator 'T' s
  let (g, s) ← timeFields s
  finished s
  return (← f.resolve, ← g.resolve)

/-- The text of a year: at least four characters, a minus sign included. -/
def renderYear (y : Int) : List Char :=
  if y < 0 then '-' :: Text.paddedDigits 3 y.natAbs else Text.paddedDigits 4 y.natAbs

/-- The text of a date. -/
def renderDate (d : CivilDate) : List Char :=
  renderYear d.year ++ '-' :: Text.paddedDigits 2 d.month ++ '-' :: Text.paddedDigits 2 d.day

/-- The text of a fraction of a second: no zeros at its end, and nothing at all for zero. -/
def renderFraction (nanos : Nat) : List Char :=
  if nanos = 0 then []
  else '.' :: ((Text.paddedDigits 9 nanos).reverse.dropWhile (· == '0')).reverse

/-- The text of a time of day. -/
def renderTime (t : ClockTime) : List Char :=
  Text.paddedDigits 2 t.hour ++ ':' :: Text.paddedDigits 2 t.minute ++
    ':' :: Text.paddedDigits 2 t.second ++ renderFraction t.nanos

end Abac.Temporal
