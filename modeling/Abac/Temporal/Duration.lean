import Abac.Text.Cut
import Abac.Text.Numeral
import Abac.Temporal.Field
import Abac.Word

/-!
# Durations

A duration is written as numbers with designators after them. Days, hours, minutes and seconds make
up one type of duration and years with months the other; they are kept as they are written, not
reduced to one unit. A duration of nothing has no sign.

A text is first cut into numbers and designators. A number is made of digits and points; whether it
is one number is asked when its designator is known.
-/

namespace Abac

namespace Temporal

/-- Why a text is no duration. -/
inductive DurationError where
  | missingStart
  | emptyTimePart
  /-- A designator that the part before the `T` does not have. -/
  | unexpectedInDatePart
  /-- A designator that the part after the `T` does not have. -/
  | unexpectedInTimePart
  /-- A designator other than those of years and months. -/
  | unexpectedDesignator
  | outOfOrder
  | noComponents
  | missingNumber (designator : Char)
  | unexpectedCharacter (c : Char)
  | missingDesignator
  | invalidNumber (text : List Char)
  | invalidFraction (text : List Char)
  deriving DecidableEq, Repr

/-- The wording of a duration error. -/
def DurationError.message : DurationError → String
  | .missingStart => "missing 'P' designator"
  | .emptyTimePart => "empty time part"
  | .unexpectedInDatePart => "unexpected designator in date part"
  | .unexpectedInTimePart => "unexpected designator in time part"
  | .unexpectedDesignator => "unexpected designator"
  | .outOfOrder => "components out of order"
  | .noComponents => "no components"
  | .missingNumber d => "designator '" ++ String.singleton d ++ "' without a number"
  | .unexpectedCharacter c => "unexpected character '" ++ String.singleton c ++ "'"
  | .missingDesignator => "trailing number without designator"
  | .invalidNumber text => "invalid number \"" ++ String.ofList text ++ "\""
  | .invalidFraction text => "invalid fractional seconds \"" ++ String.ofList text ++ "\""

/-- A number and the designator after it. -/
structure Component where
  number : List Char
  designator : Char
  deriving DecidableEq, Repr

/-- Cut a text into components. `number` is what has been read since the last designator. -/
def componentsFrom (number : List Char) : List Char → Except DurationError (List Component)
  | [] => if number.isEmpty then .ok [] else .error .missingDesignator
  | c :: rest =>
    if c.isAlpha then
      if number.isEmpty then .error (.missingNumber c)
      else (componentsFrom [] rest).map (⟨number, c⟩ :: ·)
    else if c.isDigit || c == '.' then componentsFrom (number ++ [c]) rest
    else .error (.unexpectedCharacter c)

/-- The components of a text. -/
def components (s : List Char) : Except DurationError (List Component) := componentsFrom [] s

/-- A whole number below 2^64. -/
def wholeNumber (s : List Char) : Except DurationError UInt64 :=
  match Text.readBounded 0xFFFFFFFFFFFFFFFF s with
  | some n => .ok (UInt64.ofNat n)
  | none => .error (.invalidNumber s)

/-- Seconds with an optional fraction of one to nine digits, in whole seconds and nanoseconds. -/
def secondsNumber (s : List Char) : Except DurationError (UInt64 × Nat) :=
  match Text.cutFirst '.' s with
  | none => (wholeNumber s).map fun n => (n, 0)
  | some (whole, fraction) =>
    if Text.isNumeral fraction && fraction.length ≤ 9 then
      (wholeNumber whole).map fun n =>
        (n, Text.ofDigits fraction * Nat.pow 10 (9 - fraction.length))
    else .error (.invalidFraction s)

/-- The sign of a duration and the text after it. -/
def splitMinus : List Char → Bool × List Char
  | '-' :: r => (true, r)
  | s => (false, s)

end Temporal

/-- Whether whole seconds, rounded down, and the nanoseconds beyond them make a span: one of at most
2^63 - 1 milliseconds in either direction. -/
def isSpan (seconds : Int64) (nanos : Nat) : Bool :=
  nanos < nanosPerSecond && -9223372036854776 ≤ seconds && seconds ≤ 9223372036854775 &&
    (seconds != -9223372036854776 || 193000000 ≤ nanos) &&
    (seconds != 9223372036854775 || nanos ≤ 807000000)

/-- The number of nanoseconds of the longest span. -/
def longestSpan : Nat := 0x7FFFFFFFFFFFFFFF * 1000000

theorem isSpan_iff {seconds : Int64} {nanos : Nat} :
    isSpan seconds nanos = true ↔ nanos < nanosPerSecond ∧
      -(longestSpan : Int) ≤ seconds.toInt * nanosPerSecond + nanos ∧
      seconds.toInt * nanosPerSecond + nanos ≤ longestSpan := by
  have hlow : (-9223372036854776 : Int64).toInt = -9223372036854776 := by decide
  have hhigh : (9223372036854775 : Int64).toInt = 9223372036854775 := by decide
  simp only [isSpan, Bool.and_eq_true, Bool.or_eq_true, decide_eq_true_eq, bne_iff_ne, ne_eq,
    ← Int64.toInt_inj, Int64.le_iff_toInt_le, hlow, hhigh]
  simp only [nanosPerSecond, longestSpan]
  omega

/-- A span of time, forward or back. -/
structure Span where
  /-- The whole seconds, rounded down. -/
  seconds : Int64
  /-- The nanoseconds beyond the whole seconds. -/
  nanos : Nat
  /-- The span is not too long. -/
  valid : isSpan seconds nanos = true
  deriving DecidableEq, Repr

namespace Span

/-- The span of whole seconds and nanoseconds, if there is one. -/
def make? (seconds : Int64) (nanos : Nat) : Option Span :=
  if h : isSpan seconds nanos = true then some ⟨seconds, nanos, h⟩ else none

/-- The number of nanoseconds of a span, below zero if it goes back. -/
def nanoseconds (s : Span) : Int := s.seconds.toInt * nanosPerSecond + s.nanos

/-- The whole seconds, rounded down, of the span in the other direction. -/
def oppositeSeconds (s : Span) : Int64 := if s.nanos = 0 then -s.seconds else -s.seconds - 1

/-- The nanoseconds beyond them. -/
def oppositeNanos (s : Span) : Nat := if s.nanos = 0 then 0 else nanosPerSecond - s.nanos

theorem nanoseconds_opposite (s : Span) :
    s.oppositeSeconds.toInt * nanosPerSecond + s.oppositeNanos = -s.nanoseconds := by
  obtain ⟨hn, hlow, hhigh⟩ := isSpan_iff.mp s.valid
  have hone : (1 : Int64).toInt = 1 := by decide
  have hneg : (-s.seconds).toInt = -s.seconds.toInt := by
    rw [Int64.toInt_neg]
    simp only [nanosPerSecond, longestSpan] at hn hlow hhigh
    exact Int.bmod_eq_of_le_mul_two (by omega) (by omega)
  unfold oppositeSeconds oppositeNanos nanoseconds
  split
  · rename_i h
    rw [hneg, h]
    simp only [nanosPerSecond]
    omega
  · have hsub : (-s.seconds - 1).toInt = -s.seconds.toInt - 1 := by
      rw [Int64.toInt_sub, hneg, hone]
      simp only [nanosPerSecond, longestSpan] at hn hlow hhigh
      exact Int.bmod_eq_of_le_mul_two (by omega) (by omega)
    rw [hsub]
    simp only [nanosPerSecond] at hn ⊢
    omega

theorem oppositeNanos_lt (s : Span) : s.oppositeNanos < nanosPerSecond := by
  unfold oppositeNanos nanosPerSecond
  split <;> omega

/-- The span in the other direction. -/
def negate (s : Span) : Span where
  seconds := s.oppositeSeconds
  nanos := s.oppositeNanos
  valid := by
    obtain ⟨-, hlow, hhigh⟩ := isSpan_iff.mp s.valid
    have hopposite := s.nanoseconds_opposite
    unfold nanoseconds at hopposite
    exact isSpan_iff.mpr ⟨s.oppositeNanos_lt, by omega, by omega⟩

/-- The whole seconds of a span, rounded toward zero. -/
def wholeSeconds (s : Span) : Int := s.nanoseconds.tdiv nanosPerSecond

/-- The nanoseconds of a span beyond its whole seconds, with the sign of the span. -/
def subsecondNanos (s : Span) : Int := s.nanoseconds.tmod nanosPerSecond

end Span

/-- A duration in days, hours, minutes and seconds. -/
structure DayTimeDuration where
  negative : Bool
  days : UInt64
  hours : UInt64
  minutes : UInt64
  seconds : UInt64
  /-- The fraction of a second, in nanoseconds. -/
  nanos : Nat
  deriving DecidableEq, Repr

namespace DayTimeDuration

open Temporal

/-- The duration of nothing. -/
def zero : DayTimeDuration := ⟨false, 0, 0, 0, 0, 0⟩

/-- Whether every component is zero. -/
def isZero (d : DayTimeDuration) : Bool :=
  d.days == 0 && d.hours == 0 && d.minutes == 0 && d.seconds == 0 && d.nanos == 0

/-- Take the components before the `T` into a duration. Only days may stand there. -/
def readDatePart (d : DayTimeDuration) : List Component → Except DurationError DayTimeDuration
  | [] => .ok d
  | c :: rest => do
    if c.designator = 'D' then
      readDatePart { d with days := ← wholeNumber c.number } rest
    else throw .unexpectedInDatePart

/-- The place of a designator after the `T` in the order in which they must stand. -/
def timeRank? : Char → Option Nat
  | 'H' => some 1
  | 'M' => some 2
  | 'S' => some 3
  | _ => none

/-- Take one component after the `T` into a duration. -/
def readTimeComponent (d : DayTimeDuration) (c : Component) :
    Except DurationError DayTimeDuration := do
  if c.designator = 'H' then return { d with hours := ← wholeNumber c.number }
  else if c.designator = 'M' then return { d with minutes := ← wholeNumber c.number }
  else
    let (whole, nanos) ← secondsNumber c.number
    return { d with seconds := whole, nanos := nanos }

/-- Take the components after the `T` into a duration; each must rank above `rank`. -/
def readTimePart (rank : Nat) (d : DayTimeDuration) :
    List Component → Except DurationError DayTimeDuration
  | [] => .ok d
  | c :: rest =>
    match timeRank? c.designator with
    | none => .error .unexpectedInTimePart
    | some r =>
      if r ≤ rank then .error .outOfOrder
      else
        match readTimeComponent d c with
        | .error e => .error e
        | .ok d => readTimePart r d rest

/-- The components of the part after the `T`; there are none without a `T`. -/
def timeComponents : Option (List Char) → Except DurationError (List Component)
  | none => .ok []
  | some s => components s

/-- Read `[-]P[nD][T[nH][nM][n[.f]S]]`. -/
def read (s : List Char) : Except DurationError DayTimeDuration := do
  let (negative, s) := splitMinus s
  let some body := Text.dropHead? 'P' s | throw .missingStart
  let (datePart, timePart) := match Text.cutFirst 'T' body with
    | some (a, b) => (a, some b)
    | none => (body, none)
  if timePart = some [] then throw .emptyTimePart
  let dateComponents ← components datePart
  let d ← readDatePart { zero with negative := negative } dateComponents
  let clockComponents ← timeComponents timePart
  let d ← readTimePart 0 d clockComponents
  if dateComponents.isEmpty && clockComponents.isEmpty then throw .noComponents
  return if d.isZero then { d with negative := false } else d

/-- A number with its designator; nothing for zero. -/
def renderComponent (n : UInt64) (designator : Char) : List Char :=
  if n = 0 then [] else Text.digits n.toNat ++ [designator]

/-- The text of the seconds; nothing for zero. -/
def renderSeconds (d : DayTimeDuration) : List Char :=
  if d.seconds = 0 ∧ d.nanos = 0 then []
  else Text.digits d.seconds.toNat ++ renderFraction d.nanos ++ ['S']

/-- The text of a duration: the components that are not zero. -/
def render (d : DayTimeDuration) : List Char :=
  if d.isZero then ['P', 'T', '0', 'S']
  else
    let clock := renderComponent d.hours 'H' ++ renderComponent d.minutes 'M' ++ d.renderSeconds
    (if d.negative then ['-'] else []) ++ 'P' :: renderComponent d.days 'D' ++
      (if clock.isEmpty then [] else 'T' :: clock)

/-- The whole seconds of a duration, if they are a word. -/
def wholeSeconds? (d : DayTimeDuration) : Option UInt64 := do
  let days ← Word.mul? d.days 86400
  let hours ← Word.mul? d.hours 3600
  let sum ← Word.add? days hours
  let minutes ← Word.mul? d.minutes 60
  let sum ← Word.add? sum minutes
  Word.add? sum d.seconds

/-- The span of a duration, if it is not too long. -/
def toSpan? (d : DayTimeDuration) : Option Span := do
  let seconds ← Word.signed? (← d.wholeSeconds?)
  let span ← Span.make? seconds d.nanos
  return if d.negative then span.negate else span

end DayTimeDuration

/-- A duration in years and months. -/
structure YearMonthDuration where
  negative : Bool
  years : UInt64
  months : UInt64
  deriving DecidableEq, Repr

namespace YearMonthDuration

open Temporal

/-- The duration of nothing. -/
def zero : YearMonthDuration := ⟨false, 0, 0⟩

/-- Whether both components are zero. -/
def isZero (d : YearMonthDuration) : Bool := d.years == 0 && d.months == 0

/-- The place of a designator in the order in which they must stand. -/
def rank? : Char → Option Nat
  | 'Y' => some 1
  | 'M' => some 2
  | _ => none

/-- Take components into a duration; each must rank above `rank`. -/
def readComponents (rank : Nat) (d : YearMonthDuration) :
    List Component → Except DurationError YearMonthDuration
  | [] => .ok d
  | c :: rest =>
    match rank? c.designator with
    | none => .error .unexpectedDesignator
    | some r =>
      if r ≤ rank then .error .outOfOrder
      else
        match wholeNumber c.number with
        | .error e => .error e
        | .ok n =>
          readComponents r (if c.designator = 'Y' then { d with years := n }
            else { d with months := n }) rest

/-- Read `[-]P[nY][nM]`. -/
def read (s : List Char) : Except DurationError YearMonthDuration := do
  let (negative, s) := splitMinus s
  let some body := Text.dropHead? 'P' s | throw .missingStart
  let parts ← components body
  let d ← readComponents 0 { zero with negative := negative } parts
  if parts.isEmpty then throw .noComponents
  return if d.isZero then { d with negative := false } else d

/-- The text of a duration: the components that are not zero. -/
def render (d : YearMonthDuration) : List Char :=
  if d.isZero then ['P', '0', 'M']
  else
    (if d.negative then ['-'] else []) ++ 'P' :: DayTimeDuration.renderComponent d.years 'Y' ++
      DayTimeDuration.renderComponent d.months 'M'

end YearMonthDuration

end Abac
