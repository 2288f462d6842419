import Abac.Double
import Abac.Text.Cut
import Abac.Text.Numeral

/-!
# Reading doubles

A decimal numeral has an optional sign, digits with at most one point and at least one digit, and
an optional exponent. It denotes the double that is nearest to its value, a tie going to the even
neighbour; a value beyond the largest finite double denotes an infinity.
-/

namespace Abac.Double

/-- The quotient of two positive numbers, rounded to the nearest integer and ties to even. -/
def roundQuotient (num den : Nat) : Nat :=
  let q := num / den
  let r := num % den
  if 2 * r < den then q
  else if den < 2 * r then q + 1
  else if q % 2 = 0 then q else q + 1

/-- The greatest integer `k` with `2^k ≤ num / den`, for positive `num` and `den`. -/
def floorLog2 (num den : Nat) : Int :=
  let k : Int := (Nat.log2 num : Int) - Nat.log2 den
  let reached := if 0 ≤ k then den * Nat.pow 2 k.toNat ≤ num else den ≤ num * Nat.pow 2 (-k).toNat
  if reached then k else k - 1

/-- The double nearest to `num / den`, for positive `num` and `den`. The unit in the last place is
`2^q`; below the smallest normal number it stays at `2^-1074`. A quotient that rounds up to the
next power of two carries into the exponent by itself. -/
def ofQuotient (num den : Nat) : Double :=
  let q : Int := max (floorLog2 num den - 52) (-1074)
  let m := if 0 ≤ q then roundQuotient num (den * Nat.pow 2 q.toNat)
    else roundQuotient (num * Nat.pow 2 (-q).toNat) den
  let bits := if m < 0x10000000000000 then m
    else (q + 1075).toNat * 0x10000000000000 + (m - 0x10000000000000)
  if bits < 0x7FF0000000000000 then ⟨UInt64.ofNat bits⟩ else infinity

/-- The double nearest to `mantissa · 10^exponent`. The two bounds keep the exact quotient small:
beyond them the result is an infinity or zero whatever the digits are. -/
def ofDecimal (mantissa : Nat) (exponent : Int) : Double :=
  if mantissa = 0 then ⟨0⟩
  else
    let top := exponent + (Text.digits mantissa).length
    if top > 400 then infinity
    else if top < -400 then ⟨0⟩
    else if 0 ≤ exponent then ofQuotient (mantissa * Nat.pow 10 exponent.toNat) 1
    else ofQuotient mantissa (Nat.pow 10 (-exponent).toNat)

/-- The sign of a numeral and the text after it. -/
def readSign : List Char → Bool × List Char
  | '-' :: r => (true, r)
  | '+' :: r => (false, r)
  | s => (false, s)

/-- A signed exponent: digits after an optional sign. -/
def readExponent (s : List Char) : Option Int :=
  let (negative, ds) := readSign s
  if Text.isNumeral ds then
    let n := Text.ofDigits ds
    some (if negative then -(n : Int) else n)
  else none

/-- The digits around the point: the integer they denote together, and how many follow the point. -/
def readPlaces (s : List Char) : Option (Nat × Nat) :=
  let (whole, fraction) := (Text.cutFirst '.' s).getD (s, [])
  if Text.isNumeral (whole ++ fraction) then
    some (Text.ofDigits (whole ++ fraction), fraction.length)
  else none

/-- The parts of an unsigned numeral before and after its exponent mark. -/
def splitExponent (s : List Char) : List Char × Option (List Char) :=
  let isMark := fun c : Char => c == 'e' || c == 'E'
  match s.dropWhile fun c => !isMark c with
  | _ :: r => (s.takeWhile fun c => !isMark c, some r)
  | [] => (s, none)

/-- A decimal numeral. -/
def readDecimal (s : List Char) : Option Double :=
  let (negative, body) := readSign s
  let (places, exponentText) := splitExponent body
  match readPlaces places, exponentText.elim (some 0) readExponent with
  | some (mantissa, scale), some exponent =>
    let d := ofDecimal mantissa (exponent - scale)
    some (if negative then d.negate else d)
  | _, _ => none

/-- Why a text is no double. -/
inductive ReadError where
  /-- There is no text. -/
  | empty
  /-- A letter stands in it that is no exponent mark. -/
  | strayLetter
  /-- It is no decimal numeral. -/
  | malformed
  deriving DecidableEq, Repr

/-- The wording of a read error. -/
def ReadError.message : ReadError → String
  | .empty => "cannot parse float from empty string"
  | .strayLetter => "invalid number"
  | .malformed => "invalid float literal"

/-- Read a decimal numeral or one of the three names of the special values. -/
def read (s : List Char) : Except ReadError Double :=
  if s = ['I', 'N', 'F'] then .ok infinity
  else if s = ['-', 'I', 'N', 'F'] then .ok infinity.negate
  else if s = ['N', 'a', 'N'] then .ok nan
  else if s.any fun c => c.isAlpha && c != 'e' && c != 'E' then .error .strayLetter
  else if s = [] then .error .empty
  else
    match readDecimal s with
    | some d => .ok d
    | none => .error .malformed

end Abac.Double
