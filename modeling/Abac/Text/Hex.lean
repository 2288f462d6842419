import Abac.Text.Octets
import Abac.Text.Numeral

/-!
# Hexadecimal octets

Every octet is written as two hexadecimal digits, in upper case. Either case is read. A text of odd
length is refused before any of its digits is looked at.
-/

namespace Abac.Text.Hex

/-- Why a text is no sequence of octets. -/
inductive Error where
  /-- The number of digits is odd. -/
  | oddLength
  /-- The octet at this position is no hexadecimal digit. -/
  | invalidDigit (octet : UInt8) (position : Nat)
  deriving DecidableEq, Repr

/-- The wording of an error. -/
def Error.message : Error → String
  | .oddLength => "Odd number of digits"
  | .invalidDigit octet position =>
    "Invalid character " ++ quoteLatin octet ++ " at position " ++ String.ofList (digits position)

/-- The value of a hexadecimal digit that stands at `position`. -/
def digitValue (octet : UInt8) (position : Nat) : Except Error UInt8 :=
  if 0x30 ≤ octet ∧ octet ≤ 0x39 then .ok (octet - 0x30)
  else if 0x41 ≤ octet ∧ octet ≤ 0x46 then .ok (octet - 0x37)
  else if 0x61 ≤ octet ∧ octet ≤ 0x66 then .ok (octet - 0x57)
  else .error (.invalidDigit octet position)

/-- The octets that pairs of digits denote, the first of which stands at `position`. -/
def decodePairs (position : Nat) : List UInt8 → Except Error (List UInt8)
  | a :: b :: rest => do
    let high ← digitValue a position
    let low ← digitValue b (position + 1)
    let tail ← decodePairs (position + 2) rest
    return (high * 16 + low) :: tail
  | _ => .ok []

/-- The octets that a text denotes. -/
def decode (s : List Char) : Except Error (List UInt8) :=
  let bytes := octets s
  if bytes.length % 2 = 1 then .error .oddLength else decodePairs 0 bytes

/-- The digit that denotes a number below sixteen. -/
def digit (n : UInt8) : Char :=
  Char.ofNat (if n < 10 then 0x30 + n.toNat else 0x37 + n.toNat)

/-- The text of octets. -/
def encode (bytes : List UInt8) : List Char :=
  bytes.flatMap fun b => [digit (b / 16), digit (b % 16)]

end Abac.Text.Hex
