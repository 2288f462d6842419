import Abac.Text.Octets
import Abac.Text.Numeral

/-!
# Base 64

Three octets are written as four symbols of an alphabet of sixty-four, and a last group of one or
two octets as two or three symbols filled up with padding. Only this canonical form is read: the
padding must be there, and the bits that the last symbol does not need must be zero.

All groups but the last must consist of symbols. The last one, full or not, may hold padding, and
its errors are told apart in a fixed order: a misplaced octet first, then a group that is too
short, then missing padding, then surplus bits.
-/

namespace Abac.Text.Base64

/-- Why a text is no sequence of octets. -/
inductive Error where
  /-- The octet at this offset is no symbol, or is padding in a wrong place. -/
  | invalidOctet (offset : Nat) (octet : UInt8)
  /-- The last group holds a single symbol; the number is the length up to its end. -/
  | invalidLength (length : Nat)
  /-- The last symbol has bits that no octet takes up. -/
  | invalidLastSymbol (offset : Nat) (octet : UInt8)
  /-- The last group is not filled up. -/
  | invalidPadding
  deriving DecidableEq, Repr

/-- The wording of an error. -/
def Error.message : Error → String
  | .invalidOctet offset octet =>
    "Invalid symbol " ++ String.ofList (digits octet.toNat) ++ ", offset " ++
      String.ofList (digits offset) ++ "."
  | .invalidLength length => "Invalid input length: " ++ String.ofList (digits length)
  | .invalidLastSymbol offset octet =>
    "Invalid last symbol " ++ String.ofList (digits octet.toNat) ++ ", offset " ++
      String.ofList (digits offset) ++ "."
  | .invalidPadding => "Invalid padding"

/-- The octet of the padding sign. -/
def padding : UInt8 := 0x3D

/-- The six bits that a symbol denotes. -/
def symbolValue? (octet : UInt8) : Option Nat :=
  if 0x41 ≤ octet ∧ octet ≤ 0x5A then some (octet.toNat - 0x41)
  else if 0x61 ≤ octet ∧ octet ≤ 0x7A then some (octet.toNat - 0x61 + 26)
  else if 0x30 ≤ octet ∧ octet ≤ 0x39 then some (octet.toNat - 0x30 + 52)
  else if octet = 0x2B then some 62
  else if octet = 0x2F then some 63
  else none

/-- The symbol of six bits. -/
def symbol (n : Nat) : Char :=
  if n < 26 then Char.ofNat (0x41 + n)
  else if n < 52 then Char.ofNat (0x61 + (n - 26))
  else if n < 62 then Char.ofNat (0x30 + (n - 52))
  else if n = 62 then '+' else '/'

/-- What is known of the last group while it is read from left to right. -/
structure Tail where
  /-- The values of the symbols so far. -/
  values : List Nat
  /-- The last symbol so far. -/
  last : UInt8
  /-- How many padding signs there are so far. -/
  paddings : Nat
  /-- The offset of the first padding sign. -/
  firstPadding : Nat

/-- Read the last group, which starts at offset `start` and of which `index` octets have been read.
Padding may not stand among the first two, and no symbol may follow it. -/
def readTail (start : Nat) : Nat → Tail → List UInt8 → Except Error Tail
  | _, t, [] => .ok t
  | index, t, b :: rest =>
    if b = padding then
      if index < 2 then .error (.invalidOctet (start + index) b)
      else
        let first := if t.paddings = 0 then start + index else t.firstPadding
        readTail start (index + 1) { t with paddings := t.paddings + 1, firstPadding := first } rest
    else if t.paddings > 0 then .error (.invalidOctet t.firstPadding padding)
    else
      match symbolValue? b with
      | none => .error (.invalidOctet (start + index) b)
      | some v => readTail start (index + 1) { t with values := t.values ++ [v], last := b } rest

/-- The octets of the last group's symbols and the bits that are left over. -/
def tailOctets : List Nat → List UInt8 × Nat
  | [a, b] => ([UInt8.ofNat (a * 4 + b / 16)], b % 16)
  | [a, b, c] => ([UInt8.ofNat (a * 4 + b / 16), UInt8.ofNat (b % 16 * 16 + c / 4)], c % 4)
  | [a, b, c, d] =>
    ([UInt8.ofNat (a * 4 + b / 16), UInt8.ofNat (b % 16 * 16 + c / 4),
      UInt8.ofNat (c % 4 * 64 + d)], 0)
  | _ => ([], 0)

/-- The octets of the last group, which starts at offset `start`. -/
def decodeTail (start : Nat) (group : List UInt8) : Except Error (List UInt8) := do
  let t ← readTail start 0 ⟨[], 0, 0, 0⟩ group
  if t.values.length < 2 then
    throw (.invalidLength (start + t.values.length))
  if (t.paddings + t.values.length) % 4 ≠ 0 then
    throw .invalidPadding
  let (bytes, surplus) := tailOctets t.values
  if surplus ≠ 0 then
    throw (.invalidLastSymbol (start + t.values.length - 1) t.last)
  return bytes

/-- The six bits of the octet at `offset`, which must be a symbol. -/
def symbolAt (offset : Nat) (octet : UInt8) : Except Error Nat :=
  match symbolValue? octet with
  | some v => .ok v
  | none => .error (.invalidOctet offset octet)

/-- The octets of the groups from offset `start` on. A group that others follow holds four symbols.
-/
def decodeGroups (start : Nat) : List UInt8 → Except Error (List UInt8)
  | a :: b :: c :: d :: e :: rest => do
    let w ← symbolAt start a
    let x ← symbolAt (start + 1) b
    let y ← symbolAt (start + 2) c
    let z ← symbolAt (start + 3) d
    let tail ← decodeGroups (start + 4) (e :: rest)
    return (tailOctets [w, x, y, z]).1 ++ tail
  | group => decodeTail start group

/-- The octets that a text denotes. When the text is one octet too long and that octet is neither
symbol nor padding, it is the one complained of. -/
def decode (s : List Char) : Except Error (List UInt8) :=
  let bytes := octets s
  match bytes.reverse with
  | [] => .ok []
  | last :: _ =>
    if bytes.length % 4 = 1 ∧ last ≠ padding ∧ symbolValue? last = none then
      .error (.invalidOctet (bytes.length - 1) last)
    else decodeGroups 0 bytes

/-- The text of octets. -/
def encode : List UInt8 → List Char
  | a :: b :: c :: rest =>
    symbol (a.toNat / 4) :: symbol (a.toNat % 4 * 16 + b.toNat / 16) ::
      symbol (b.toNat % 16 * 4 + c.toNat / 64) :: symbol (c.toNat % 64) :: encode rest
  | [a, b] =>
    [symbol (a.toNat / 4), symbol (a.toNat % 4 * 16 + b.toNat / 16), symbol (b.toNat % 16 * 4), '=']
  | [a] => [symbol (a.toNat / 4), symbol (a.toNat % 4 * 16), '=', '=']
  | [] => []

end Abac.Text.Base64
