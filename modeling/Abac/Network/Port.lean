import Abac.Text.Cut
import Abac.Text.Numeral

/-!
# Port ranges

A port range is one port, or two bounds with a hyphen between them either of which may be left out.
-/

namespace Abac

/-- A range of ports; an absent bound does not bound. -/
structure PortRange where
  low : Option UInt16
  high : Option UInt16
  deriving DecidableEq, Repr

namespace PortRange

/-- Why a text is no port range. -/
inductive ReadError where
  | invalidPort (text : List Char)
  | empty
  | inverted (text : List Char)
  deriving DecidableEq, Repr

/-- The wording of a read error. -/
def ReadError.message : ReadError → String
  | .invalidPort text => "invalid port \"" ++ String.ofList text ++ "\""
  | .empty => "empty port range"
  | .inverted text => "inverted port range \"" ++ String.ofList text ++ "\""

/-- Read a bound; an empty text is no bound. A plus sign may stand before its digits. -/
def readBound (s : List Char) : Except ReadError (Option UInt16) :=
  if s.isEmpty then .ok none
  else
    match Text.readUnsigned 65535 s with
    | some n => .ok (some (UInt16.ofNat n))
    | none => .error (.invalidPort s)

/-- Whether the bounds of a range are in order. -/
def isOrdered (r : PortRange) : Bool :=
  match r.low, r.high with
  | some l, some h => l ≤ h
  | _, _ => true

/-- The bounds of a port range, which may be out of order. -/
def readBounds (s : List Char) : Except ReadError PortRange :=
  match Text.cutFirst '-' s with
  | none => do
    match ← readBound s with
    | none => throw .empty
    | some p => return ⟨some p, some p⟩
  | some (l, h) => do
    let low ← readBound l
    let high ← readBound h
    return ⟨low, high⟩

/-- Read a port range. -/
def read (s : List Char) : Except ReadError PortRange := do
  let range ← readBounds s
  if range.isOrdered then return range else throw (.inverted s)

/-- Whether a port lies in a range. -/
def contains (r : PortRange) (p : UInt16) : Bool :=
  r.low.all (fun l => l ≤ p) && r.high.all (fun h => p ≤ h)

/-- The decimal digits of a port. -/
def portDigits (p : UInt16) : List Char := Text.digits p.toNat

/-- The text of a port range. -/
def render (r : PortRange) : List Char :=
  match r.low, r.high with
  | some l, some h => if l = h then portDigits l else portDigits l ++ '-' :: portDigits h
  | some l, none => portDigits l ++ ['-']
  | none, some h => '-' :: portDigits h
  | none, none => ['-']

/-- The text of an optional port range after a name or an address. -/
def renderSuffix : Option PortRange → List Char
  | none => []
  | some r => ':' :: r.render

end PortRange

end Abac
