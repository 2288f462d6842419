import Abac.Text.Numeral

/-!
# Time zone offsets

A text may end in a time zone: a `Z`, or a sign, two characters of hours, a colon and two characters
of minutes. What stands before it is the body. The offset is at most fourteen hours. The six
characters are recognised by their place at the end, counted in UTF-8 octets, before their digits
are read; each of the two numbers is read like any integer and may carry a sign of its own.
-/

namespace Abac.Temporal

/-- How far local time is ahead of universal time. -/
structure Offset where
  /-- Minutes east of the zero meridian. -/
  minutes : Int
  deriving DecidableEq, Repr, Hashable

namespace Offset

/-- Universal time. -/
def utc : Offset := ⟨0⟩

/-- The offset in seconds. -/
def seconds (o : Offset) : Int := o.minutes * 60

end Offset

/-- Why the end of a text is no time zone although it looks like one. -/
inductive ZoneError where
  | invalidHours
  | invalidMinutes
  | outOfRange
  deriving DecidableEq, Repr

/-- The wording of a zone error. -/
def ZoneError.message : ZoneError → String
  | .invalidHours => "invalid timezone hours"
  | .invalidMinutes => "invalid timezone minutes"
  | .outOfRange => "timezone out of range"

/-- The largest offset, in minutes. -/
def maxOffset : Int := 840

/-- The characters at the start of a text that take up exactly `n` octets, and the rest. -/
def takeOctets : Nat → List Char → Option (List Char × List Char)
  | 0, s => some ([], s)
  | _ + 1, [] => none
  | n + 1, c :: r =>
    if c.utf8Size ≤ n + 1 then (takeOctets (n + 1 - c.utf8Size) r).map fun p => (c :: p.1, p.2)
    else none
termination_by structural _ s => s

/-- A text cut before a numeric zone at its end. -/
structure ZoneCut where
  body : List Char
  /-- Whether the sign is a minus. -/
  west : Bool
  hours : List Char
  minutes : List Char

/-- Cut a text before its last six octets if they look like a numeric zone and something stands
before them. -/
def cutZone? (s : List Char) : Option ZoneCut :=
  match takeOctets 2 s.reverse with
  | some (m, ':' :: r) =>
    match takeOctets 2 r with
    | some (h, sign :: before) =>
      if (sign = '+' ∨ sign = '-') ∧ before ≠ [] then
        some ⟨before.reverse, sign = '-', h.reverse, m.reverse⟩
      else none
    | _ => none
  | _ => none

/-- A 32-bit integer. -/
def zoneNumber? (s : List Char) : Option Int := (Text.readSigned 0x80000000 0x7FFFFFFF s).toOption

/-- The offset that the parts of a zone denote. -/
def ZoneCut.offset (z : ZoneCut) : Except ZoneError Offset :=
  match zoneNumber? z.hours with
  | none => .error .invalidHours
  | some h =>
    match zoneNumber? z.minutes with
    | none => .error .invalidMinutes
    | some m =>
      let total := h * 60 + m
      if m ≥ 60 ∨ total > maxOffset then .error .outOfRange
      else .ok ⟨if z.west then -total else total⟩

/-- The body of a text and its time zone, if it has one. -/
def splitZone (s : List Char) : Except ZoneError (List Char × Option Offset) :=
  if s.getLast? = some 'Z' then .ok (s.dropLast, some .utc)
  else
    match cutZone? s with
    | some z => z.offset.map fun o => (z.body, some o)
    | none => .ok (s, none)

/-- The text of a time zone; nothing if there is none. -/
def renderZone : Option Offset → List Char
  | none => []
  | some o =>
    if o.minutes = 0 then ['Z']
    else
      (if o.minutes < 0 then '-' else '+') :: Text.paddedDigits 2 (o.minutes.natAbs / 60) ++
        ':' :: Text.paddedDigits 2 (o.minutes.natAbs % 60)

end Abac.Temporal
