import Abac.Temporal.Field
import Abac.Temporal.Offset

/-!
# Dates, times and instants

A date, a time of day or both together, with or without a time zone. Two values with a zone are
ordered by the instants they denote, two without by their local points, and between one with and one
without a zone there is no order. A date stands for its midnight and a time for that time on one
fixed day. When the shift to universal time leaves the calendar, the local point stands for the
instant.
-/

namespace Abac

/-- A local value with an optional time zone. -/
structure Zoned (α : Type) where
  /-- What clocks and calendars show. -/
  wall : α
  /-- The time zone, if one was given. -/
  offset : Option Temporal.Offset
  deriving DecidableEq, Repr

/-- A date with an optional time zone. -/
abbrev Date := Zoned CivilDate

/-- A time of day with an optional time zone. -/
abbrev Time := Zoned ClockTime

/-- A date and a time of day with an optional time zone. -/
abbrev DateTime := Zoned (CivilDate × ClockTime)

namespace Temporal

/-- Why a text is no date, time or instant. -/
inductive ReadError where
  | zone (e : ZoneError)
  | fields (e : FieldError)
  deriving DecidableEq, Repr

/-- The wording of a read error. -/
def ReadError.message : ReadError → String
  | .zone e => e.message
  | .fields e => e.message

/-- Read a body and an optional zone after it. -/
def readZoned {α : Type} (body : List Char → Except FieldError α) (s : List Char) :
    Except ReadError (Zoned α) :=
  match splitZone s with
  | .error e => .error (.zone e)
  | .ok (b, offset) =>
    match body b with
    | .error e => .error (.fields e)
    | .ok wall => .ok ⟨wall, offset⟩

/-- The instant of a local point, as a point of universal time. -/
def toUniversal (p : Point) (o : Offset) : Point :=
  let moved := p.move (-o.seconds)
  if moved.inCalendar then moved else p

/-- The order of two points with optional zones; `none` if only one has a zone. -/
def cmpZoned (a b : Zoned Point) : Option Ordering :=
  match a.offset, b.offset with
  | some p, some q => some ((toUniversal a.wall p).cmp (toUniversal b.wall q))
  | none, none => some (a.wall.cmp b.wall)
  | _, _ => none

end Temporal

namespace Date

/-- Read a date. -/
def read (s : List Char) : Except Temporal.ReadError Date := Temporal.readZoned Temporal.readDate s

/-- The text of a date. -/
def render (d : Date) : List Char := Temporal.renderDate d.wall ++ Temporal.renderZone d.offset

/-- The midnight at the start of a date. -/
def point (d : Date) : Zoned Point := ⟨Point.of d.wall .midnight, d.offset⟩

/-- The order of dates. -/
def cmp? (a b : Date) : Option Ordering := Temporal.cmpZoned (point a) (point b)

end Date

namespace Time

/-- Read a time of day. -/
def read (s : List Char) : Except Temporal.ReadError Time := Temporal.readZoned Temporal.readTime s

/-- The text of a time of day. -/
def render (t : Time) : List Char := Temporal.renderTime t.wall ++ Temporal.renderZone t.offset

/-- The time of day on a fixed day. -/
def point (t : Time) : Zoned Point := ⟨Point.of .epoch t.wall, t.offset⟩

/-- The order of times of day. -/
def cmp? (a b : Time) : Option Ordering := Temporal.cmpZoned (point a) (point b)

end Time

namespace DateTime

/-- Read a date with a time of day. -/
def read (s : List Char) : Except Temporal.ReadError DateTime :=
  Temporal.readZoned Temporal.readDateTime s

/-- The text of a date with a time of day. -/
def render (d : DateTime) : List Char :=
  Temporal.renderDate d.wall.1 ++ 'T' :: Temporal.renderTime d.wall.2 ++
    Temporal.renderZone d.offset

/-- The local point of a date with a time of day. -/
def point (d : DateTime) : Zoned Point := ⟨Point.of d.wall.1 d.wall.2, d.offset⟩

/-- The order of instants. -/
def cmp? (a b : DateTime) : Option Ordering := Temporal.cmpZoned (point a) (point b)

end DateTime

end Abac
