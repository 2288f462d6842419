import Abac.CharSet
import Abac.Text.Cut
import Abac.Text.Numeral

/-!
# Tables of character properties

A property of characters is a table of ranges of code points, and a mapping of characters a table of
ranges with a distance. The tables are written as rows of hexadecimal numbers with blanks between
the entries: `41-5A` is a range, `AA` a single code point, `100-12E/2` every second code point of a
range, and `41-5A:32` a range that is mapped 32 code points up.
-/

namespace Abac.Unicode

/-- Every so many code points of a range. -/
structure Span where
  /-- The first code point. -/
  first : Nat
  /-- The last code point. -/
  last : Nat
  /-- The distance from one code point to the next. -/
  step : Nat

/-- A span whose code points are mapped by one distance. -/
structure Shift where
  /-- The code points that are mapped. -/
  span : Span
  /-- How far each of them is moved. -/
  distance : Int

/-- The number that hexadecimal digits denote. -/
def ofHex (s : List Char) : Nat :=
  s.foldl (fun n c => 16 * n + (if c.isDigit then c.toNat - 48 else c.toNat - 55)) 0

/-- The two ends of a range; a single code point is both. -/
def ends (s : List Char) : Nat × Nat :=
  match Text.cutFirst '-' s with
  | some (a, b) => (ofHex a, ofHex b)
  | none => (ofHex s, ofHex s)

/-- The span that an entry denotes. -/
def span (s : List Char) : Span :=
  let (range, step) := (Text.cutFirst '/' s).getD (s, ['1'])
  let (a, b) := ends range
  ⟨a, b, Text.ofDigits step⟩

/-- The code points of a span. -/
def Span.codes (s : Span) : List Nat :=
  (List.range ((s.last - s.first) / s.step + 1)).map fun i => s.first + s.step * i

/-- The ranges of a span: a single one, or one for each of its code points. -/
def Span.ranges (s : Span) : List (Nat × Nat) :=
  if s.step = 1 then [(s.first, s.last)] else s.codes.map fun n => (n, n)

/-- Whether a span has a code point. -/
def Span.contains (s : Span) (n : Nat) : Bool :=
  s.first ≤ n && n ≤ s.last && (n - s.first) % s.step == 0

/-- The entries of the rows of a table. -/
def entries (rows : List String) : List (List Char) :=
  rows.flatMap fun row => Text.pieces ' ' row.toList

/-- The set that the rows of a table list. -/
def setOf (rows : List String) : CharSet :=
  .ofRanges ((entries rows).flatMap fun e => (span e).ranges)

/-- The integer that decimal digits after an optional minus sign denote. -/
def distance : List Char → Int
  | '-' :: ds => -(Text.ofDigits ds : Int)
  | ds => Text.ofDigits ds

/-- One entry of a table of shifts. -/
def shift (s : List Char) : Shift :=
  let (range, amount) := (Text.cutFirst ':' s).getD (s, ['0'])
  ⟨span range, distance amount⟩

/-- The shifts that the rows of a table list. -/
def shifts (rows : List String) : List Shift := (entries rows).map shift

/-- A code point moved by the distance of a shift. -/
def Shift.apply (s : Shift) (n : Nat) : Nat := ((n : Int) + s.distance).toNat

/-- Where a table of shifts moves a code point. -/
def move (table : List Shift) (n : Nat) : Nat :=
  match table.find? fun s => s.span.contains n with
  | some s => s.apply n
  | none => n

/-- The code points that a shift moves to `n`. -/
def Shift.source? (s : Shift) (n : Nat) : Option Nat :=
  let m := ((n : Int) - s.distance).toNat
  if s.span.contains m then some m else none

/-- The code points that a table of shifts moves to `n`. -/
def sources (table : List Shift) (n : Nat) : List Nat := table.filterMap fun s => s.source? n

end Abac.Unicode
