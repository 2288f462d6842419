import Abac.Double
import Abac.Text.Numeral

/-!
# Writing doubles

A finite double is written with the fewest decimal digits that no other double is nearest to, and of
several such decimals the one nearest to its exact value, the greater of two equally near ones. The
digits are always written in place, without an exponent.

The reals that round to `m · 2^q` form an interval, which holds its ends iff `m` is even. If a point
of a decimal grid lies in it, so does one of the two neighbours of the exact value on that grid.
Grids of one, two, … seventeen digits are tried in this order; the last always has a hit.
-/

namespace Abac.Double

/-- The exact value of a double and the ends of its interval, over a common denominator. -/
structure Interval where
  /-- The numerator of the lower end. -/
  low : Nat
  /-- The numerator of the exact value. -/
  value : Nat
  /-- The numerator of the upper end. -/
  high : Nat
  /-- The common denominator. -/
  den : Nat
  /-- Whether the ends belong to the interval. -/
  closed : Bool

/-- The interval of a positive finite double `m · 2^q`. Below a power of two the lower neighbour is
half as far away as the upper one, the smallest powers excepted. -/
def interval (m : Nat) (q : Int) : Interval :=
  let nearBelow := m = 0x10000000000000 ∧ q > -1074
  let low := if nearBelow then 4 * m - 1 else 4 * m - 2
  if 0 ≤ q then
    let f := Nat.pow 2 q.toNat
    ⟨low * f, 4 * m * f, (4 * m + 2) * f, 4, m % 2 = 0⟩
  else
    ⟨low, 4 * m, 4 * m + 2, 4 * Nat.pow 2 (-q).toNat, m % 2 = 0⟩

/-- Whether the decimal `n · 10^e` lies in the interval. -/
def Interval.holds (i : Interval) (n : Nat) (e : Int) : Bool :=
  let scaled := if 0 ≤ e then n * Nat.pow 10 e.toNat * i.den else n * i.den
  let f := if 0 ≤ e then 1 else Nat.pow 10 (-e).toNat
  if i.closed then i.low * f ≤ scaled && scaled ≤ i.high * f
  else i.low * f < scaled && scaled < i.high * f

/-- The two neighbours of the exact value on the grid of the multiples of `10^e`, the nearer one
first; they are the multiples by these numbers. -/
def Interval.neighbours (i : Interval) (e : Int) : Nat × Nat :=
  let num := if 0 ≤ e then i.value else i.value * Nat.pow 10 (-e).toNat
  let den := if 0 ≤ e then i.den * Nat.pow 10 e.toNat else i.den
  let n := num / den
  if 2 * (num % den) < den then (n, n + 1) else (n + 1, n)

/-- The decimal of the interval on the grid of the multiples of `10^e`, if there is one. -/
def Interval.hit? (i : Interval) (e : Int) : Option (Nat × Int) :=
  let (near, far) := i.neighbours e
  if i.holds near e then some (near, e)
  else if i.holds far e then some (far, e)
  else none

/-- The first grid with a hit, from the one of the multiples of `10^e` on to finer ones. -/
def Interval.search (i : Interval) : Nat → Int → Nat × Int
  | 0, e => (i.neighbours e |>.1, e)
  | steps + 1, e =>
    match i.hit? e with
    | some hit => hit
    | none => i.search steps (e - 1)

/-- The number of decimal digits before the point of `num / den`, less the zeros after the point if
there are none: the `k` with `10^(k-1) ≤ num / den < 10^k`. -/
def decimalPlace (num den : Nat) : Int :=
  if den ≤ num then (Text.digits (num / den)).length
  else
    let zeros := (Text.digits ((den - 1) / num)).length
    1 - (zeros : Int)

/-- The shortest decimal that reads back as the positive finite double `m · 2^q`, as the integer and
the exponent of `n · 10^e`. -/
def shortest (m : Nat) (q : Int) : Nat × Int :=
  let i := interval m q
  i.search 16 (decimalPlace i.value i.den - 1)

/-- Write `n · 10^e` in place: zeros after the digits, or a point among or before them. -/
def inPlace (n : Nat) (e : Int) : List Char :=
  let ds := Text.digits n
  if 0 ≤ e then ds ++ List.replicate e.toNat '0'
  else
    let scale := (-e).toNat
    let all := List.replicate (scale + 1 - ds.length) '0' ++ ds
    let cut := all.length - scale
    let fraction := ((all.drop cut).reverse.dropWhile (· == '0')).reverse
    if fraction.isEmpty then all.take cut else all.take cut ++ '.' :: fraction

/-- The text of a double. -/
def render (d : Double) : List Char :=
  let sign := if d.isNegative then ['-'] else []
  if d.isNaN then ['N', 'a', 'N']
  else if d.isInfinite then sign ++ ['I', 'N', 'F']
  else if d.magnitude = 0 then sign ++ ['0']
  else
    let (m, q) := d.decode
    let (n, e) := shortest m q
    sign ++ inPlace n e

end Abac.Double
