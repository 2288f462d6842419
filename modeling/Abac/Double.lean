/-!
# Double-precision numbers

A double is its 64 bits: a sign, eleven bits of exponent and fifty-two of fraction. Nothing here
computes with doubles; they are read, written and ordered. The order is the total one: negative
before positive, by magnitude among equals in sign, so that the negative zero stands below the
positive one and a NaN above every number of its sign.
-/

namespace Abac

/-- A double-precision number, as its bits. -/
structure Double where
  /-- Sign, exponent and fraction, from the highest bit down. -/
  bits : UInt64
  deriving DecidableEq, Repr, Inhabited

namespace Double

/-- The positive infinity. -/
def infinity : Double := ⟨0x7FF0000000000000⟩

/-- The NaN that reading produces. -/
def nan : Double := ⟨0x7FF8000000000000⟩

/-- Whether the sign bit is set. -/
def isNegative (d : Double) : Bool := d.bits ≥ 0x8000000000000000

/-- The bits without the sign. -/
def magnitude (d : Double) : Nat := d.bits.toNat % 0x8000000000000000

/-- The same magnitude with the sign bit set. -/
def negate (d : Double) : Double := ⟨d.bits ^^^ 0x8000000000000000⟩

/-- Whether the number is not a number. -/
def isNaN (d : Double) : Bool := d.magnitude > 0x7FF0000000000000

/-- Whether the number is one of the two infinities. -/
def isInfinite (d : Double) : Bool := d.magnitude == 0x7FF0000000000000

/-- The place of a double in the total order, as an integer. -/
def orderKey (d : Double) : Int :=
  if d.isNegative then -(d.magnitude : Int) - 1 else d.magnitude

/-- The total order of doubles. -/
def cmp (a b : Double) : Ordering := compare a.orderKey b.orderKey

/-- The integer `m` and the exponent `q` with which the magnitude of a finite double is `m · 2^q`.
-/
def decode (d : Double) : Nat × Int :=
  let exponent : Nat := d.magnitude / 0x10000000000000
  let fraction : Nat := d.magnitude % 0x10000000000000
  if exponent = 0 then (fraction, -1074) else (fraction + 0x10000000000000, (exponent : Int) - 1075)

end Double

end Abac
