import Abac.CharSet

/-!
# Ranges of characters as octets

The encodings of the characters from one to another are cut into ranges such that the encodings of
each range are all combinations of ranges of octets, one for each octet of the encoding.
-/

namespace Abac.Pattern

/-- A range of octets. -/
structure OctetRange where
  first : Nat
  last : Nat
  deriving DecidableEq, Repr

/-- The octets that encode a code point. -/
def encode (n : Nat) : List Nat :=
  if n < 0x80 then [n]
  else if n < 0x800 then [0xC0 + n / 64, 0x80 + n % 64]
  else if n < 0x10000 then [0xE0 + n / 4096, 0x80 + n / 64 % 64, 0x80 + n % 64]
  else [0xF0 + n / 262144, 0x80 + n / 4096 % 64, 0x80 + n / 64 % 64, 0x80 + n % 64]

/-- Where encodings become longer. -/
def lengthStarts : List Nat := [0x80, 0x800, 0x10000]

/-- How many code points share all octets but their last one, two or three, when they take up more
than one octet. -/
def blocks : List Nat := [0x40, 0x1000, 0x40000]

/-- Where a range must be cut for the sake of blocks of a size: before the first whole block, or
after the last one. -/
def blockCut? (first last block : Nat) : Option Nat :=
  if first / block = last / block then none
  else if first % block ≠ 0 then some ((first / block + 1) * block)
  else if (last + 1) % block ≠ 0 then some (last / block * block)
  else none

/-- Where a range must be cut next: the first code point after the cut. Where encodings become
longer comes first; then the encodings all take up one octet, or none of them does. -/
def cut? (first last : Nat) : Option Nat :=
  match lengthStarts.find? fun n => first < n && n ≤ last with
  | some n => some n
  | none => if last < 0x80 then none else blocks.findSome? (blockCut? first last)

/-- A range cut as often as needed; a range needs fewer than sixteen cuts in a row. -/
def cutRange : Nat → Nat → Nat → List (Nat × Nat)
  | 0, first, last => [(first, last)]
  | fuel + 1, first, last =>
    match cut? first last with
    | some n => cutRange fuel first (n - 1) ++ cutRange fuel n last
    | none => [(first, last)]

/-- A range without the surrogates. -/
def withoutSurrogates (r : Nat × Nat) : List (Nat × Nat) :=
  if r.1 < 0xE000 ∧ 0xD7FF < r.2 then
    [(r.1, 0xD7FF), (0xE000, r.2)].filter fun s => s.1 ≤ s.2
  else [r]

/-- The ranges of octets between the encodings of two code points. -/
def octetRanges (r : Nat × Nat) : List OctetRange :=
  (encode r.1).zipWith OctetRange.mk (encode r.2)

/-- The encodings of the characters of a set, in ascending order. -/
def encodings (s : CharSet) : List (List OctetRange) :=
  ((s.ranges.flatMap withoutSurrogates).flatMap fun r => cutRange 16 r.1 r.2).map octetRanges

end Abac.Pattern
