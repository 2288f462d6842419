import Abac.Pattern

/-!
# Building patterns

Patterns are built so that what is plainly the same becomes the same pattern: a set of one character
is a literal, literals one after another are one, sequences and alternatives are not nested in
themselves, and what can only match the empty text is not repeated more than once.
-/

namespace Abac.Pattern

/-! ## Lengths -/

/-- How many octets encode some characters. -/
def encodedLength : List Char → Nat
  | [] => 0
  | c :: rest => c.utf8Size + encodedLength rest

/-- How many octets encode the character with a code point. -/
def encodedSize (n : Nat) : Nat :=
  if n < 0x80 then 1 else if n < 0x800 then 2 else if n < 0x10000 then 3 else 4

/-- The least of two lengths, where both must be there. -/
def both (f : Nat → Nat → Nat) (a b : Option Nat) : Option Nat := a.bind fun m => b.map (f m)

mutual

/-- How many octets a match has at least, if there can be one. -/
def minLength : Pattern → Option Nat
  | .empty => some 0
  | .literal cs => some (encodedLength cs)
  | .set _ s => s.ranges.head?.map fun r => encodedSize r.1
  | .place _ => some 0
  | .repeated least _ _ a => a.minLength.map (least * ·)
  | .group _ a => a.minLength
  | .seq parts => minTotal parts
  | .alt choices => minOfAny choices

/-- The least number of octets of matches one after another. -/
def minTotal : List Pattern → Option Nat
  | [] => some 0
  | a :: rest => both (· + ·) a.minLength (minTotal rest)

/-- The least number of octets of a match of any pattern, if all can have one. -/
def minOfAny : List Pattern → Option Nat
  | [] => none
  | [a] => a.minLength
  | a :: rest => both min a.minLength (minOfAny rest)

end

mutual

/-- How many octets a match has at most, if there is a bound. -/
def maxLength : Pattern → Option Nat
  | .empty => some 0
  | .literal cs => some (encodedLength cs)
  | .set _ s => s.ranges.getLast?.map fun r => encodedSize r.2
  | .place _ => some 0
  | .repeated _ most _ a => both (· * ·) most a.maxLength
  | .group _ a => a.maxLength
  | .seq parts => maxTotal parts
  | .alt choices => maxOfAny choices

/-- The greatest number of octets of matches one after another. -/
def maxTotal : List Pattern → Option Nat
  | [] => some 0
  | a :: rest => both (· + ·) a.maxLength (maxTotal rest)

/-- The greatest number of octets of a match of any pattern, if all have one. -/
def maxOfAny : List Pattern → Option Nat
  | [] => none
  | [a] => a.maxLength
  | a :: rest => both max a.maxLength (maxOfAny rest)

end

/-! ## Sets and repetitions -/

/-- One character of a set. -/
def ofSet (octets : Bool) (s : CharSet) : Pattern :=
  if s.isEmpty then .set true .empty
  else
    match s.only? with
    | some c => .literal [c]
    | none => .set octets s

/-- A pattern a number of times. -/
def ofRepetition (least : Nat) (most : Option Nat) (greedy : Bool) (a : Pattern) : Pattern :=
  let (least, most) :=
    if a.maxLength = some 0 then (min least 1, some (min (most.getD 1) 1)) else (least, most)
  if most = some 0 then .empty
  else if least = 1 ∧ most = some 1 then a
  else .repeated least most greedy a

/-! ## Sequences -/

/-- The parts of a pattern as a part of a sequence. -/
def asParts : Pattern → List Pattern
  | .empty => []
  | .seq parts => parts
  | p => [p]

/-- Parts where literals one after another are one. -/
def joinLiterals : List Pattern → List Pattern
  | [] => []
  | .literal a :: rest =>
    match joinLiterals rest with
    | .literal b :: more => .literal (a ++ b) :: more
    | more => .literal a :: more
  | p :: rest => p :: joinLiterals rest

/-- Patterns one after another. -/
def ofParts (parts : List Pattern) : Pattern :=
  match joinLiterals (parts.flatMap asParts) with
  | [] => .empty
  | [p] => p
  | parts => .seq parts

/-! ## Alternatives -/

/-- The choices of a pattern as one of several choices. -/
def asChoices : Pattern → List Pattern
  | .alt choices => choices
  | p => [p]

/-- The only character of a literal. -/
def asChar? : Pattern → Option Char
  | .literal [c] => some c
  | _ => none

/-- The set that a pattern matches one character of. -/
def asSet? : Pattern → Option CharSet
  | .set _ s => some s
  | _ => none

/-- Either of some patterns. Characters become a set, and so do sets; otherwise `whole` makes the
pattern. -/
def chooseOr (whole : List Pattern → Pattern) (choices : List Pattern) : Pattern :=
  match choices.flatMap asChoices with
  | [] => .set true .empty
  | [p] => p
  | choices =>
    match choices.mapM asChar? with
    | some cs => ofSet false (.unions (cs.map .single))
    | none =>
      match choices.mapM asSet? with
      | some sets => ofSet false (.unions sets)
      | none => whole choices

mutual

/-- Whether two patterns are the same, the numbers of groups included. -/
def same : Pattern → Pattern → Bool
  | .empty, .empty => true
  | .literal a, .literal b => a == b
  | .set octets s, .set octets' t => octets == octets' && s == t
  | .place p, .place q => p == q
  | .repeated least most greedy a, .repeated least' most' greedy' b =>
    least == least' && most == most' && greedy == greedy' && same a b
  | .group i a, .group j b => i == j && same a b
  | .seq as, .seq bs => allSame as bs
  | .alt as, .alt bs => allSame as bs
  | _, _ => false

/-- Whether two lists hold the same patterns. -/
def allSame : List Pattern → List Pattern → Bool
  | [], [] => true
  | a :: as, b :: bs => same a b && allSame as bs
  | _, _ => false

end

/-- What two lists start with in common. -/
def commonStart : List Pattern → List Pattern → List Pattern
  | a :: as, b :: bs => if same a b then a :: commonStart as bs else []
  | _, _ => []

/-- The parts of a sequence. -/
def sequenceParts? : Pattern → Option (List Pattern)
  | .seq parts => some parts
  | _ => none

/-- Either of some sequences, with what all of them start with taken out. The rest is not looked
through again, because it has no common start. -/
def liftStart (choices : List Pattern) : Pattern :=
  match choices.mapM sequenceParts? with
  | some (first :: others) =>
    match others.foldl commonStart first with
    | [] => .alt choices
    | start =>
      let rests := (first :: others).map fun parts => ofParts (parts.drop start.length)
      ofParts (start ++ [chooseOr .alt rests])
  | _ => .alt choices

/-- Either of some patterns. -/
def ofChoices (choices : List Pattern) : Pattern := chooseOr liftStart choices

end Abac.Pattern
