import Abac.Pattern

/-!
# Searching a text for a pattern

A set of places of a text is a number whose bits are the places. A pattern takes the set of places
where a match may start to the set of places where such a match ends: a character moves those places
by one at which it stands, an empty match keeps those at which it holds, and a repetition collects
the places of all its rounds. The pattern matches somewhere if any place is left of all places.
-/

namespace Abac.Pattern

/-- The set of the places of a text at which a property holds, which sees the character before the
place and the text after it. -/
def placesFrom (p : Option Char → List Char → Bool) (before : Option Char) (bit : Nat) :
    List Char → Nat
  | [] => if p before [] then bit else 0
  | c :: rest =>
    (if p before (c :: rest) then bit else 0) + placesFrom p (some c) (2 * bit) rest

/-- The set of the places of a text at which a property holds. -/
def places (p : Option Char → List Char → Bool) (text : List Char) : Nat :=
  placesFrom p none 1 text

/-- Apply `step` a number of times, stopping early when nothing is left or nothing changes. -/
def iterate (step : Nat → Nat) : Nat → Nat → Nat
  | 0, s => s
  | n + 1, s =>
    if s = 0 then 0
    else
      let next := step s
      if next = s then s else iterate step n next

/-- The places reached after at most a number of further steps. -/
def collect (step : Nat → Nat) : Nat → Nat → Nat
  | 0, s => s
  | n + 1, s =>
    let more := s ||| step s
    if more = s then s else collect step n more

/-- The places that a match leads to, given the places where it may start. What it needs to know of
the text is worked out once. -/
structure Move where
  apply : Nat → Nat

namespace Move

/-- The places after a character of a set. -/
def set (text : List Char) (chars : CharSet) : Move :=
  let here := places (fun _ after => after.head?.any fun c => chars.contains c.toNat) text
  ⟨fun s => 2 * (s &&& here)⟩

/-- The places after a literal. -/
def literal (text : List Char) (cs : List Char) : Move :=
  let here := places (fun _ after => cs.isPrefixOf after) text
  ⟨fun s => (s &&& here) <<< cs.length⟩

/-- The places where a condition holds. -/
def place (text : List Char) (p : Place) : Move :=
  let here := places (fun before after => p.holds before after.head?) text
  ⟨fun s => s &&& here⟩

/-- A move from `least` to `most` times, or without upper bound. There are no more than `length`
further steps before nothing is added. -/
def repeated (length least : Nat) (most : Option Nat) (m : Move) : Move :=
  let rounds :=
    match most with
    | none => length + 1
    | some most => min (most - least) (length + 1)
  ⟨fun s => collect m.apply rounds (iterate m.apply least s)⟩

/-- Moves one after another. -/
def sequence (ms : List Move) : Move := ⟨fun s => ms.foldl (fun s m => m.apply s) s⟩

/-- Either of some moves. -/
def either (ms : List Move) : Move := ⟨fun s => ms.foldl (fun t m => t ||| m.apply s) 0⟩

end Move

mutual

/-- The places where matches end, by the places where they start. -/
def move (text : List Char) : Pattern → Move
  | .empty => ⟨id⟩
  | .literal cs => .literal text cs
  | .set _ chars => .set text chars
  | .place p => .place text p
  | .repeated least most _ a => (a.move text).repeated text.length least most
  | .group _ a => a.move text
  | .seq parts => .sequence (moves text parts)
  | .alt choices => .either (moves text choices)

/-- The moves of some patterns. -/
def moves (text : List Char) : List Pattern → List Move
  | [] => []
  | a :: rest => a.move text :: moves text rest

end

/-- Whether a pattern matches anywhere in a text. -/
def occursIn (p : Pattern) (text : List Char) : Bool :=
  (p.move text).apply (Nat.pow 2 (text.length + 1) - 1) != 0

end Abac.Pattern
