import Std.Data.HashMap
import Abac.Pattern.Build
import Abac.Pattern.Encoding
import Abac.Text.Octets

/-!
# The size of a pattern

A pattern may not be too large, and how large it is depends on two automata that find its matches:
one that reads a text from its start to its end and keeps the matches of groups, and one that reads
it from its end to its start. Only their sizes are computed here, state by state in the order in
which the automata are built, because two states with the same edges may become one, and whether
they do depends on the numbers of the states that the edges lead to.
-/

namespace Abac.Pattern

/-! ## Building automata -/

/-- How many octets an automaton may take up. -/
def maxSize : Nat := 10485760

/-- How much of an automaton has been built. -/
structure Built where
  /-- How many states there are; they are numbered from zero. -/
  states : Nat
  /-- How many octets the edges of the states take up. -/
  edges : Nat

/-- How many octets an automaton takes up. -/
def Built.size (b : Built) : Nat := 32 * b.states + b.edges

/-- A step in building an automaton, which fails when the automaton becomes too large. -/
abbrev Builder := StateT Built Option

/-- Let an automaton grow. -/
def grow (states edges : Nat) : Builder Unit := fun b =>
  let grown : Built := ⟨b.states + states, b.edges + edges⟩
  if grown.size ≤ maxSize then some ((), grown) else none

/-- A new state, whose edges take up some octets; the result is its number. -/
def addState (edges : Nat) : Builder Nat := do
  let b ← get
  grow 1 edges
  return b.states

/-- How many octets an edge for a range of octets takes up. -/
def rangeEdge : Nat := 8

/-- How many octets an edge that reads nothing takes up. -/
def emptyEdge : Nat := 4

/-- How a part of an automaton ends: in a fork, from which several edges lead on, or in a state with
a single edge, which takes up no room of its own. -/
inductive Ending where
  | fork
  | plain
  deriving DecidableEq, Repr

/-- Lead on from the end of a part. -/
def Ending.leadOn : Ending → Builder Unit
  | .fork => grow 0 emptyEdge
  | .plain => return ()

/-- A part of a single state, other than a fork. -/
def onlyState : Builder Ending := do
  let _ ← addState 0
  return .plain

/-! ## Remembered states -/

/-- The start of the hash that spreads states over a table. -/
def hashStart : UInt64 := 14695981039346656037

/-- The hash after one more number. -/
def hashNext (h : UInt64) (n : Nat) : UInt64 := (h ^^^ n.toUInt64) * 1099511628211

/-- An edge to a state. -/
structure Edge where
  octets : OctetRange
  target : Nat
  deriving DecidableEq

/-- The states that are remembered, by their place in a table. A state makes way for the next one
with the same place. -/
abbrev Remembered (α : Type) := Std.HashMap Nat (α × Nat)

/-- Building with remembered states. -/
abbrev Rememberer (α : Type) := StateT (Remembered α) Builder

/-- The state with a key: the remembered one, or a new one with some octets of edges. -/
def stateFor [DecidableEq α] (place : Nat) (key : α) (edges : Nat) : Rememberer α Nat := do
  match (← get)[place]? with
  | some (known, id) => if known = key then return id
  | none => pure ()
  let id ← addState edges
  modify fun table => table.insert place (key, id)
  return id

/-! ## Sets, read from the start -/

/-- The state for some edges. -/
def stateWith (edges : List Edge) : Rememberer (List Edge) Nat :=
  let hash := edges.foldl
    (fun h e => hashNext (hashNext (hashNext h e.octets.first) e.octets.last) e.target) hashStart
  stateFor (hash % 10000).toNat edges (rangeEdge * edges.length)

/-- A state that is not finished yet: its edges so far, and the octets of its last edge, which leads
to the next unfinished state. -/
structure Unfinished where
  edges : List Edge
  last : Option OctetRange

/-- The edges of a state, given where the last one leads to. -/
def Unfinished.finish (u : Unfinished) (target : Nat) : List Edge :=
  match u.last with
  | some octets => u.edges ++ [⟨octets, target⟩]
  | none => u.edges

/-- The first of some unfinished states in a row, where the last one leads to `target`; `target`
itself if there are none. -/
def finishAll (target : Nat) : List Unfinished → Rememberer (List Edge) Nat
  | [] => return target
  | u :: rest => do
    let next ← finishAll target rest
    stateWith (u.finish next)

/-- Unfinished states in a row with one more encoding. The states that it shares with the encoding
before it stay unfinished. -/
def addEncoding (target : Nat) :
    List Unfinished → List OctetRange → Rememberer (List Edge) (List Unfinished)
  | u :: rest, r :: more => do
    if u.last = some r then
      return u :: (← addEncoding target rest more)
    else
      let next ← finishAll target rest
      return ⟨u.finish next, some r⟩ :: more.map fun r => ⟨[], some r⟩
  | _, encoding => return encoding.map fun r => ⟨[], some r⟩

/-- Unfinished states in a row with some more encodings. -/
def addEncodings (target : Nat) :
    List Unfinished → List (List OctetRange) → Rememberer (List Edge) (List Unfinished)
  | us, [] => return us
  | us, e :: rest => do addEncodings target (← addEncoding target us e) rest

/-- A set of characters that is read from the first octet on: encodings that start alike share their
first states, and states with the same edges are one. -/
def forwardSet (s : CharSet) : Builder Ending := do
  let target ← addState 0
  let build : Rememberer (List Edge) Nat := do
    finishAll target (← addEncodings target [⟨[], none⟩] (encodings s))
  let _ ← build.run ∅
  return .plain

/-! ## Sets, read from the end -/

/-- The state that leads to `target` by some octets, and so on for the octets before them. -/
def backwardEncoding (target : Nat) : List OctetRange → Rememberer Edge Nat
  | [] => return target
  | r :: more => do
    let hash := hashNext (hashNext (hashNext hashStart target) r.first) r.last
    backwardEncoding (← stateFor (hash % 1000).toNat ⟨r, target⟩ 0) more

/-- The states for some encodings. -/
def backwardEncodings (target : Nat) : List (List OctetRange) → Rememberer Edge Unit
  | [] => return ()
  | e :: rest => do
    let _ ← backwardEncoding target e
    grow 0 emptyEdge
    backwardEncodings target rest

/-- A set of characters that is read from the last octet on: a fork to the last octets of all
encodings, where encodings that start alike share their states. -/
def backwardSet (s : CharSet) : Builder Ending := do
  let _ ← addState 0
  let target ← addState 0
  let _ ← (backwardEncodings target (encodings s)).run ∅
  return .plain

/-! ## Repetitions -/

/-- A part some more times after a part. -/
def more (build : Builder Ending) : Nat → Ending → Builder Ending
  | 0, last => return last
  | n + 1, last => do
    let next ← build
    last.leadOn
    more build n next

/-- A part a number of times. -/
def exactly (build : Builder Ending) : Nat → Builder Ending
  | 0 => onlyState
  | n + 1 => do more build n (← build)

/-- A part at most a number of times after a part, each time after a fork that may leave. -/
def optionally (build : Builder Ending) : Nat → Ending → Builder Unit
  | 0, last => last.leadOn
  | n + 1, last => do
    let _ ← addState 0
    let next ← build
    last.leadOn
    grow 0 (2 * emptyEdge)
    optionally build n next

/-- A part once or not at all. -/
def atMostOnce (build : Builder Ending) : Builder Ending := do
  let _ ← addState 0
  let last ← build
  let _ ← addState 0
  grow 0 (2 * emptyEdge)
  last.leadOn
  return .plain

/-- A part at least a number of times and at most some more times. -/
def between (build : Builder Ending) (least more : Nat) : Builder Ending := do
  let last ← exactly build least
  let _ ← addState 0
  optionally build more last
  return .plain

/-- A part any number of times. When it may read nothing, it stands beside a way around it. -/
def anyTimes (build : Builder Ending) (readsNothing : Bool) : Builder Ending := do
  if readsNothing then
    let last ← build
    let _ ← addState 0
    last.leadOn
    let _ ← addState 0
    let _ ← addState 0
    grow 0 (4 * emptyEdge)
    return .plain
  else
    let _ ← addState 0
    let last ← build
    grow 0 emptyEdge
    last.leadOn
    return .fork

/-- A part at least once more than a number of times: the last time in a loop. -/
def loopAfter (build : Builder Ending) (times : Nat) : Builder Ending := do
  let last ← match times with
    | 0 => build
    | n + 1 => do
      let before ← exactly build (n + 1)
      let last ← build
      before.leadOn
      pure last
  let _ ← addState 0
  last.leadOn
  grow 0 emptyEdge
  return .fork

/-- A part from `least` to `most` times, or without upper bound. -/
def repetition (build : Builder Ending) (readsNothing : Bool) (least : Nat) (most : Option Nat) :
    Builder Ending :=
  match least, most with
  | 0, some 1 => atMostOnce build
  | 0, none => anyTimes build readsNothing
  | n + 1, none => loopAfter build n
  | _, some m => if least = m then exactly build m else between build least (m - least)

/-! ## Literals as choices -/

/-- Literals cut at the empty ones. The last piece is what follows the last empty one. -/
def cutAtEmpty : List (List Nat) → List (List (List Nat))
  | [] => [[]]
  | [] :: rest => [] :: cutAtEmpty rest
  | l :: rest =>
    match cutAtEmpty rest with
    | piece :: pieces => (l :: piece) :: pieces
    | [] => [[l]]

/-- Literals without the empty ones at the start but one: an empty literal that is tried again right
away adds nothing. -/
def dropRepeatedEmpty : List (List Nat) → List (List Nat)
  | [] :: [] :: rest => dropRepeatedEmpty ([] :: rest)
  | ls => ls

/-- What follows an octet in the literals that start with it. -/
def following (octet : Nat) (ls : List (List Nat)) : List (List Nat) :=
  ls.filterMap fun l => if l.head? = some octet then some l.tail else none

/-- The octets that literals start with. -/
def firstOctets (ls : List (List Nat)) : List Nat := (ls.filterMap List.head?).eraseDups

/-- The size of several parts: their states, and the octets of their edges. -/
def totalSize (sizes : List (Nat × Nat)) : Nat × Nat :=
  sizes.foldl (fun a b => (a.1 + b.1, a.2 + b.2)) (0, 0)

/-- The size of the state that edges for some octets start from, and of an edge that leads to it.
Without octets there is no such state. -/
def pieceSize (octets : List Nat) : Nat × Nat :=
  match octets.length with
  | 0 => (0, 0)
  | 1 => (1, emptyEdge)
  | n => (1, rangeEdge * n + emptyEdge)

/-- The size of a tree of literals without its end, in states and octets of edges. An empty literal
ends the edges that may be tried before it: each piece of the edges is a state, and a fork leads to
the pieces and, between them, to the end. Where nothing follows an edge leads to the end. -/
def treeSize : Nat → List (List Nat) → Nat × Nat
  | 0, _ => (0, 0)
  | fuel + 1, ls =>
    let pieces := cutAtEmpty (dropRepeatedEmpty ls)
    let sizes := pieces.flatMap fun piece =>
      let octets := firstOctets piece
      let below := (octets.map fun o => following o piece).filter fun rest =>
        rest.any fun l => !l.isEmpty
      pieceSize octets :: below.map (treeSize fuel)
    totalSize ((1, emptyEdge * (pieces.length - 1)) :: sizes)

/-- The octets of a literal. -/
def literalOctets? : Pattern → Option (List Nat)
  | .literal cs => some ((Text.octets cs).map UInt8.toNat)
  | _ => none

/-- Literals as choices: a tree of them and its end. -/
def literalTree (ls : List (List Nat)) : Builder Ending := do
  let (states, edges) := treeSize ((ls.map List.length).foldl max 0 + 1) ls
  grow (states + 1) edges
  return .plain

/-! ## Patterns -/

/-- The way in which an automaton reads a text. -/
inductive Direction where
  | forward
  | backward
  deriving DecidableEq, Repr

/-- A set of characters as a part. -/
def setPart (d : Direction) (s : CharSet) : Builder Ending :=
  if s.isAscii then do
    let _ ← addState 0
    let _ ← addState (rangeEdge * s.ranges.length)
    return .plain
  else
    match d with
    | .forward => forwardSet s
    | .backward => backwardSet s

/-- Some more parts after a part. -/
def thenAll (last : Ending) : List (Builder Ending) → Builder Ending
  | [] => return last
  | build :: rest => do
    let next ← build
    last.leadOn
    thenAll next rest

/-- Parts one after another. -/
def inRow : List (Builder Ending) → Builder Ending
  | [] => onlyState
  | build :: rest => do thenAll (← build) rest

/-- Further choices after the first two: an edge from the fork to each and one to the end. -/
def furtherChoices : List (Builder Ending) → Builder Unit
  | [] => return ()
  | build :: rest => do
    let last ← build
    grow 0 emptyEdge
    last.leadOn
    furtherChoices rest

/-- Parts as choices. -/
def choices : List (Builder Ending) → Builder Ending
  | [] => onlyState
  | [build] => build
  | first :: second :: rest => do
    let a ← first
    let b ← second
    let _ ← addState 0
    let _ ← addState 0
    grow 0 (2 * emptyEdge)
    a.leadOn
    b.leadOn
    furtherChoices rest
    return .plain

mutual

/-- A pattern as a part of an automaton. -/
def part (d : Direction) : Pattern → Builder Ending
  | .empty => onlyState
  | .literal cs => do
    grow (encodedLength cs) 0
    return .plain
  | .set _ s => setPart d s
  | .place _ => onlyState
  | .repeated least most _ a =>
    repetition (a.part d) (decide (a.minLength.getD 0 = 0)) least most
  | .group _ a =>
    match d with
    | .forward => do
      let _ ← addState 0
      let last ← a.part d
      let _ ← addState 0
      last.leadOn
      return .plain
    | .backward => a.part d
  | .seq ps =>
    match d with
    | .forward => inRow (partsOf d ps)
    | .backward => inRow (partsOf d ps).reverse
  | .alt ps =>
    match ps.mapM literalOctets? with
    | some ls =>
      match d with
      | .forward => literalTree ls
      | .backward => literalTree (ls.map List.reverse)
    | none => choices (partsOf d ps)

/-- Patterns as parts of an automaton. -/
def partsOf (d : Direction) : List Pattern → List (Builder Ending)
  | [] => []
  | a :: rest => a.part d :: partsOf d rest

end

/-! ## Whole automata -/

/-- Any octet. -/
def anyOctet : Builder Ending := do
  let _ ← addState 0
  let _ ← addState rangeEdge
  return .plain

/-- An automaton for a pattern. It passes over any octets first unless a match must start where it
starts to read; the whole match is kept as that of a group is. -/
def automaton (d : Direction) (anchored : Bool) (a : Pattern) : Builder Unit := do
  let start ← if anchored then onlyState else anyTimes anyOctet false
  let last ← (group 0 a).part d
  let _ ← addState 0
  last.leadOn
  start.leadOn

/-- Whether a sequence must start at the place, given of each part whether it must and whether it
only ever matches the empty text: a part must, and those before it match the empty text. -/
def anyMustStart : List (Bool × Bool) → Bool
  | [] => false
  | (must, isEmpty) :: rest => must || (isEmpty && anyMustStart rest)

mutual

/-- Whether a match must start (or, backward, end) at a place with a condition `p`. -/
def mustStart (d : Direction) (p : Place) : Pattern → Bool
  | .place q => q == p
  | .repeated least _ _ a => decide (0 < least) && a.mustStart d p
  | .group _ a => a.mustStart d p
  | .seq parts =>
    match d with
    | .forward => anyMustStart (startsOf d p parts)
    | .backward => anyMustStart (startsOf d p parts).reverse
  | .alt choices => (startsOf d p choices).all Prod.fst
  | _ => false

/-- For each of some patterns, whether its match must start at the place, and whether it only ever
matches the empty text. -/
def startsOf (d : Direction) (p : Place) : List Pattern → List (Bool × Bool)
  | [] => []
  | a :: rest => (a.mustStart d p, a.maxLength == some 0) :: startsOf d p rest

end

/-- Whether the automaton for a pattern in both directions is small enough. -/
def isSmall (a : Pattern) : Bool :=
  ((automaton .forward (a.mustStart .forward .textStart) a).run ⟨0, 0⟩).isSome &&
    ((automaton .backward (a.mustStart .backward .textEnd) a).run ⟨0, 0⟩).isSome

end Abac.Pattern
