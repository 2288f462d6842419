import Abac.Pattern.Build
import Abac.Pattern.Form
import Abac.Pattern.Property
import Abac.Unicode.Folding
import Abac.Unicode.Word

/-!
# The meaning of written forms

The flags give a written form its meaning. A flag that is set in the midst of a group holds up to
the end of the group, over the bars between its choices.

With the flag `unicode` cleared, sets are sets of octets. A pattern must not match a part of a
character then, so that such a set may only hold octets that are characters by themselves: no set
can be negated.
-/

namespace Abac.Pattern

/-- What the flags say. -/
structure Mode where
  ignoreCase : Bool
  multiLine : Bool
  dotAll : Bool
  swapGreed : Bool
  unicode : Bool
  crlf : Bool

namespace Mode

/-- What the flags say at the start of a pattern. -/
def initial : Mode := ⟨false, false, false, false, true, false⟩

/-- The mode after a flag has been set or cleared. The verbose flag matters to reading only. -/
def change (m : Mode) (c : FlagChange) : Mode :=
  match c.flag with
  | .ignoreCase => { m with ignoreCase := c.on }
  | .multiLine => { m with multiLine := c.on }
  | .dotAll => { m with dotAll := c.on }
  | .swapGreed => { m with swapGreed := c.on }
  | .unicode => { m with unicode := c.on }
  | .verbose => m
  | .crlf => { m with crlf := c.on }

/-- The mode after some changes. -/
def changes (m : Mode) (cs : List FlagChange) : Mode := cs.foldl change m

end Mode

/-! ## Sets -/

/-- A set with all letters from A to Z that agree with a member without regard to case. -/
def foldAscii (s : CharSet) : CharSet :=
  let upper := (s.intersection (.range 0x61 0x7A)).ranges.map fun r => (r.1 - 32, r.2 - 32)
  let lower := (s.intersection (.range 0x41 0x5A)).ranges.map fun r => (r.1 + 32, r.2 + 32)
  s.union (.ofRanges (upper ++ lower))

/-- A set with all members that differ from its members in case only, if case is ignored. -/
def foldCase (m : Mode) (s : CharSet) : CharSet :=
  if !m.ignoreCase then s else if m.unicode then Unicode.foldCase s else foldAscii s

/-- A set or, when negated, the characters outside of it. -/
def negate (m : Mode) (negated : Bool) (s : CharSet) : Except ReadError CharSet :=
  if !negated then .ok s
  else if m.unicode then .ok s.complement
  else .error .splitsCharacters

/-- The characters of a property. -/
def propertySet (m : Mode) (negated : Bool) (name : List Char) : Except ReadError CharSet := do
  if !m.unicode then throw .splitsCharacters
  let q := Query.ofText name
  negate m (negated != q.excluded) (foldCase m (← q.set?))

/-- The word characters. -/
def wordSet (m : Mode) : CharSet :=
  if m.unicode then Unicode.wordSet
  else ⟨[(0x30, 0x39), (0x41, 0x5A), (0x5F, 0x5F), (0x61, 0x7A)]⟩

/-- The characters of a kind. -/
def Kind.set (m : Mode) : Kind → CharSet
  | .digit => if m.unicode then Unicode.Category.decimalNumber.set else .range 0x30 0x39
  | .blank =>
    if m.unicode then Unicode.Property.whiteSpace.set else ⟨[(0x09, 0x0D), (0x20, 0x20)]⟩
  | .word => wordSet m

/-- The character of a literal, if it can be a member of a set. -/
def member (m : Mode) (c : Literal) : Except ReadError Char :=
  if !m.unicode && c.char.toNat ≥ 0x80 then .error .splitsCharacters else .ok c.char

/-- The result of an operation. Both sides are folded first if case is ignored. -/
def SetOperator.apply (m : Mode) (op : SetOperator) (l r : CharSet) : CharSet :=
  let l := foldCase m l
  let r := foldCase m r
  match op with
  | .intersection => l.intersection r
  | .difference => l.difference r
  | .symmetricDifference => l.symmetricDifference r

namespace SetForm

mutual

/-- The characters of a set. -/
def chars (m : Mode) : SetForm → Except ReadError CharSet
  | .empty => .ok .empty
  | .literal c => (member m c).map .single
  | .range first last => do return .range (← member m first).toNat (← member m last).toNat
  | .named negated s => negate m negated (foldCase m s)
  | .property negated name => propertySet m negated name
  | .kind negated k => negate m negated (k.set m)
  | .brackets negated s => do negate m negated (foldCase m (← s.chars m))
  | .union members => (charsOfAll m members).map .unions
  | .operation op l r => do return op.apply m (← l.chars m) (← r.chars m)

/-- The characters of each of some sets. -/
def charsOfAll (m : Mode) : List SetForm → Except ReadError (List CharSet)
  | [] => .ok []
  | s :: rest => do return (← s.chars m) :: (← charsOfAll m rest)

end

end SetForm

/-! ## Patterns -/

/-- The characters that a dot matches. -/
def dotSet (m : Mode) : Except ReadError CharSet :=
  if !m.unicode then .error .splitsCharacters
  else if m.dotAll then .ok .all
  else if m.crlf then .ok (CharSet.complement ⟨[(0x0A, 0x0A), (0x0D, 0x0D)]⟩)
  else .ok (CharSet.single '\n').complement

/-- The pattern of a literal. -/
def Literal.toPattern (m : Mode) (c : Literal) : Except ReadError Pattern :=
  if !m.unicode && c.octet && c.char.toNat ≥ 0x80 then .error .splitsCharacters
  else .ok (ofSet (!m.unicode) (foldCase m (.single c.char)))

/-- The place that an anchor stands for. -/
def Anchor.place (m : Mode) : Anchor → Place
  | .caret => if !m.multiLine then .textStart else if m.crlf then .crlfLineStart else .lineStart
  | .dollar => if !m.multiLine then .textEnd else if m.crlf then .crlfLineEnd else .lineEnd
  | .textStart => .textStart
  | .textEnd => .textEnd
  | .boundary => .boundary (wordSet m)
  | .noBoundary => .noBoundary (wordSet m)
  | .wordStart => .wordStart (wordSet m)
  | .wordEnd => .wordEnd (wordSet m)
  | .wordStartHalf => .wordStartHalf (wordSet m)
  | .wordEndHalf => .wordEndHalf (wordSet m)

/-- The pattern of a primitive. -/
def Primitive.toPattern (m : Mode) : Primitive → Except ReadError Pattern
  | .literal c => c.toPattern m
  | .property negated name => (propertySet m negated name).map (ofSet false)
  | .kind negated k => (negate m negated (k.set m)).map (ofSet (!m.unicode))
  | .dot => (dotSet m).map (ofSet false)
  | .anchor a => .ok (.place (a.place m))

/-- A pattern in a group. -/
def ofGroup (index : Option Nat) (a : Pattern) : Pattern :=
  match index with
  | some i => .group i a
  | none => a

namespace Form

mutual

/-- The pattern that a form stands for, and the mode after it. -/
def toPattern (m : Mode) : Form → Except ReadError (Pattern × Mode)
  | .empty => .ok (.empty, m)
  | .flags cs => .ok (.empty, m.changes cs)
  | .primitive p => do return (← p.toPattern m, m)
  | .set negated s => do
    return (ofSet (!m.unicode) (← negate m negated (foldCase m (← s.chars m))), m)
  | .repeated least most greedy a => do
    let (p, after) ← a.toPattern m
    return (ofRepetition least most (greedy != after.swapGreed) p, after)
  | .group index cs a => do return (ofGroup index (← a.toPattern (m.changes cs)).1, m)
  | .seq parts => do
    let (ps, m) ← partsToPatterns m parts
    return (Pattern.ofParts ps, m)
  | .alt choices => do
    let (ps, m) ← partsToPatterns m choices
    return (Pattern.ofChoices ps, m)

/-- The patterns of some forms, each in the mode after the one before it. -/
def partsToPatterns (m : Mode) : List Form → Except ReadError (List Pattern × Mode)
  | [] => .ok ([], m)
  | a :: rest => do
    let (p, m) ← a.toPattern m
    let (ps, m) ← partsToPatterns m rest
    return (p :: ps, m)

end

end Form

end Abac.Pattern
