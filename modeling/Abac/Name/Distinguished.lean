import Abac.Text.Blank
import Abac.Text.Cut
import Abac.Unicode.Case

/-!
# Distinguished names

A distinguished name is a sequence of relative names with commas between them, the most significant
one last. A relative name is one or more pairs of a type and a value with plus signs between them. A
separator after a backslash does not separate.

Names are compared by a normal form: types and values lose the blanks around them and their case,
and the pairs of a relative name are sorted, so that their order does not matter. The text is kept
as it was given.
-/

namespace Abac

/-- A distinguished name. -/
structure DistinguishedName where
  /-- The name as it was given. -/
  text : List Char
  /-- The normal forms of the relative names, in their order. -/
  relativeNames : List (List Char)
  deriving Repr

namespace DistinguishedName

/-- Why a text is no distinguished name. -/
inductive ReadError where
  /-- A pair has no equals sign. -/
  | missingEquals
  /-- A pair has no type. -/
  | emptyType
  /-- There is no relative name. -/
  | emptyName
  deriving DecidableEq, Repr

/-- The wording of a read error. -/
def ReadError.message : ReadError → String
  | .missingEquals => "RDN without '='"
  | .emptyType => "empty attribute type"
  | .emptyName => "empty name"

/-- The pieces between separators that no backslash protects, the last one included. `escaped` says
whether the character before was a protecting backslash. -/
def unescapedPieces (sep : Char) (escaped : Bool) : List Char → List (List Char)
  | [] => [[]]
  | c :: rest =>
    if escaped then Text.growFirst c (unescapedPieces sep false rest)
    else if c = '\\' then Text.growFirst c (unescapedPieces sep true rest)
    else if c = sep then [] :: unescapedPieces sep false rest
    else Text.growFirst c (unescapedPieces sep false rest)

/-- The pieces of a text. A single piece of blanks is no piece at all. -/
def splitUnescaped (sep : Char) (s : List Char) : List (List Char) :=
  match unescapedPieces sep false s with
  | [only] => if (Text.trim only).isEmpty then [] else [only]
  | parts => parts

/-- A type and its value, in normal form. -/
structure Pair where
  type : List Char
  value : List Char
  deriving DecidableEq, Repr

/-- Read a pair. -/
def readPair (s : List Char) : Except ReadError Pair :=
  match Text.cutFirst '=' s with
  | none => .error .missingEquals
  | some (t, v) =>
    let type := Text.trim t
    if type.isEmpty then .error .emptyType
    else .ok ⟨Unicode.lowerAscii type, Unicode.lower (Text.trim v)⟩

/-- The text of a pair. -/
def Pair.render (p : Pair) : List Char := p.type ++ '=' :: p.value

/-- The order of texts by code point. -/
def textLe (a b : List Char) : Bool := String.ofList a ≤ String.ofList b

/-- Texts with plus signs between them. -/
def joinPlus : List (List Char) → List Char
  | [] => []
  | [p] => p
  | p :: rest => p ++ '+' :: joinPlus rest

/-- The normal form of a relative name. -/
def normalForm (pairs : List Pair) : List Char :=
  joinPlus ((pairs.map Pair.render).mergeSort textLe)

/-- Read the pairs of a relative name. -/
def readRelativeName (s : List Char) : Except ReadError (List Pair) :=
  (splitUnescaped '+' s).mapM readPair

/-- Read a distinguished name. -/
def read (s : List Char) : Except ReadError DistinguishedName := do
  let names ← (splitUnescaped ',' s).mapM fun r => (readRelativeName r).map normalForm
  if names.isEmpty then throw .emptyName
  return ⟨s, names⟩

/-- The text of a distinguished name. -/
def render (n : DistinguishedName) : List Char := n.text

/-- What equality and hashes of a name depend on. -/
def hashKey (n : DistinguishedName) : List (List Char) := n.relativeNames

instance : BEq DistinguishedName := ⟨fun a b => a.hashKey == b.hashKey⟩

/-- Whether a name ends in all the relative names of another one. -/
def endsWith (name ending : DistinguishedName) : Bool :=
  ending.relativeNames.isSuffixOf name.relativeNames

end DistinguishedName

end Abac
