/-!
# JSON values

The documents that configure an engine and that requests, values and results are exchanged in.
Fields of an object keep their order, and a repeated name stays repeated, so that a reader can say
whether it minds. A literal whose extent is clear but which denotes nothing is kept as
`unpaired`, so that a reader can still skip it.
-/

namespace Abac

/-- A JSON value. -/
inductive Json where
  | null
  | bool (b : Bool)
  /-- A numeral without fraction and exponent. -/
  | integer (n : Int)
  /-- Any other numeral, as it is written. -/
  | real (text : String)
  | string (s : String)
  /-- A string literal that names one half of a surrogate pair without the other. -/
  | unpaired
  | array (items : List Json)
  | object (fields : List (String × Json))
  deriving Repr, Inhabited

namespace Json

/-- The last value that an object has under a name. -/
def field? (name : String) : Json → Option Json
  | .object fields => (fields.reverse.find? fun f => f.1 == name).map Prod.snd
  | _ => none

/-- A natural number. -/
def nat (n : Nat) : Json := .integer n

/-- A text, or null where there is none. -/
def text? : Option String → Json
  | some s => .string s
  | none => .null

mutual

/-- How deeply arrays and objects are nested: 0 for a value that is neither. -/
def depth : Json → Nat
  | .array items => depthOfItems items + 1
  | .object fields => depthOfFields fields + 1
  | _ => 0

/-- The greatest depth of the items of an array. -/
def depthOfItems : List Json → Nat
  | [] => 0
  | j :: rest => max j.depth (depthOfItems rest)

/-- The greatest depth of the fields of an object. -/
def depthOfFields : List (String × Json) → Nat
  | [] => 0
  | (_, j) :: rest => max j.depth (depthOfFields rest)

end

mutual

/-- Whether `p` holds of every part of a value that is neither array nor object. -/
def allLeaves (p : Json → Bool) : Json → Bool
  | .array items => allLeavesOfItems p items
  | .object fields => allLeavesOfFields p fields
  | j => p j

/-- Whether `p` holds of every leaf of the items of an array. -/
def allLeavesOfItems (p : Json → Bool) : List Json → Bool
  | [] => true
  | j :: rest => j.allLeaves p && allLeavesOfItems p rest

/-- Whether `p` holds of every leaf of the fields of an object. -/
def allLeavesOfFields (p : Json → Bool) : List (String × Json) → Bool
  | [] => true
  | (_, j) :: rest => j.allLeaves p && allLeavesOfFields p rest

end

end Json

end Abac
