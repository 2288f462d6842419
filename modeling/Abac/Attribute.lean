import Abac.Outcome

/-!
# Attributes and their sources

A request brings attributes. What it does not bring may come from finders, which are asked one after
another. A source answers a lookup with attributes or with a status, or fails.
-/

namespace Abac

/-- An attribute with its values. -/
structure Attribute where
  category : Identifier
  attributeId : Identifier
  issuer : Option String
  values : List Value
  deriving Repr

/-- What is looked up: a category, an attribute, the data type of the values wanted and, if it
matters, the issuer. -/
structure LookupKey where
  category : Identifier
  attributeId : Identifier
  dataType : DataType
  issuer : Option String
  deriving DecidableEq, Repr

/-- Whether an attribute is the one that a key asks for; its values may be of any type. -/
def Attribute.isFor (a : Attribute) (k : LookupKey) : Bool :=
  a.category == k.category && a.attributeId == k.attributeId &&
    (k.issuer.isNone || a.issuer == k.issuer)

/-- Whether an attribute has a value of a type. -/
def Attribute.hasType (a : Attribute) (t : DataType) : Bool := a.values.any fun v => v.dataType == t

/-- What a source answers. -/
structure LookupAnswer where
  status : Status
  attributes : List Attribute
  deriving Repr

/-- The answer that has attributes. -/
def LookupAnswer.found (attributes : List Attribute) : LookupAnswer := ⟨.ok, attributes⟩

/-- The answer that has a status instead of attributes. -/
def LookupAnswer.failed (status : Status) : LookupAnswer := ⟨status, []⟩

/-- Whether an answer ends a search: it reports a failure or has attributes. -/
def LookupAnswer.isUsable (a : LookupAnswer) : Bool := !a.status.isOk || !a.attributes.isEmpty

/-- A source that is asked for what a request does not bring. It may fail with a message. -/
abbrev Finder := LookupKey → Except String LookupAnswer

/-- The first usable answer of the finders, or the empty one. -/
def askFinders (k : LookupKey) : List Finder → Except String LookupAnswer
  | [] => .ok (.found [])
  | finder :: rest =>
    match finder k with
    | .error message => .error message
    | .ok answer => if answer.isUsable then .ok answer else askFinders k rest

/-- A request for a decision. -/
structure Request where
  attributes : List Attribute
  /-- Whether the result shall list the policies that apply; the engine decides if absent. -/
  returnPolicyIds : Option Bool
  deriving Repr

/-- The attributes of a request that a key asks for. -/
def Request.matching (r : Request) (k : LookupKey) : List Attribute :=
  r.attributes.filter fun a => a.isFor k

/-- Look up attributes: those of the request if one of them has a value of the type wanted, and else
what the finders answer. -/
def Request.lookup (r : Request) (finders : List Finder) (k : LookupKey) :
    Except String LookupAnswer :=
  if (r.matching k).any fun a => a.hasType k.dataType then .ok (.found (r.matching k))
  else askFinders k finders

end Abac
