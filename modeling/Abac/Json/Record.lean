import Abac.Json

/-!
# Records in JSON

A record is written as an object. It may also be given as the array of its fields in order, whose
last fields may be left out where they have a default. In an object the last of several fields of
one name counts, fields that the record does not have are ignored, and an optional field may be
left out. One of several words is written as a string, or as an object that maps it to null.
-/

namespace Abac

/-- The fields that a document gives for a record. -/
structure Record where
  /-- Whether the fields were given by position. -/
  isPositional : Bool
  fields : List (String × Json)

namespace Record

/-- The fields of a record that has fields of the given names. -/
def ofJson? (names : List String) : Json → Option Record
  | .object fields => some ⟨false, fields⟩
  | .array items => if items.length ≤ names.length then some ⟨true, names.zip items⟩ else none
  | _ => none

/-- The value given for a field. -/
def field? (r : Record) (name : String) : Option Json := (Json.object r.fields).field? name

/-- A field that must be given. -/
def required {α : Type} (r : Record) (name : String) (read : Json → Option α) : Option α :=
  (r.field? name).bind read

/-- A field that may be null, and be absent from an object. -/
def optional {α : Type} (r : Record) (name : String) (read : Json → Option α) :
    Option (Option α) :=
  match r.field? name with
  | none => if r.isPositional then none else some none
  | some .null => some none
  | some j => (read j).map some

/-- A field that has a default. -/
def defaulted {α : Type} (r : Record) (name : String) (default : α) (read : Json → Option α) :
    Option α :=
  match r.field? name with
  | none => some default
  | some j => read j

end Record

namespace Json

/-- A string. -/
def string? : Json → Option String
  | .string s => some s
  | _ => none

/-- A truth value. -/
def bool? : Json → Option Bool
  | .bool b => some b
  | _ => none

/-- Something that may be null. -/
def nullable? {α : Type} (read : Json → Option α) : Json → Option (Option α)
  | .null => some none
  | j => (read j).map some

/-- Read the items of an array. -/
def items? {α : Type} (read : Json → Option α) : Json → Option (List α)
  | .array items => items.mapM read
  | _ => none

/-- A word that stands alone or is the one name that is mapped to null. -/
def word? : Json → Option String
  | .string s => some s
  | .object fields =>
    match fields.reverse with
    | (s, .null) :: rest => if rest.all fun f => f.1 == s then some s else none
    | _ => none
  | _ => none

end Json

end Abac
