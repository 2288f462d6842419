import Abac.Identifier

/-!
# Registries

Functions and combining algorithms are registered under an identifier, and policies find them
there. An identifier can be taken once.
-/

namespace Abac

/-- Why a registry refuses an entry or has none. -/
inductive RegistryError where
  | duplicateFunction (id : Identifier)
  | duplicateAlgorithm (id : Identifier)
  | unknownFunction (id : Identifier)
  | unknownAlgorithm (id : Identifier)
  deriving DecidableEq, Repr

/-- The wording of an error. -/
def RegistryError.message : RegistryError → String
  | .duplicateFunction id => "Function already registered: " ++ id.text
  | .duplicateAlgorithm id => "Combining algorithm already registered: " ++ id.text
  | .unknownFunction id => "Unknown function: " ++ id.text
  | .unknownAlgorithm id => "Unknown combining algorithm: " ++ id.text

/-- Things that have an identifier. -/
class Identified (α : Type) where
  /-- The identifier of a thing. -/
  identifier : α → Identifier

export Identified (identifier)

/-- Things that are found by their identifier, in the order in which they were registered. -/
structure Registry (α : Type) where
  entries : List α

namespace Registry

variable {α : Type} [Identified α]

/-- The registry without entries. -/
def empty : Registry α := ⟨[]⟩

/-- The entry with an identifier. -/
def find? (r : Registry α) (id : Identifier) : Option α :=
  r.entries.find? fun a => identifier a == id

/-- Whether an identifier is taken. -/
def contains (r : Registry α) (id : Identifier) : Bool := (r.find? id).isSome

/-- How many entries there are. -/
def size (r : Registry α) : Nat := r.entries.length

/-- Whether there is no entry. -/
def isEmpty (r : Registry α) : Bool := r.entries.isEmpty

/-- Add an entry, if its identifier is free. -/
def insert? (r : Registry α) (a : α) : Option (Registry α) :=
  if r.contains (identifier a) then none else some ⟨r.entries ++ [a]⟩

end Registry

end Abac
