import Abac.Expression
import Abac.Registry

/-!
# The functions that policies can name

Policies name functions by identifier. The standard functions are registered from the start where
nothing else is said.
-/

namespace Abac

instance : Identified Function := ⟨Function.id⟩

/-- The functions that policies can name. -/
abbrev Functions := Registry Function

namespace Functions

/-- The standard functions. -/
def standard : Functions := ⟨StandardFunction.all.map .standard⟩

/-- The function under an identifier. -/
def named (fs : Functions) (id : Identifier) : Except RegistryError Function :=
  match fs.find? id with
  | some f => .ok f
  | none => .error (.unknownFunction id)

/-- Register a function. -/
def register (fs : Functions) (f : Function) : Except RegistryError Functions :=
  match fs.insert? f with
  | some fs => .ok fs
  | none => .error (.duplicateFunction f.id)

/-- The application of the function under an identifier to expressions. -/
def application (fs : Functions) (id : Identifier) (args : List Expression) :
    Except RegistryError Expression :=
  (fs.named id).map fun f => .apply f args

end Functions

end Abac
