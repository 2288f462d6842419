import Abac.Expression

/-!
# Contexts

A context is all that an evaluation sees of the world: its surroundings, and which variables are
defined.
-/

namespace Abac

/-- The surroundings of an evaluation, and its variables. -/
structure Context extends Surroundings where
  /-- The variables in scope; of two with one name, the first counts. -/
  definitions : Definitions

namespace Context

/-- The context in which there is nothing to be found. -/
def bare : Context := ⟨.bare, []⟩

/-- The context of a request with finders. `idsByDefault` decides about policy identifiers where the
request does not. -/
def ofRequest (r : Request) (finders : List Finder) (tracing idsByDefault : Bool) : Context where
  lookup := r.lookup finders
  select := Surroundings.noContent
  returnPolicyIds := r.returnPolicyIds.getD idsByDefault
  tracing := tracing
  patterns := Pattern.reader
  definitions := []

/-- The context inside a policy that defines variables. -/
def within (ctx : Context) (ds : Definitions) : Context :=
  { ctx with definitions := ds ++ ctx.definitions }

end Context

end Abac
