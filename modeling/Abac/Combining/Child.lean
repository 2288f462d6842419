import Abac.Result
import Abac.Run
import Abac.Target

/-!
# Children of a combination

A combining algorithm sees the children of a node in order. It may ask whether a child's target
applies, and it may have the child evaluated. Values may be given to an algorithm by name, for the
whole combination or for the children that bear an identifier.
-/

namespace Abac

/-- A named value for a combining algorithm. -/
structure Parameter where
  name : String
  value : Value
  deriving Repr

/-- A named value that concerns the children with one identifier. -/
structure TargetedParameter where
  /-- The identifier of the children concerned. -/
  targetId : String
  parameter : Parameter
  deriving Repr

/-- The parameters that concern the children with an identifier. -/
def parametersFor (id : String) (ps : List TargetedParameter) : List Parameter :=
  (ps.filter fun p => p.targetId == id).map TargetedParameter.parameter

/-- A child as an algorithm sees it. -/
structure Child where
  /-- The identifier that parameters name. -/
  id : String
  /-- The parameters that concern the child. -/
  parameters : List Parameter
  /-- Find out whether the child's target applies. -/
  matchTarget : Unit → Run Applicability
  /-- Evaluate the child. -/
  evaluate : Unit → Run Result

end Abac
