import Abac.Decision
import Abac.Status
import Abac.Value
import Abac.Version

/-!
# Results

The result of evaluating a node of a policy tree: a decision, a status, the obligations and advice
that go with the decision, and the policies and policy sets that led to it.
-/

namespace Abac

/-- An attribute with the value that it is given in an obligation. -/
structure Assignment where
  attributeId : Identifier
  category : Option Identifier
  issuer : Option String
  value : Value
  deriving Repr

/-- An obligation; advice has the same form. -/
structure Obligation where
  id : Identifier
  assignments : List Assignment
  deriving Repr

/-- A policy or policy set by identifier and version. -/
structure PolicyReference where
  id : Identifier
  version : Version
  deriving Repr

/-- What evaluating a node comes to. -/
structure Result where
  decision : Decision
  status : Status
  obligations : List Obligation
  advice : List Obligation
  policies : List PolicyReference
  policySets : List PolicyReference
  deriving Repr

namespace Result

/-- The bare result of a decision with a status. -/
def withStatus (d : Decision) (s : Status) : Result := ⟨d, s, [], [], [], []⟩

/-- The bare result of a decision. -/
def of (d : Decision) : Result := withStatus d .ok

/-- The result of a node that does not apply. -/
def notApplicable : Result := of .notApplicable

/-- The result of a node that cannot tell. -/
def indeterminate (s : Status) : Result := withStatus .indeterminate s

/-- Take over what another result carries. The decision stays, and so does a status that reports
something. -/
def merge (r other : Result) : Result where
  decision := r.decision
  status := if r.status.isOk && !other.status.isOk then other.status else r.status
  obligations := r.obligations ++ other.obligations
  advice := r.advice ++ other.advice
  policies := r.policies ++ other.policies
  policySets := r.policySets ++ other.policySets

/-- The result with another decision. -/
def decide (r : Result) (d : Decision) : Result := { r with decision := d }

/-- The result after a failure: another decision and status, and neither obligations nor advice. -/
def fail (r : Result) (d : Decision) (s : Status) : Result :=
  { r with decision := d, status := s, obligations := [], advice := [] }

end Result

end Abac
