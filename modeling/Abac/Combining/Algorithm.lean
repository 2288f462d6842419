import Abac.Combining.SoleMatch
import Abac.Combining.Surveys

/-!
# Combining algorithms

A combining algorithm makes one result out of those of the children of a node. It has an identifier,
under which policies name it, and a method; the same method may serve several identifiers. The
built-in methods look at nothing but the children; a method that is not built in may also consult
the context in which the children are evaluated.
-/

namespace Abac

/-- How a combining algorithm works. -/
inductive Method where
  /-- Deny-overrides or permit-overrides. -/
  | overrides (e : Effect)
  /-- The earlier deny-overrides or permit-overrides of rules. -/
  | earlierRuleOverrides (e : Effect)
  /-- The earlier deny-overrides of policies. -/
  | earlierDenyOverrides
  /-- The earlier permit-overrides of policies. -/
  | earlierPermitOverrides
  /-- Deny-unless-permit or permit-unless-deny, by the effect that settles the combination. -/
  | defaulting (e : Effect)
  | firstApplicable
  | onlyOneApplicable
  /-- A method that is not built in. -/
  | custom (combine : List Child → List Parameter → Context → Run Result)

/-- A method may do without the context. -/
instance : Coe (List Child → List Parameter → Run Result)
    (List Child → List Parameter → Context → Run Result) :=
  ⟨fun combine children parameters _ => combine children parameters⟩

/-- Combine children that are evaluated in a context, with the parameters of the whole combination.
-/
def Method.combine (m : Method) (children : List Child) (parameters : List Parameter)
    (ctx : Context := .bare) : Run Result :=
  match m with
  | .overrides e => (Survey.overrides e).run children
  | .earlierRuleOverrides e => (Survey.earlierRuleOverrides e).run children
  | .earlierDenyOverrides => Survey.earlierDenyOverrides.run children
  | .earlierPermitOverrides => Survey.earlierPermitOverrides.run children
  | .defaulting e => (Survey.defaulting e).run children
  | .firstApplicable => Survey.firstApplicable.run children
  | .onlyOneApplicable => onlyApplicable children
  | .custom combine => combine children parameters ctx

/-- A combining algorithm. -/
structure Algorithm where
  id : Identifier
  method : Method

/-- Combine children that are evaluated in a context, with the parameters of the whole combination.
-/
def Algorithm.combine (a : Algorithm) (children : List Child) (parameters : List Parameter)
    (ctx : Context) : Run Result :=
  a.method.combine children parameters ctx

end Abac
