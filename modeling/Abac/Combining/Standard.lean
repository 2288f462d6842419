import Abac.Combining.Algorithm
import Abac.Registry

/-!
# The standard combining algorithms

Rules and policies have combining algorithms of their own. Only-one-applicable is for policies
alone, and the earlier overriding algorithms differ between the two; all others are the same. An
ordered algorithm is another name for the one without that word, since all of them keep the order
of the children.
-/

namespace Abac

instance : Identified Algorithm := ⟨Algorithm.id⟩

/-- The two effects that can override the other, with the names of the algorithms in which they do.
-/
def overridingEffects : List (String × Effect) :=
  [("deny-overrides", .deny), ("permit-overrides", .permit)]

/-- The names of the algorithms that decide one effect unless a child decides the other, with the
latter. -/
def defaultingEffects : List (String × Effect) :=
  [("deny-unless-permit", .permit), ("permit-unless-deny", .deny)]

/-- The algorithms that are the same for rules and policies, with identifiers made by `name` of a
version and a name. -/
def commonAlgorithms (name : String → String → Identifier) : List Algorithm :=
  (["", "ordered-"].flatMap fun order =>
    overridingEffects.map fun (n, e) => ⟨name "3.0" (order ++ n), .overrides e⟩) ++
  (defaultingEffects.map fun (n, e) => ⟨name "3.0" n, .defaulting e⟩) ++
  [⟨name "1.0" "first-applicable", .firstApplicable⟩]

/-- The earlier overriding algorithms, with identifiers made by `name`. -/
def earlierAlgorithms (name : String → String → Identifier) (method : Effect → Method) :
    List Algorithm :=
  [("1.0", ""), ("1.1", "ordered-")].flatMap fun (version, order) =>
    overridingEffects.map fun (n, e) => ⟨name version (order ++ n), method e⟩

/-- The earlier overriding method of policies. -/
def Method.earlierPolicyOverrides : Effect → Method
  | .deny => .earlierDenyOverrides
  | .permit => .earlierPermitOverrides

/-- The combining algorithms that policies and policy sets can name. -/
structure Algorithms where
  /-- Those that combine rules. -/
  rules : Registry Algorithm
  /-- Those that combine policies and policy sets. -/
  policies : Registry Algorithm

namespace Algorithms

/-- No algorithms at all. -/
def empty : Algorithms := ⟨.empty, .empty⟩

/-- The standard algorithms. -/
def standard : Algorithms where
  rules := ⟨commonAlgorithms .ruleAlgorithm ++
    earlierAlgorithms .ruleAlgorithm .earlierRuleOverrides⟩
  policies := ⟨commonAlgorithms .policyAlgorithm ++
    [⟨.policyAlgorithm "1.0" "only-one-applicable", .onlyOneApplicable⟩] ++
    earlierAlgorithms .policyAlgorithm .earlierPolicyOverrides⟩

/-- The algorithm that combines rules under an identifier. -/
def rule (as : Algorithms) (id : Identifier) : Except RegistryError Algorithm :=
  match as.rules.find? id with
  | some a => .ok a
  | none => .error (.unknownAlgorithm id)

/-- The algorithm that combines policies under an identifier. -/
def policy (as : Algorithms) (id : Identifier) : Except RegistryError Algorithm :=
  match as.policies.find? id with
  | some a => .ok a
  | none => .error (.unknownAlgorithm id)

/-- Register an algorithm that combines rules. -/
def registerRule (as : Algorithms) (a : Algorithm) : Except RegistryError Algorithms :=
  match as.rules.insert? a with
  | some rules => .ok { as with rules }
  | none => .error (.duplicateAlgorithm a.id)

/-- Register an algorithm that combines policies. -/
def registerPolicy (as : Algorithms) (a : Algorithm) : Except RegistryError Algorithms :=
  match as.policies.insert? a with
  | some policies => .ok { as with policies }
  | none => .error (.duplicateAlgorithm a.id)

end Algorithms

end Abac
