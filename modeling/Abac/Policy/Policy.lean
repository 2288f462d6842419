import Abac.Policy.Frame
import Abac.Policy.Rule

/-!
# Policies

A policy combines rules, and defines variables for them. Its rules, obligations and advice see these
variables; its target does not.
-/

namespace Abac

/-- A policy. -/
structure Policy extends Frame where
  /-- The variables in scope for the rules, the obligations and the advice. -/
  definitions : Definitions
  /-- The rules, in the order in which they are combined. -/
  rules : List Rule

namespace Policy

/-- The policy without rules. -/
def new (id : Identifier) : Policy := ⟨.new id, [], []⟩

/-- The policy with its frame changed. -/
def mapFrame (change : Frame → Frame) (p : Policy) : Policy :=
  { p with toFrame := change p.toFrame }

/-- The policy with a variable defined, in place of an earlier definition. -/
def withVariable (d : Definition) (p : Policy) : Policy :=
  { p.mapFrame .forget with definitions := p.definitions.insert d }

/-- The policy with a rule of its own appended. -/
def withRule (r : Rule) (p : Policy) : Policy :=
  { p.mapFrame .forget with rules := p.rules ++ [{ r with parentId := some p.id.text }] }

/-- The policy with a rule appended as it is, without notice. -/
def append (r : Rule) (p : Policy) : Policy := { p with rules := p.rules ++ [r] }

/-! ## Checking -/

/-- The variables that conditions and definitions refer to. -/
def references (p : Policy) : List String :=
  p.rules.flatMap Rule.references ++ p.definitions.flatMap fun d => d.expression.references

/-- The status of a policy in which a variable has no definition. -/
def undefinedVariable (id : Identifier) (v : String) : Status :=
  .syntaxError ("Undefined variable " ++ v ++ " in policy " ++ id.text)

/-- Whether the policy is well formed. -/
def check (p : Policy) : Status :=
  if p.algorithm.isNone then .syntaxError "Missing rule combining algorithm"
  else match p.references.find? fun v => !p.definitions.defines v with
    | some v => undefinedVariable p.id v
    | none => .ok

/-- The status of the policy: the one kept, or that of a check. -/
def validate (p : Policy) : Status := p.toFrame.validate p.check

/-- The policy after its status was asked for. -/
def validated (p : Policy) : Policy := p.mapFrame (.force p.validate)

/-! ## Evaluation -/

/-- The rules as the algorithm sees them. -/
def children (scope : Context) (p : Policy) : List Child :=
  (p.visible p.rules).map fun r =>
    { id := r.id
      parameters := parametersFor r.id p.childParameters
      matchTarget := fun _ => Run.lift (r.target.evaluate scope)
      evaluate := fun _ => r.evaluate scope }

/-- The result with the policy listed. -/
def sign (p : Policy) (r : Result) : Result := { r with policies := r.policies ++ [p.reference] }

/-- Evaluate a policy. -/
def evaluate (ctx : Context) (p : Policy) : Run Result :=
  let scope := ctx.within p.definitions
  p.toFrame.evaluate ctx scope p.validate (p.children scope) p.sign

/-- The policy after it was evaluated. -/
def evaluated (ctx : Context) (p : Policy) : Policy :=
  p.mapFrame fun f => f.evaluated ctx p.check p.rules.length

end Policy

end Abac
