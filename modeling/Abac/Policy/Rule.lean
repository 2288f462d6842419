import Abac.Obligation
import Abac.Policy.Report

/-!
# Rules

A rule leads to its effect if its target matches and its condition is true. A rule is checked
before it is evaluated, and the outcome of the check is kept until the target or the condition is
replaced. A status may be forced in its place.
-/

namespace Abac

/-- A rule. -/
structure Rule where
  id : String
  effect : Effect
  description : Option String
  /-- The policy that the rule was added to. -/
  parentId : Option String
  target : Target
  /-- What must be true for the rule to apply, if anything. -/
  condition : Option Expression
  obligations : List ObligationExpression
  advice : List ObligationExpression
  /-- The status of the last check, or the one that was forced. -/
  checked : Option Status

namespace Rule

/-- The rule that applies to every request. -/
def new (id : String) (effect : Effect) : Rule :=
  ⟨id, effect, none, none, .everything, none, [], [], none⟩

/-- The name of the rule in traces. -/
def label (r : Rule) : String := nodeLabel r.parentId r.id

/-- The variables that the condition refers to. -/
def references (r : Rule) : List String :=
  match r.condition with
  | some e => e.references
  | none => []

/-! ## Checking -/

/-- The status of a condition that cannot be a truth value. -/
def notBoolean (id : String) (t : DataType) (isBag : Bool) : Status :=
  .syntaxError ("Condition of rule " ++ id ++ " must be a boolean, found " ++ t.shortName ++
    if isBag then " bag" else "")

/-- Whether the rule is well formed. -/
def check (r : Rule) : Status :=
  if r.id.isEmpty then .syntaxError "Missing rule id"
  else match r.condition.bind Expression.staticType with
    | none => .ok
    | some (.boolean, false) => .ok
    | some (t, isBag) => notBoolean r.id t isBag

/-- The status of the rule: the one kept, or that of a check. -/
def validate (r : Rule) : Status := r.checked.getD r.check

/-- The rule after its status was asked for. -/
def validated (r : Rule) : Rule := { r with checked := some r.validate }

/-- The rule with a forced status. -/
def force (s : Status) (r : Rule) : Rule := { r with checked := some s }

/-- The rule without a status kept. -/
def recheck (r : Rule) : Rule := { r with checked := none }

/-- The rule with another target. -/
def withTarget (t : Target) (r : Rule) : Rule := { r.recheck with target := t }

/-- The rule with another condition. -/
def withCondition (e : Expression) (r : Rule) : Rule := { r.recheck with condition := some e }

/-! ## Evaluation -/

/-- The status of a condition whose outcome is no truth value. -/
def notBooleanResult (id : String) : Status :=
  .processingError ("Condition of rule " ++ id ++ " did not return a boolean")

/-- What the rule comes to when its target matches. -/
def judge (ctx : Context) (r : Rule) : Except Fault Result :=
  match r.condition with
  | none => .ok (.of r.effect.decision)
  | some e =>
    match e.eval ctx with
    | .ok (.value (.boolean true)) => .ok (.of r.effect.decision)
    | .ok (.value (.boolean false)) => .ok .notApplicable
    | .ok _ => .ok (.withStatus r.effect.indeterminate (notBooleanResult r.id))
    | .error (.status s) => .ok (.withStatus r.effect.indeterminate s)
    | .error (.fault f) => .error f

/-- Evaluate a rule. -/
def evaluate (ctx : Context) (r : Rule) : Run Result :=
  if r.validate.isOk then do
    let a ← r.target.check ctx r.label
    let judged ← match a.early? r.effect.indeterminate with
      | some early => pure early
      | none => Run.lift (r.judge ctx)
    let attached ← Run.lift (judged.attach ctx r.obligations r.advice)
    announce ctx r.label attached
  else announce ctx r.label (.indeterminate r.validate)

end Rule

end Abac
