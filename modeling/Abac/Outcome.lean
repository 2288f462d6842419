import Abac.Bag
import Abac.Status

/-!
# How evaluations end

The evaluation of an expression ends in a value or a bag, or it halts. It halts in one of two ways:
with a status, which becomes part of a decision, or with a fault, which abandons the evaluation of
the whole tree. A breach is a fault that no evaluation can reach: it stands where a function relies
on what was checked before.
-/

namespace Abac

/-- A condition that a function relies on and that does not hold. -/
inductive Breach where
  /-- A value was put into a bag of another type. -/
  | bagType (e : BagMismatch)
  /-- An argument was taken that is not there. -/
  | missingArgument
  /-- Functions were applied to functions more often than there are arguments. -/
  | nesting
  deriving DecidableEq, Repr

/-- The wording of a breach. -/
def Breach.message : Breach → String
  | .bagType e => e.message
  | .missingArgument => "missing argument"
  | .nesting => "functions nested too deeply"

/-- What abandons an evaluation. -/
inductive Fault where
  /-- A policy or policy set has no combining algorithm. -/
  | noAlgorithm (node : String)
  /-- A source of attributes failed. -/
  | lookup (message : String)
  /-- Something else went wrong inside. -/
  | internal (message : String)
  /-- The definition of a variable refers to the variable. -/
  | circularVariable (id : String)
  | breach (b : Breach)
  deriving DecidableEq, Repr

/-- The wording of a fault. -/
def Fault.message : Fault → String
  | .noAlgorithm node => "No combining algorithm on " ++ node
  | .lookup message => "Attribute lookup failed: " ++ message
  | .internal message => "Internal error: " ++ message
  | .circularVariable id => "Circular variable: " ++ id
  | .breach b => "Breach: " ++ b.message

/-- Why an evaluation halts. -/
inductive Halt where
  | status (s : Status)
  | fault (f : Fault)
  deriving DecidableEq, Repr

/-- What the evaluation of an expression ends in. -/
inductive Outcome where
  | value (v : Value)
  | bag (b : Bag)
  deriving Repr

namespace Outcome

/-- A truth value. -/
def bool (b : Bool) : Outcome := .value (.boolean b)

/-- The values of an outcome: a single one, or those of the bag. -/
def values : Outcome → List Value
  | .value v => [v]
  | .bag b => b.values

end Outcome

/-- An argument of a function: a value, a bag, or a function of some kind. -/
inductive Operand (φ : Type) where
  | value (v : Value)
  | bag (b : Bag)
  | function (f : φ)
  deriving Repr

namespace Operand

/-- An outcome as an argument. -/
def ofOutcome {φ : Type} : Outcome → Operand φ
  | .value v => .value v
  | .bag b => .bag b

/-- The argument with its function replaced. -/
def map {φ ψ : Type} (g : φ → ψ) : Operand φ → Operand ψ
  | .value v => .value v
  | .bag b => .bag b
  | .function f => .function (g f)

end Operand

end Abac
