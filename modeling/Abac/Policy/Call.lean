import Abac.Policy.Node

/-!
# Calls

A node starts empty. Changes replace or extend its fields, and other nodes are added to it. Its
status may be forced and released, and between these it may be validated and evaluated at any time.

A change drops the kept status only if the check looks at what it changes. In policies and policy
sets the kept elements go with it.
-/

namespace Abac

/-! ## Changes that concern neither status nor elements -/

namespace Rule

/-- The rule with another description. -/
def withDescription (text : String) (r : Rule) : Rule := { r with description := some text }

/-- The rule with one more obligation. -/
def withObligation (o : ObligationExpression) (r : Rule) : Rule :=
  { r with obligations := r.obligations ++ [o] }

/-- The rule with one more advice. -/
def withAdvice (o : ObligationExpression) (r : Rule) : Rule := { r with advice := r.advice ++ [o] }

end Rule

namespace Frame

/-- The frame with another version. -/
def withVersion (v : Version) (f : Frame) : Frame := { f with version := v }

/-- The frame with another description. -/
def withDescription (text : String) (f : Frame) : Frame := { f with description := some text }

/-- The frame with one more obligation. -/
def withObligation (o : ObligationExpression) (f : Frame) : Frame :=
  { f with obligations := f.obligations ++ [o] }

/-- The frame with one more advice. -/
def withAdvice (o : ObligationExpression) (f : Frame) : Frame :=
  { f with advice := f.advice ++ [o] }

end Frame

/-! ## Changes -/

/-- What replaces or extends a field of a node, or forces and releases its status. -/
inductive Change where
  | withVersion (v : Version)
  | withDescription (text : String)
  | withTarget (t : Target)
  | withCondition (e : Expression)
  | withAlgorithm (a : Algorithm)
  | withParameter (p : Parameter)
  | withChildParameter (p : TargetedParameter)
  | withVariable (d : Definition)
  | withObligation (o : ObligationExpression)
  | withAdvice (o : ObligationExpression)
  | setStatus (s : Status)
  | resetStatus

namespace Change

/-- What a change does to a rule, if rules have what it changes. -/
def ofRule? : Change → Option (Rule → Rule)
  | .withDescription text => some (.withDescription text)
  | .withTarget t => some (.withTarget t)
  | .withCondition e => some (.withCondition e)
  | .withObligation o => some (.withObligation o)
  | .withAdvice o => some (.withAdvice o)
  | .setStatus s => some (.force s)
  | .resetStatus => some .recheck
  | _ => none

/-- What a change does to what policies and policy sets have in common. -/
def ofFrame? : Change → Option (Frame → Frame)
  | .withVersion v => some (.withVersion v)
  | .withDescription text => some (.withDescription text)
  | .withTarget t => some (.withTarget t)
  | .withAlgorithm a => some (.withAlgorithm a)
  | .withParameter p => some (.withParameter p)
  | .withChildParameter p => some (.withChildParameter p)
  | .withObligation o => some (.withObligation o)
  | .withAdvice o => some (.withAdvice o)
  | .setStatus s => some (.force s)
  | .resetStatus => some .recheck
  | _ => none

/-- Whether a change of a field drops the status that is kept, of a rule or of another node. -/
def resets : Bool → Change → Bool
  | true, .withTarget _ | true, .withCondition _ => true
  | false, .withAlgorithm _ | false, .withChildParameter _ | false, .withVariable _ => true
  | _, _ => false

end Change

namespace Node

/-- Whether a node is a rule. -/
def isRule : Node → Bool
  | .rule _ => true
  | _ => false

/-- The node after a change, if it has what is changed. -/
def change? (n : Node) (c : Change) : Option Node :=
  match n, c with
  | .rule r, c => c.ofRule?.map fun change => .rule (change r)
  | .policy p, .withVariable d => some (.policy (p.withVariable d))
  | n, c => c.ofFrame?.bind fun change => n.mapFrame? change

/-- The node as one that policy sets hold; they hold no rules. -/
def toPolicyNode? : Node → Option PolicyNode
  | .rule _ => none
  | .policy p => some (.policy p)
  | .policySet s => some (.policySet s)

/-- The node with another one added, if it can hold it. Policies own their rules; policy sets own
what they hold or share it. -/
def add? (n : Node) (shared : Bool) (c : Node) : Option Node :=
  match n, c with
  | .policy p, .rule r => if shared then none else some (.policy (p.withRule r))
  | .policySet s, c => c.toPolicyNode?.map fun c =>
    .policySet (if shared then s.withShared c else s.withChild c)
  | _, _ => none

end Node

/-! ## Calls -/

/-- What may be done with a node. -/
inductive Call where
  | change (c : Change)
  | add (shared : Bool) (n : Node)
  | validate
  | evaluate (ctx : Context)

namespace Call

/-- Whether a call that builds the node drops the status that is kept. -/
def resets (onRule : Bool) : Call → Bool
  | .change c => c.resets onRule
  | .add _ _ => true
  | .validate | .evaluate _ => false

/-- The status in force after calls, the latest first: the last one that was set, unless it was
reset or dropped after that. -/
def forced (onRule : Bool) : List Call → Option Status
  | [] => none
  | .change (.setStatus s) :: _ => some s
  | .change .resetStatus :: _ => none
  | c :: earlier => if c.resets onRule then none else forced onRule earlier

end Call

end Abac
