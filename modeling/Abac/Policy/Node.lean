import Abac.Policy.PolicySet

/-!
# Nodes

A node is a rule, a policy or a policy set. All three are checked, matched and evaluated in the same
way, and remember the status of their last check until they are changed or told to check again.
-/

namespace Abac

/-- A rule, a policy or a policy set. -/
inductive Node where
  | rule (r : Rule)
  | policy (p : Policy)
  | policySet (s : PolicySet)

namespace Node

/-- To which requests the node applies. -/
def target : Node → Target
  | .rule r => r.target
  | .policy p => p.target
  | .policySet s => s.target

/-- The status of the node. -/
def validate : Node → Status
  | .rule r => r.validate
  | .policy p => p.validate
  | .policySet s => s.validate

/-- The node after its status was asked for. -/
def validated : Node → Node
  | .rule r => .rule r.validated
  | .policy p => .policy p.validated
  | .policySet s => .policySet s.validated

/-- Evaluate a node. -/
def evaluate (ctx : Context) : Node → Run Result
  | .rule r => r.evaluate ctx
  | .policy p => p.evaluate ctx
  | .policySet s => s.evaluate ctx

/-- The node after it was evaluated. -/
def evaluated (ctx : Context) : Node → Node
  | .rule r => .rule r.validated
  | .policy p => .policy (p.evaluated ctx)
  | .policySet s => .policySet (s.evaluated ctx)

/-- The node with a forced status. -/
def force (s : Status) : Node → Node
  | .rule r => .rule (r.force s)
  | .policy p => .policy (p.mapFrame (.force s))
  | .policySet n => .policySet (n.mapFrame (.force s))

/-- The node without a status kept. -/
def recheck : Node → Node
  | .rule r => .rule r.recheck
  | .policy p => .policy (p.mapFrame .recheck)
  | .policySet s => .policySet (s.mapFrame .recheck)

/-- The node with another target. -/
def withTarget (t : Target) : Node → Node
  | .rule r => .rule (r.withTarget t)
  | .policy p => .policy (p.mapFrame (.withTarget t))
  | .policySet s => .policySet (s.mapFrame (.withTarget t))

/-- The node with its frame changed; a rule has none. -/
def mapFrame? (change : Frame → Frame) : Node → Option Node
  | .rule _ => none
  | .policy p => some (.policy (p.mapFrame change))
  | .policySet s => some (.policySet (s.mapFrame change))

end Node

end Abac
