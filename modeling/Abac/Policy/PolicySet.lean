import Abac.Policy.Policy

/-!
# Policy sets

A policy set combines policies and other policy sets. Together they form a tree, whose leaves are
the rules of the policies.
-/

namespace Abac

mutual

/-- A policy or a policy set. -/
inductive PolicyNode where
  | policy (p : Policy)
  | policySet (s : PolicySet)

/-- A policy set. -/
structure PolicySet extends Frame where
  /-- The policies and policy sets in it, in the order in which they are combined. -/
  children : List PolicyNode

end

/-! ## Checking -/

namespace PolicySet

/-- The policy set without children. -/
def new (id : Identifier) : PolicySet := ⟨.new id, []⟩

/-- The policy set with its frame changed. -/
def mapFrame (change : Frame → Frame) (s : PolicySet) : PolicySet :=
  { s with toFrame := change s.toFrame }

/-- Whether the policy set is well formed. Its children are not looked at. -/
def check (s : PolicySet) : Status :=
  if s.algorithm.isNone then .syntaxError "Missing policy combining algorithm" else .ok

/-- The status of the policy set: the one kept, or that of a check. -/
def validate (s : PolicySet) : Status := s.toFrame.validate s.check

/-- The policy set after its status was asked for. -/
def validated (s : PolicySet) : PolicySet := s.mapFrame (.force s.validate)

/-- The result with the policy set listed. -/
def sign (s : PolicySet) (r : Result) : Result :=
  { r with policySets := r.policySets ++ [s.reference] }

end PolicySet

namespace PolicyNode

/-- What a policy or policy set has besides its children. -/
def frame : PolicyNode → Frame
  | .policy p => p.toFrame
  | .policySet s => s.toFrame

/-- The node with its frame changed. -/
def mapFrame (change : Frame → Frame) : PolicyNode → PolicyNode
  | .policy p => .policy (p.mapFrame change)
  | .policySet s => .policySet (s.mapFrame change)

/-- The status of a node. -/
def validate : PolicyNode → Status
  | .policy p => p.validate
  | .policySet s => s.validate

end PolicyNode

/-! ## Evaluation -/

mutual

/-- Evaluate a policy or policy set. -/
def PolicyNode.evaluate (ctx : Context) : PolicyNode → Run Result
  | .policy p => p.evaluate ctx
  | .policySet s => s.evaluate ctx

/-- Evaluate a policy set. -/
def PolicySet.evaluate (ctx : Context) : PolicySet → Run Result
  | ⟨f, children⟩ =>
    let s : PolicySet := ⟨f, children⟩
    let cs := f.visible (PolicyNode.asChildren ctx f.childParameters children)
    f.evaluate ctx ctx s.validate cs s.sign

/-- Policies and policy sets as the algorithm sees them. -/
def PolicyNode.asChildren (ctx : Context) (ps : List TargetedParameter) :
    List PolicyNode → List Child
  | [] => []
  | n :: rest =>
    { id := n.frame.id.text
      parameters := parametersFor n.frame.id.text ps
      matchTarget := fun _ => Run.lift (n.frame.target.evaluate ctx)
      evaluate := fun _ => n.evaluate ctx } :: PolicyNode.asChildren ctx ps rest

end

namespace PolicySet

/-- The policy set after it was evaluated. -/
def evaluated (ctx : Context) (s : PolicySet) : PolicySet :=
  s.mapFrame fun f => f.evaluated ctx s.check s.children.length

/-- The policy set with a policy or policy set of its own appended. -/
def withChild (n : PolicyNode) (s : PolicySet) : PolicySet :=
  { s.mapFrame .forget with
    children := s.children ++ [n.mapFrame fun f => { f with parentId := some s.id.text }] }

/-- The policy set with a node appended that it shares with other trees. -/
def withShared (n : PolicyNode) (s : PolicySet) : PolicySet :=
  { s.mapFrame .forget with children := s.children ++ [n] }

/-- The policy set with a node appended as it is, without notice. -/
def append (n : PolicyNode) (s : PolicySet) : PolicySet := { s with children := s.children ++ [n] }

end PolicySet

end Abac
