import Abac.Result
import Abac.Run
import Abac.Target

/-!
# What a node reports

A node is named in traces by its identifier, under that of its parent if it has one. It records how
its target matched and, at the end, what it decided.
-/

namespace Abac

/-- The name of a node in traces. -/
def nodeLabel (parent : Option String) (id : String) : String :=
  match parent with
  | some p => p ++ "/" ++ id
  | none => id

/-- The event that a target was matched. -/
def TraceEvent.ofMatch (node : String) (a : Applicability) : TraceEvent := ⟨"Match", node, a.render⟩

/-- The event that a node came to a result. -/
def TraceEvent.ofResult (node : String) (r : Result) : TraceEvent :=
  ⟨"Result", node, r.decision.render⟩

/-- Match the target of a node and record how. -/
def Target.check (ctx : Context) (node : String) (t : Target) : Run Applicability := do
  let a ← Run.lift (t.evaluate ctx)
  Run.record ctx (.ofMatch node a)
  return a

/-- Come to a result and record it. -/
def announce (ctx : Context) (node : String) (r : Result) : Run Result := do
  Run.record ctx (.ofResult node r)
  return r

/-- The result of a node whose target does not match for certain: the target alone tells. A node
whose target is unclear decides `undecided`. -/
def Applicability.early? (undecided : Decision) : Applicability → Option Result
  | .matched => none
  | .unmatched => some .notApplicable
  | .unclear s => some (.withStatus undecided s)

end Abac
