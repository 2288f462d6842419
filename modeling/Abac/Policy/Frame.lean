import Abac.Combining.Algorithm
import Abac.Obligation
import Abac.Policy.Report

/-!
# Policies without their children

Policies and policy sets differ in their children and in what they check. A frame is what they have
in common. Two things are remembered between evaluations: the status of the last check, and how
many of the children the last combination saw. Children that are appended without notice stay
unseen until the frame is told to forget.
-/

namespace Abac

/-- A policy or policy set without its children. -/
structure Frame where
  id : Identifier
  version : Version
  description : Option String
  /-- The policy set that this was added to. -/
  parentId : Option String
  target : Target
  /-- How the results of the children are combined. -/
  algorithm : Option Algorithm
  /-- The parameters of the whole combination. -/
  parameters : List Parameter
  /-- The parameters that concern some of the children. -/
  childParameters : List TargetedParameter
  obligations : List ObligationExpression
  advice : List ObligationExpression
  /-- The status of the last check, or the one that was forced. -/
  checked : Option Status
  /-- How many children take part in combinations; all of them if nothing is remembered. -/
  seen : Option Nat

namespace Frame

/-- The frame that applies to every request and says nothing else. -/
def new (id : Identifier) : Frame :=
  ⟨id, .initial, none, none, .everything, none, [], [], [], [], none, none⟩

/-- The name of the node in traces. -/
def label (f : Frame) : String := nodeLabel f.parentId f.id.text

/-- The node by identifier and version. -/
def reference (f : Frame) : PolicyReference := ⟨f.id, f.version⟩

/-- The frame with nothing remembered. -/
def forget (f : Frame) : Frame := { f with checked := none, seen := none }

/-- The frame with another target. -/
def withTarget (t : Target) (f : Frame) : Frame := { f with target := t }

/-- The frame with another combining algorithm. -/
def withAlgorithm (a : Algorithm) (f : Frame) : Frame := { f.forget with algorithm := some a }

/-- The frame with one more parameter of the whole combination. -/
def withParameter (p : Parameter) (f : Frame) : Frame :=
  { f with parameters := f.parameters ++ [p] }

/-- The frame with one more parameter that concerns some of the children. -/
def withChildParameter (p : TargetedParameter) (f : Frame) : Frame :=
  { f.forget with childParameters := f.childParameters ++ [p] }

/-- The status of the node: the one kept, or that of a check. -/
def validate (f : Frame) (check : Status) : Status := f.checked.getD check

/-- The frame with a status kept. -/
def force (s : Status) (f : Frame) : Frame := { f with checked := some s }

/-- The frame without a status kept. -/
def recheck (f : Frame) : Frame := { f with checked := none }

/-- The children that take part in combinations. -/
def visible {α : Type} (f : Frame) (children : List α) : List α :=
  match f.seen with
  | some n => children.take n
  | none => children

/-- Whether an evaluation gets as far as combining the children. -/
def reachesChildren (f : Frame) (ctx : Context) (check : Status) : Bool :=
  (f.validate check).isOk && f.algorithm.isSome &&
    match f.target.evaluate ctx with
    | .ok .matched => true
    | _ => false

/-- The frame after the node was evaluated. -/
def evaluated (f : Frame) (ctx : Context) (check : Status) (count : Nat) : Frame :=
  { f with
    checked := some (f.validate check)
    seen := if f.reachesChildren ctx check then some (f.seen.getD count) else f.seen }

/-- Combine the children and attach obligations and advice. A final result is signed on demand. -/
def combine (f : Frame) (scope : Context) (children : List Child) (sign : Result → Result) :
    Run Result :=
  match f.algorithm with
  | none => Run.lift (.error (.noAlgorithm f.label))
  | some algorithm => do
    let combined ← algorithm.combine children f.parameters scope
    let attached ← Run.lift (combined.attach scope f.obligations f.advice)
    return if attached.decision.isFinal && scope.returnPolicyIds then sign attached else attached

/-- Evaluate a node with a status. Its children are evaluated in `scope`, and a final result is
signed by `sign` if policy identifiers are wanted. -/
def evaluate (f : Frame) (ctx scope : Context) (status : Status) (children : List Child)
    (sign : Result → Result) : Run Result :=
  if status.isOk then do
    let a ← f.target.check ctx f.label
    let r ← match a.early? .indeterminate with
      | some early => pure early
      | none => f.combine scope children sign
    announce ctx f.label r
  else announce ctx f.label (.indeterminate status)

end Frame

end Abac
