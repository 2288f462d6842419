import Abac.Expression.Eval
import Abac.Result

/-!
# Attaching obligations

A node of a policy tree has obligation and advice expressions, each for one effect. When the node
permits or denies, those for this effect are evaluated, obligations first, and added to its result.
If one of them has no value, the node cannot tell any more.
-/

namespace Abac

/-- An attribute with the expression for its values; a bag makes one assignment per value. -/
structure AssignmentExpression where
  attributeId : Identifier
  category : Option Identifier
  issuer : Option String
  expression : Expression

/-- An obligation whose assignments are yet to be evaluated. -/
structure ObligationExpression where
  id : Identifier
  /-- The effect that the obligation goes with. -/
  effect : Effect
  assignments : List AssignmentExpression

/-- The assignments that an expression makes. -/
def AssignmentExpression.eval (ctx : Context) (a : AssignmentExpression) :
    Except Halt (List Assignment) := do
  let o ← a.expression.eval ctx
  return o.values.map fun v => ⟨a.attributeId, a.category, a.issuer, v⟩

/-- The assignments that several expressions make. -/
def evalAssignments (ctx : Context) : List AssignmentExpression → Except Halt (List Assignment)
  | [] => .ok []
  | a :: rest => do
    let here ← a.eval ctx
    let later ← evalAssignments ctx rest
    return here ++ later

/-- The obligation that an expression makes. -/
def ObligationExpression.eval (ctx : Context) (o : ObligationExpression) :
    Except Halt Obligation := do
  return ⟨o.id, ← evalAssignments ctx o.assignments⟩

/-- The obligations that the expressions for an effect make. -/
def evalObligations (ctx : Context) (e : Effect) :
    List ObligationExpression → Except Halt (List Obligation)
  | [] => .ok []
  | o :: rest =>
    if o.effect = e then do
      let here ← o.eval ctx
      let later ← evalObligations ctx e rest
      return here :: later
    else evalObligations ctx e rest

/-- The result with the obligations and advice of a node. -/
def Result.attach (ctx : Context) (obligations advice : List ObligationExpression) (r : Result) :
    Except Fault Result :=
  match Effect.ofDecision? r.decision with
  | none => .ok r
  | some e =>
    let evaluated := do
      let os ← evalObligations ctx e obligations
      let as ← evalObligations ctx e advice
      return (os, as)
    match evaluated with
    | .ok (os, as) => .ok { r with obligations := r.obligations ++ os, advice := r.advice ++ as }
    | .error (.status s) => .ok (r.fail e.indeterminate s)
    | .error (.fault f) => .error f

end Abac
