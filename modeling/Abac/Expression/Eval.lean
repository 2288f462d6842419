import Abac.Context
import Abac.Function.Quantified

/-!
# Evaluating expressions

Arguments are evaluated from left to right, and the first that halts decides. A variable stands for
its definition, which is evaluated in the same scope. The meaning of variables is a parameter of
the evaluation of an expression; it unfolds definitions at most as often as there are any, since a
longer chain would go round in a circle.
-/

namespace Abac

/-- The answer of a source; its failure abandons the evaluation and its status halts it. -/
def usableAnswer : Except String LookupAnswer → Except Halt (List Attribute)
  | .error message => .error (.fault (.lookup message))
  | .ok answer =>
    if answer.status.isOk then .ok answer.attributes else .error (.status answer.status)

/-- The values of a type, from a list of attributes. -/
def valuesOfType (t : DataType) (attributes : List Attribute) : List Value :=
  (attributes.flatMap Attribute.values).filter fun v => v.dataType == t

/-- The status of a designator that found nothing and had to. -/
def Designator.missing (d : Designator) : Status :=
  .missingAttribute "Missing required attribute"
    ⟨d.category, d.attributeId, d.dataType.id, d.issuer⟩

/-- The status of a selector that found nothing and had to. -/
def Selector.missing (s : Selector) : Status :=
  .report .missingAttribute ("Selector path " ++ s.path ++ " matched nothing")

/-- Look up the values of a designator. -/
def Designator.eval (ctx : Context) (d : Designator) : Except Halt Outcome := do
  let attributes ← usableAnswer (ctx.lookup d.key)
  let values := valuesOfType d.dataType (attributes.filter fun a => a.isFor d.key)
  let bag ← putAll (.empty d.dataType) values
  if bag.isEmpty && d.mustBePresent then throw (.status d.missing)
  return .bag bag

/-- Look up the values of a selector. -/
def Selector.eval (ctx : Context) (s : Selector) : Except Halt Outcome := do
  let attributes ← usableAnswer (ctx.select s)
  let bag ← putAll (.empty s.dataType) (valuesOfType s.dataType attributes)
  if bag.isEmpty && s.mustBePresent then throw (.status s.missing)
  return .bag bag

/-- The status of a function that stands where a value is needed. -/
def notEvaluable (f : Function) : Status :=
  .processingError ("Function " ++ f.id.text ++ " cannot be evaluated outside an argument list")

/-- The status of a variable without definition. -/
def undefinedVariable (id : String) : Status := .processingError ("Undefined variable: " ++ id)

namespace Expression

mutual

/-- Evaluate an expression, with `meaning` for its variables. -/
def evalWith (ctx : Context) (meaning : String → Except Halt Outcome) :
    Expression → Except Halt Outcome
  | .literal v => .ok (.value v)
  | .designator d => d.eval ctx
  | .selector s => s.eval ctx
  | .apply f args =>
    match evalArguments ctx meaning args with
    | .error h => .error h
    | .ok args => f.apply args ctx.toSurroundings
  | .variable id => meaning id
  | .function f => .error (.status (notEvaluable f))

/-- Evaluate arguments; a function stands for itself among them. -/
def evalArguments (ctx : Context) (meaning : String → Except Halt Outcome) :
    List Expression → Except Halt (List Argument)
  | [] => .ok []
  | .function f :: rest => (evalArguments ctx meaning rest).map (.function f :: ·)
  | e :: rest =>
    match e.evalWith ctx meaning with
    | .error h => .error h
    | .ok o => (evalArguments ctx meaning rest).map (.ofOutcome o :: ·)

end

/-- The meaning of a variable when definitions may be unfolded a number of times. -/
def meaningWithin (ctx : Context) : Nat → String → Except Halt Outcome
  | unfoldings, id =>
    match ctx.definitions.find? id with
    | none => .error (.status (undefinedVariable id))
    | some e =>
      match unfoldings with
      | 0 => .error (.fault (.circularVariable id))
      | n + 1 => e.evalWith ctx (meaningWithin ctx n)

/-- Evaluate an expression. -/
def eval (ctx : Context) (e : Expression) : Except Halt Outcome :=
  e.evalWith ctx (meaningWithin ctx ctx.definitions.length)

end Expression

end Abac
