import Abac.Expression.Eval

/-!
# Targets

A target says to which requests a rule or policy applies. It is a conjunction of disjunctions of
conjunctions of matches; a match holds if its function is true of its literal and some value of its
expression. Each part matches, does not match, or is unclear with a status. Parts are looked at from
left to right until one settles the question, and the first unclear part gives the status.
-/

namespace Abac

/-- Whether a target applies. -/
inductive Applicability where
  | matched
  | unmatched
  | unclear (s : Status)
  deriving DecidableEq, Repr

namespace Applicability

/-- Whether the target applies for certain. -/
def isMatched : Applicability → Bool
  | .matched => true
  | _ => false

/-- The answer `base` if nothing was unclear. -/
def orUnclear (base : Applicability) : Option Status → Applicability
  | none => base
  | some s => .unclear s

/-- The text of an answer, as traces show it. -/
def render : Applicability → String
  | .matched => "Match"
  | .unmatched => "NoMatch"
  | .unclear s => "Indeterminate: " ++ s.render

/-- Whether all parts apply. The first status that was met is `first`. -/
def allFrom {α : Type} (test : α → Except Fault Applicability) (first : Option Status) :
    List α → Except Fault Applicability
  | [] => .ok (orUnclear .matched first)
  | a :: rest =>
    match test a with
    | .error f => .error f
    | .ok .matched => allFrom test first rest
    | .ok .unmatched => .ok .unmatched
    | .ok (.unclear s) => allFrom test (first.or (some s)) rest

/-- Whether all parts apply. -/
def all {α : Type} (test : α → Except Fault Applicability) (parts : List α) :
    Except Fault Applicability :=
  allFrom test none parts

/-- Whether some part applies. The first status that was met is `first`. -/
def anyFrom {α : Type} (test : α → Except Fault Applicability) (first : Option Status) :
    List α → Except Fault Applicability
  | [] => .ok (orUnclear .unmatched first)
  | a :: rest =>
    match test a with
    | .error f => .error f
    | .ok .matched => .ok .matched
    | .ok .unmatched => anyFrom test first rest
    | .ok (.unclear s) => anyFrom test (first.or (some s)) rest

/-- Whether some part applies. -/
def any {α : Type} (test : α → Except Fault Applicability) (parts : List α) :
    Except Fault Applicability :=
  anyFrom test none parts

end Applicability

/-- A comparison of a literal with the values of an expression. -/
structure Match where
  function : Function
  value : Value
  expression : Expression

namespace Match

/-- The status of a function that is no predicate. -/
def notBoolean (f : Function) : Status :=
  .processingError ("Match function " ++ f.id.text ++ " did not return a boolean")

/-- Whether the function is true of the literal and a value. -/
def holdsOf (m : Match) (env : Surroundings) (v : Value) : Except Fault Applicability :=
  match m.function.apply [.value m.value, .value v] env with
  | .ok (.value (.boolean true)) => .ok .matched
  | .ok (.value (.boolean false)) => .ok .unmatched
  | .ok _ => .ok (.unclear (notBoolean m.function))
  | .error (.status s) => .ok (.unclear s)
  | .error (.fault f) => .error f

/-- Whether a match applies. -/
def evaluate (ctx : Context) (m : Match) : Except Fault Applicability :=
  match m.expression.eval ctx with
  | .ok o => Applicability.any (m.holdsOf ctx.toSurroundings) o.values
  | .error (.status s) => .ok (.unclear s)
  | .error (.fault f) => .error f

end Match

/-- A conjunction of matches. -/
structure AllOf where
  items : List Match

/-- A disjunction of conjunctions of matches. -/
structure AnyOf where
  items : List AllOf

/-- A conjunction of such disjunctions. The empty one applies to every request. -/
structure Target where
  items : List AnyOf

/-- Whether a conjunction applies. -/
def AllOf.evaluate (ctx : Context) (a : AllOf) : Except Fault Applicability :=
  Applicability.all (Match.evaluate ctx) a.items

/-- Whether a disjunction applies. -/
def AnyOf.evaluate (ctx : Context) (a : AnyOf) : Except Fault Applicability :=
  Applicability.any (AllOf.evaluate ctx) a.items

namespace Target

/-- The target that applies to every request. -/
def everything : Target := ⟨[]⟩

/-- Whether a target has no parts. -/
def isEmpty (t : Target) : Bool := t.items.isEmpty

/-- Whether a target applies. -/
def evaluate (ctx : Context) (t : Target) : Except Fault Applicability :=
  Applicability.all (AnyOf.evaluate ctx) t.items

end Target

end Abac
