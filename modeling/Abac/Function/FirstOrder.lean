import Abac.Function.Sets
import Abac.Value.Text

/-!
# Functions of values and bags

The standard functions that take no function. Each takes all its arguments, and so complains about a
wrong one, before it computes anything from them.
-/

namespace Abac

variable (id : Identifier)

/-- Whether two values are equal, strings without regard to case if asked for. -/
def applyEqual (t : DataType) (args : List Argument) : Except Halt Outcome := do
  let a ← valueAt id args 0 t
  let b ← valueAt id args 1 t
  return .bool (← compared id (a.equals b))

/-- Whether two texts are the same in lower case. -/
def sameLower (a b : String) : Bool := Unicode.lower a.toList == Unicode.lower b.toList

/-- Whether two strings are equal without regard to case. -/
def applyEqualIgnoringCase (args : List Argument) : Except Halt Outcome := do
  let a ← valueAt id args 0 .string
  let b ← valueAt id args 1 .string
  match a, b with
  | .string a, .string b => return .bool (sameLower a b)
  | a, b => return .bool (← compared id (a.equals b))

/-- Apply a bag function. -/
def applyBag (t : DataType) (op : BagOperation) (args : List Argument) : Except Halt Outcome :=
  match op with
  | .oneAndOnly => do
    let b ← bagAt id args 0 t
    match b.single? with
    | some v => return .value v
    | none => complain id (.notSingleton b.size)
  | .bagSize => do
    let b ← bagAt id args 0 t
    if b.size < 0x8000000000000000 then return .value (.integer (Int64.ofNat b.size))
    else complain id .sizeOutOfRange
  | .isIn => do
    let v ← valueAt id args 0 t
    let b ← bagAt id args 1 t
    return .bool (← hasEqual id v b.values)
  | .bag => do
    let vs ← takeValues id t 0 args
    return .bag (← putAll (.empty t) vs)

/-- Whether two values stand in an order. -/
def applyComparison (t : DataType) (op : Comparison) (args : List Argument) :
    Except Halt Outcome := do
  let a ← valueAt id args 0 t
  let b ← valueAt id args 1 t
  return .bool (op.holds (← compared id (a.compare b)))

/-- Whether a time of day lies in a range, which goes past midnight if its upper bound is earlier
than its lower one. -/
def applyTimeInRange (args : List Argument) : Except Halt Outcome := do
  let t ← valueAt id args 0 .time
  let lower ← valueAt id args 1 .time
  let upper ← valueAt id args 2 .time
  let afterLower := (← compared id (t.compare lower)) != .lt
  let beforeUpper := (← compared id (t.compare upper)) != .gt
  let wraps := (← compared id (lower.compare upper)) == .gt
  return .bool (if wraps then afterLower || beforeUpper else afterLower && beforeUpper)

/-- Whether at least a given number of arguments are true. -/
def applyNOf (args : List Argument) : Except Halt Outcome := do
  let required := (← valueAt id args 0 .integer).integer?.getD 0
  match args with
  | [] => throw (.fault (.breach .missingArgument))
  | _ :: rest =>
    if required < 0 then complain id (.negativeCount required)
    else if required.toInt > rest.length then
      complain id (.countTooLarge required rest.length)
    else
      let bs ← takeBooleans id 1 rest
      return .bool (required.toInt ≤ (bs.filter (· == true)).length)

/-- Apply a logical connective. -/
def applyConnective (op : Connective) (args : List Argument) : Except Halt Outcome :=
  match op with
  | .and => (takeBooleans id 0 args).map fun bs => .bool (bs.all (· == true))
  | .or => (takeBooleans id 0 args).map fun bs => .bool (bs.any (· == true))
  | .not => do
    let v ← valueAt id args 0 .boolean
    return .bool !(v.bool?.getD false)
  | .nOf => applyNOf id args

/-- The pattern and the text of a call of a pattern matching function. -/
def patternArguments (t : DataType) (args : List Argument) : Except Halt (String × String) := do
  let pattern ← valueAt id args 0 .string
  let v ← valueAt id args 1 t
  return (pattern.text?.getD "", v.render)

/-- The answer of a pattern matching function, given how to search for the pattern or why it cannot
be read. -/
def patternAnswer (text : String) : Except String (String → Bool) → Except Halt Outcome
  | .ok occursIn => .ok (.bool (occursIn text))
  | .error reason => complain id (.pattern reason)

/-- Whether a pattern occurs in the text of a value. -/
def applyPatternMatch (patterns : PatternReader) (t : DataType) (args : List Argument) :
    Except Halt Outcome := do
  let (pattern, text) ← patternArguments id t args
  patternAnswer id text (patterns pattern)

/-- Whether a pattern matches a mailbox. -/
def applyMailboxMatch (args : List Argument) : Except Halt Outcome := do
  let pattern ← valueAt id args 0 .string
  match ← valueAt id args 1 .rfc822Name with
  | .rfc822Name m => return .bool (m.matchesPattern (pattern.text?.getD "").toList)
  | _ => throw (.fault (.breach .missingArgument))

/-- Whether the second name ends in the relative names of the first. -/
def applyDistinguishedNameMatch (args : List Argument) : Except Halt Outcome := do
  let ending ← valueAt id args 0 .x500Name
  let name ← valueAt id args 1 .x500Name
  match ending, name with
  | .x500Name e, .x500Name n => return .bool (n.endsWith e)
  | _, _ => throw (.fault (.breach .missingArgument))

/-- Apply a standard function that takes no function. -/
def StandardFunction.applyFirstOrder (f : StandardFunction) (patterns : PatternReader)
    (args : List Argument) : Except Halt Outcome :=
  match f with
  | .equal t => applyEqual f.id t args
  | .equalIgnoringCase => applyEqualIgnoringCase f.id args
  | .bag t op => applyBag f.id t op args
  | .set t op => do applySet f.id t op (← takeBags f.id t 0 args)
  | .compare t op => applyComparison f.id t op args
  | .timeInRange => applyTimeInRange f.id args
  | .quantified _ => .error (.fault (.breach .nesting))
  | .logical op => applyConnective f.id op args
  | .patternMatch t => applyPatternMatch f.id patterns t args
  | .mailboxMatch => applyMailboxMatch f.id args
  | .distinguishedNameMatch => applyDistinguishedNameMatch f.id args

end Abac
