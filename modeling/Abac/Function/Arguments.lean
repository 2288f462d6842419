import Abac.Function.Complaint

/-!
# Taking arguments

Functions take their arguments one at a time, by position, and complain about the first one that is
not what they expect. `id` is the function that complains.
-/

namespace Abac

variable (id : Identifier)

/-- Check the number of arguments. -/
def checkArity (arity : Arity) (args : List Argument) : Except Halt Unit :=
  if arity.accepts args.length then .ok ()
  else complain id (.argumentCount arity args.length)

/-- An argument that must be a single value of a type; it stands at position `index`. -/
def takeValue (t : DataType) (index : Nat) : Option Argument → Except Halt Value
  | some (.value v) =>
    if v.dataType = t then .ok v else complain id (.dataType t v.dataType index)
  | some _ => complain id (.notSingle index)
  | none => complain id (.missing index)

/-- An argument that must be a bag of a type; it stands at position `index`. -/
def takeBag (t : DataType) (index : Nat) : Option Argument → Except Halt Bag
  | some (.bag b) => if b.dataType = t then .ok b else complain id (.dataType t b.dataType index)
  | some _ => complain id (.notBag index)
  | none => complain id (.missing index)

/-- The single value of a type at a position. -/
def valueAt (args : List Argument) (index : Nat) (t : DataType) : Except Halt Value :=
  takeValue id t index args[index]?

/-- The bag of a type at a position. -/
def bagAt (args : List Argument) (index : Nat) (t : DataType) : Except Halt Bag :=
  takeBag id t index args[index]?

/-- Arguments that must all be single values of a type; the first stands at position `index`. -/
def takeValues (t : DataType) : Nat → List Argument → Except Halt (List Value)
  | _, [] => .ok []
  | index, a :: rest =>
    match takeValue id t index (some a) with
    | .error h => .error h
    | .ok v => (takeValues t (index + 1) rest).map (v :: ·)

/-- Arguments that must all be bags of a type; the first stands at position `index`. -/
def takeBags (t : DataType) : Nat → List Argument → Except Halt (List Bag)
  | _, [] => .ok []
  | index, a :: rest =>
    match takeBag id t index (some a) with
    | .error h => .error h
    | .ok b => (takeBags t (index + 1) rest).map (b :: ·)

/-- Arguments that must all be truth values; the first stands at position `index`. -/
def takeBooleans (index : Nat) (args : List Argument) : Except Halt (List Bool) :=
  (takeValues id .boolean index args).map fun vs => vs.map fun v => v.bool?.getD false

/-- The result of a comparison of values, or the complaint about it. -/
def compared {α : Type} : Except CompareError α → Except Halt α
  | .ok a => .ok a
  | .error e => complain id (.incomparable e)

/-- Whether a list has a value equal to `v`. The first member that cannot be compared decides the
error, and no member after an equal one is looked at. -/
def hasEqual (v : Value) : List Value → Except Halt Bool
  | [] => .ok false
  | m :: rest =>
    match compared id (m.equals v) with
    | .error h => .error h
    | .ok true => .ok true
    | .ok false => hasEqual v rest

/-- Put a value into a bag that must be of its type. -/
def put (b : Bag) (v : Value) : Except Halt Bag :=
  match b.add v with
  | .ok b => .ok b
  | .error e => .error (.fault (.breach (.bagType e)))

/-- Put values into a bag that must be of their type, from first to last. -/
def putAll (b : Bag) : List Value → Except Halt Bag
  | [] => .ok b
  | v :: rest =>
    match put b v with
    | .error h => .error h
    | .ok b => putAll b rest

end Abac
