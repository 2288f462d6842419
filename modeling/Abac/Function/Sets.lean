import Abac.Function.Arguments

/-!
# Bags as sets

The set functions treat bags as sets: two values count once if they are equal in the sense of the
equality functions. A result lists its values in the order in which they first occur.
-/

namespace Abac

variable (id : Identifier)

/-- Whether every value of a list has an equal in another one. -/
def allHaveEqual (other : List Value) : List Value → Except Halt Bool
  | [] => .ok true
  | v :: rest =>
    match hasEqual id v other with
    | .error h => .error h
    | .ok false => .ok false
    | .ok true => allHaveEqual other rest

/-- Whether some value of a list has an equal in another one. -/
def someHasEqual (other : List Value) : List Value → Except Halt Bool
  | [] => .ok false
  | v :: rest =>
    match hasEqual id v other with
    | .error h => .error h
    | .ok true => .ok true
    | .ok false => someHasEqual other rest

/-- Put those values into a bag that have no equal in it yet. -/
def putDistinct (b : Bag) : List Value → Except Halt Bag
  | [] => .ok b
  | v :: rest =>
    match hasEqual id v b.values with
    | .error h => .error h
    | .ok true => putDistinct b rest
    | .ok false =>
      match put b v with
      | .error h => .error h
      | .ok b => putDistinct b rest

/-- Put those values into a bag that have an equal in `other` and none in the bag yet. -/
def putShared (other : List Value) (b : Bag) : List Value → Except Halt Bag
  | [] => .ok b
  | v :: rest =>
    match hasEqual id v other with
    | .error h => .error h
    | .ok false => putShared other b rest
    | .ok true =>
      match hasEqual id v b.values with
      | .error h => .error h
      | .ok true => putShared other b rest
      | .ok false =>
        match put b v with
        | .error h => .error h
        | .ok b => putShared other b rest

/-- Put the distinct values of several bags into one. -/
def putAllDistinct (b : Bag) : List Bag → Except Halt Bag
  | [] => .ok b
  | c :: rest =>
    match putDistinct id b c.values with
    | .error h => .error h
    | .ok b => putAllDistinct b rest

/-- Apply a set function to its bags. Only the union has more than two. -/
def applySet (t : DataType) (op : SetOperation) (bags : List Bag) : Except Halt Outcome :=
  match bags with
  | left :: right :: _ =>
    match op with
    | .intersection => (putShared id right.values (.empty t) left.values).map .bag
    | .atLeastOneMemberOf => (someHasEqual id right.values left.values).map .bool
    | .union => (putAllDistinct id (.empty t) bags).map .bag
    | .subset => (allHaveEqual id right.values left.values).map .bool
    | .setEquals => do
      if ← allHaveEqual id right.values left.values then
        return .bool (← allHaveEqual id left.values right.values)
      else return .bool false
  | _ => .error (.fault (.breach .missingArgument))

end Abac
