import Abac.Function.FirstOrder

/-!
# Functions that apply functions

The first argument of a quantified function is the function that it applies. Some quantifiers take
single values and exactly one bag besides, in any positions, and put the members of the bag into its
place one at a time; others take two bags, or any values and bags.

A quantified function may be the one that another applies, but each time there is one argument less:
the function itself is not passed on. So the number of arguments bounds how deeply such calls nest,
and `apply` needs no more levels than that.
-/

namespace Abac

/-- The application of functions that a quantified function is given. -/
abbrev Apply := Function → List Argument → Except Halt Outcome

variable (inner : Apply) (id : Identifier)

/-- The truth value of a function at some arguments. -/
def test (f : Function) (args : List Argument) : Except Halt Bool :=
  match inner f args with
  | .error h => .error h
  | .ok (.value (.boolean b)) => .ok b
  | .ok _ => complain id (.notBooleanResult f.id.shortName)

/-- The bags among arguments, each with its position; the first argument stands at `position`. -/
def bagPlaces (position : Nat) : List Argument → List (Nat × Bag)
  | [] => []
  | .bag b :: rest => (position, b) :: bagPlaces (position + 1) rest
  | _ :: rest => bagPlaces (position + 1) rest

/-- Replace the argument at a position, where there must be one. -/
def replaceAt (args : List Argument) (position : Nat) (a : Argument) :
    Except Halt (List Argument) :=
  if position < args.length then .ok (args.set position a)
  else .error (.fault (.breach .missingArgument))

/-- The argument lists with each of some values at a position. -/
def replaceWithEach (args : List Argument) (position : Nat) :
    List Value → Except Halt (List (List Argument))
  | [] => .ok []
  | v :: rest =>
    match replaceAt args position (.value v) with
    | .error h => .error h
    | .ok call => (replaceWithEach args position rest).map (call :: ·)

/-- The argument lists with each member of the only bag in its place. -/
def substitutions (args : List Argument) : Except Halt (List (List Argument)) :=
  match bagPlaces 0 args with
  | [(position, b)] => replaceWithEach args position b.values
  | places => complain id (.bagCount places.length)

/-- Whether a function is true of some of the argument lists; none after it is tried. -/
def testAny (f : Function) : List (List Argument) → Except Halt Bool
  | [] => .ok false
  | call :: rest =>
    match test inner id f call with
    | .error h => .error h
    | .ok true => .ok true
    | .ok false => testAny f rest

/-- Whether a function is true of all of the argument lists; none after a false one is tried. -/
def testAll (f : Function) : List (List Argument) → Except Halt Bool
  | [] => .ok true
  | call :: rest =>
    match test inner id f call with
    | .error h => .error h
    | .ok false => .ok false
    | .ok true => testAll f rest

/-- Whether some of the choices leads to a true result; none after it is tried. -/
def anyMember (found : Value → Except Halt Bool) : List Value → Except Halt Bool
  | [] => .ok false
  | v :: rest =>
    match found v with
    | .error h => .error h
    | .ok true => .ok true
    | .ok false => anyMember found rest

/-- Whether a function is true of some choice of a member of every bag; `chosen` are the arguments
before those that are left, the first of which stands at position `index`. -/
def testChoices (f : Function) : Nat → List Argument → List Argument → Except Halt Bool
  | _, chosen, [] => test inner id f chosen
  | index, chosen, .value v :: rest =>
    anyMember (fun w => testChoices f (index + 1) (chosen ++ [.value w]) rest) [v]
  | index, chosen, .bag b :: rest =>
    anyMember (fun w => testChoices f (index + 1) (chosen ++ [.value w]) rest) b.values
  | index, _, .function _ :: _ => complain id (.notData index)

/-- Whether a function is true of a value with some and with all of other values. All of them are
tried. -/
def testAgainst (f : Function) (a : Value) : List Value → Except Halt (Bool × Bool)
  | [] => .ok (false, true)
  | b :: rest =>
    match test inner id f [.value a, .value b] with
    | .error h => .error h
    | .ok t =>
      match testAgainst f a rest with
      | .error h => .error h
      | .ok (any, all) => .ok (t || any, t && all)

/-- The answer of a pairwise quantifier, given what holds of one value of the first bag, if that
settles it. -/
def Quantifier.settled (q : Quantifier) (any all : Bool) : Option Bool :=
  match q with
  | .allOfAny => if any then none else some false
  | .anyOfAll => if all then some true else none
  | .allOfAll => if all then none else some false
  | _ => none

/-- Whether a function is true of the pairs of two bags that a quantifier asks for. -/
def testPairs (q : Quantifier) (f : Function) (right : List Value) : List Value → Except Halt Bool
  | [] => .ok (q != .anyOfAll)
  | a :: rest =>
    match testAgainst inner id f a right with
    | .error h => .error h
    | .ok (any, all) =>
      match q.settled any all with
      | some answer => .ok answer
      | none => testPairs q f right rest

/-- The single results of a function at several argument lists. -/
def results (f : Function) : List (List Argument) → Except Halt (List Value)
  | [] => .ok []
  | call :: rest =>
    match inner f call with
    | .error h => .error h
    | .ok (.value v) => (results f rest).map (v :: ·)
    | .ok (.bag _) => complain id (.notSingleResult f.id.shortName)

/-- The bag of the results of a function. Its type is that of the first result; without any, the one
that the function declares. -/
def mapMembers (f : Function) (args : List Argument) : Except Halt Outcome := do
  let vs ← results inner id f (← substitutions id args)
  let t := ((vs.head?.map Value.dataType).orElse fun _ => f.returnType).getD .string
  match Bag.ofValues t vs with
  | .ok b => return .bag b
  | .error e => complain id (.mixedResults e)

/-- A bag of any type at a position of the arguments after the function. -/
def anyBagAt (args : List Argument) (index : Nat) : Except Halt Bag :=
  match args[index]? with
  | some (.bag b) => .ok b
  | _ => complain id (.notBag (index + 1))

/-- Apply a quantified function to its arguments after the function it applies. -/
def applyQuantifier (q : Quantifier) (f : Function) (args : List Argument) : Except Halt Outcome :=
  match q with
  | .anyOf => do return .bool (← testAny inner id f (← substitutions id args))
  | .allOf => do return .bool (← testAll inner id f (← substitutions id args))
  | .anyOfAny => (testChoices inner id f 1 [] args).map .bool
  | .map => mapMembers inner id f args
  | _ => do
    let left ← anyBagAt id args 0
    let right ← anyBagAt id args 1
    return .bool (← testPairs inner id q f right.values left.values)

/-- The function that a quantified function applies. -/
def functionAt (args : List Argument) : Except Halt Function :=
  match args.head? with
  | some (.function g) => .ok g
  | _ => complain id .notFunction

/-- The arguments after the first, which must be there. -/
def afterFirst : List Argument → Except Halt (List Argument)
  | [] => .error (.fault (.breach .missingArgument))
  | _ :: rest => .ok rest

/-- Apply a function, with `inner` for the functions that it applies itself. -/
def applyWith (env : Surroundings) (inner : Apply) : Apply
  | .extension e, args => e.apply (args.map (Operand.map Function.id)) env
  | .standard f, args => do
    checkArity f.id f.arity args
    match f with
    | .quantified q => do
      let g ← functionAt f.id args
      applyQuantifier inner f.id q g (← afterFirst args)
    | _ => f.applyFirstOrder env.patterns args

/-- Apply a function in which quantified functions nest at most a number of times. -/
def applyNested (env : Surroundings) : Nat → Apply
  | 0 => applyWith env fun _ _ => .error (.fault (.breach .nesting))
  | depth + 1 => applyWith env (applyNested env depth)

/-- Apply a function in some surroundings. -/
def Function.apply (f : Function) (args : List Argument) (env : Surroundings) :
    Except Halt Outcome :=
  applyNested env args.length f args

end Abac
