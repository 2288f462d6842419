import Abac.Surroundings

/-!
# Functions

The standard functions come in families: equality, operations on bags and on sets, comparisons,
logical connectives, pattern matching, and functions that apply other functions to the members of
bags. A function is known by its identifier and declares what it returns and how many arguments it
takes. Beside the standard functions there are extensions, which see functions among their
arguments only by name. What an extension answers may depend on the surroundings of the evaluation;
it does not resolve variables, and it records no events.
-/

namespace Abac

/-- How many arguments a function takes. -/
inductive Arity where
  | exactly (n : Nat)
  | atLeast (n : Nat)
  deriving DecidableEq, Repr

/-- Whether a number of arguments is acceptable. -/
def Arity.accepts : Arity → Nat → Bool
  | .exactly n, k => k == n
  | .atLeast n, k => n ≤ k

/-- An operation on a bag. -/
inductive BagOperation where
  /-- The only value of a bag. -/
  | oneAndOnly
  /-- The number of values. -/
  | bagSize
  /-- Whether a value is in a bag. -/
  | isIn
  /-- The bag of the arguments. -/
  | bag
  deriving DecidableEq, Repr

namespace BagOperation

/-- Every operation on bags. -/
def all : List BagOperation := [.oneAndOnly, .bagSize, .isIn, .bag]

/-- The end of the name of an operation. -/
def ending : BagOperation → String
  | .oneAndOnly => "one-and-only"
  | .bagSize => "bag-size"
  | .isIn => "is-in"
  | .bag => "bag"

end BagOperation

/-- An operation on bags as sets of distinct values. -/
inductive SetOperation where
  | intersection
  | atLeastOneMemberOf
  | union
  | subset
  | setEquals
  deriving DecidableEq, Repr

namespace SetOperation

/-- Every operation on sets. -/
def all : List SetOperation := [.intersection, .atLeastOneMemberOf, .union, .subset, .setEquals]

/-- The end of the name of an operation. -/
def ending : SetOperation → String
  | .intersection => "intersection"
  | .atLeastOneMemberOf => "at-least-one-member-of"
  | .union => "union"
  | .subset => "subset"
  | .setEquals => "set-equals"

/-- Whether the result is a set. -/
def returnsBag : SetOperation → Bool
  | .intersection | .union => true
  | _ => false

end SetOperation

/-- A comparison in the order of a type. -/
inductive Comparison where
  | greaterThan
  | greaterThanOrEqual
  | lessThan
  | lessThanOrEqual
  deriving DecidableEq, Repr

namespace Comparison

/-- Every comparison. -/
def all : List Comparison := [.greaterThan, .greaterThanOrEqual, .lessThan, .lessThanOrEqual]

/-- The end of the name of a comparison. -/
def ending : Comparison → String
  | .greaterThan => "greater-than"
  | .greaterThanOrEqual => "greater-than-or-equal"
  | .lessThan => "less-than"
  | .lessThanOrEqual => "less-than-or-equal"

/-- Whether a comparison holds of two values in this order. -/
def holds : Comparison → Ordering → Bool
  | .greaterThan, o => o == .gt
  | .greaterThanOrEqual, o => o != .lt
  | .lessThan, o => o == .lt
  | .lessThanOrEqual, o => o != .gt

end Comparison

/-- A logical connective. -/
inductive Connective where
  | and
  | or
  | not
  /-- At least a given number of the arguments after it are true. -/
  | nOf
  deriving DecidableEq, Repr

namespace Connective

/-- Every connective. -/
def all : List Connective := [.and, .or, .not, .nOf]

/-- The name of a connective. -/
def name : Connective → String
  | .and => "and"
  | .or => "or"
  | .not => "not"
  | .nOf => "n-of"

/-- How many arguments a connective takes. -/
def arity : Connective → Arity
  | .and | .or => .atLeast 0
  | .not => .exactly 1
  | .nOf => .atLeast 1

end Connective

/-- A way of applying a function to the members of bags. -/
inductive Quantifier where
  /-- For some member of the only bag. -/
  | anyOf
  /-- For every member of the only bag. -/
  | allOf
  /-- For some choice of a member of every bag. -/
  | anyOfAny
  /-- For every member of the first bag some member of the second. -/
  | allOfAny
  /-- For some member of the first bag every member of the second. -/
  | anyOfAll
  /-- For every pair of members. -/
  | allOfAll
  /-- The bag of the results. -/
  | map
  deriving DecidableEq, Repr

namespace Quantifier

/-- Every quantifier. -/
def all : List Quantifier := [.anyOf, .allOf, .anyOfAny, .allOfAny, .anyOfAll, .allOfAll, .map]

/-- The name of a quantifier. -/
def name : Quantifier → String
  | .anyOf => "any-of"
  | .allOf => "all-of"
  | .anyOfAny => "any-of-any"
  | .allOfAny => "all-of-any"
  | .anyOfAll => "any-of-all"
  | .allOfAll => "all-of-all"
  | .map => "map"

/-- The version under which a quantifier was published. -/
def version : Quantifier → String
  | .allOfAny | .anyOfAll | .allOfAll => "1.0"
  | _ => "3.0"

/-- How many arguments a quantifier takes, the function included. -/
def arity : Quantifier → Arity
  | .allOfAny | .anyOfAll | .allOfAll => .exactly 3
  | _ => .atLeast 2

end Quantifier

/-- A standard function. -/
inductive StandardFunction where
  /-- Equality of two values of a type. -/
  | equal (t : DataType)
  /-- Equality of two strings without regard to case. -/
  | equalIgnoringCase
  | bag (t : DataType) (op : BagOperation)
  | set (t : DataType) (op : SetOperation)
  | compare (t : DataType) (op : Comparison)
  /-- Whether a time of day lies between two others, past midnight if need be. -/
  | timeInRange
  | quantified (q : Quantifier)
  | logical (op : Connective)
  /-- Whether a pattern occurs in the text of a value. -/
  | patternMatch (t : DataType)
  | mailboxMatch
  | distinguishedNameMatch
  deriving DecidableEq, Repr

namespace StandardFunction

/-- The types with equality functions. -/
def comparableTypes : List DataType :=
  DataType.all.filter fun t => t != .ipAddress && t != .dnsName

/-- The types with an order. -/
def orderedTypes : List DataType := [.integer, .double, .string, .date, .time, .dateTime]

/-- The types whose text can be searched for a pattern. -/
def searchableTypes : List DataType :=
  [.string, .anyUri, .ipAddress, .dnsName, .rfc822Name, .x500Name]

/-- The equality, bag and set functions of a type. -/
def ofType (t : DataType) : List StandardFunction :=
  if t = .ipAddress ∨ t = .dnsName then BagOperation.all.map (.bag t)
  else .equal t :: BagOperation.all.map (.bag t) ++ SetOperation.all.map (.set t)

/-- Every standard function. -/
def all : List StandardFunction :=
  DataType.all.flatMap ofType ++ [.equalIgnoringCase] ++
    orderedTypes.flatMap (fun t => Comparison.all.map (.compare t)) ++ [.timeInRange] ++
    Quantifier.all.map .quantified ++ Connective.all.map .logical ++
    searchableTypes.map .patternMatch ++ [.mailboxMatch, .distinguishedNameMatch]

/-- The identifier of a standard function. -/
def id : StandardFunction → Identifier
  | .equal t => .function t.functionVersion (t.shortName ++ "-equal")
  | .equalIgnoringCase => .function "3.0" "string-equal-ignore-case"
  | .bag t op => .function t.functionVersion (t.shortName ++ "-" ++ op.ending)
  | .set t op => .function t.functionVersion (t.shortName ++ "-" ++ op.ending)
  | .compare t op => .function "1.0" (t.shortName ++ "-" ++ op.ending)
  | .timeInRange => .function "2.0" "time-in-range"
  | .quantified q => .function q.version q.name
  | .logical op => .function "1.0" op.name
  | .patternMatch t =>
    .function (if t = .string then "1.0" else "2.0") (t.shortName ++ "-regexp-match")
  | .mailboxMatch => .function "1.0" "rfc822Name-match"
  | .distinguishedNameMatch => .function "1.0" "x500Name-match"

/-- The type of the result; absent where it depends on the arguments. -/
def returnType : StandardFunction → Option DataType
  | .bag t .oneAndOnly => some t
  | .bag t .bag => some t
  | .bag _ .bagSize => some .integer
  | .set t op => some (if op.returnsBag then t else .boolean)
  | .quantified .map => none
  | _ => some .boolean

/-- Whether the result is a bag. -/
def returnsBag : StandardFunction → Bool
  | .bag _ op => op == .bag
  | .set _ op => op.returnsBag
  | .quantified q => q == .map
  | _ => false

/-- The type of all arguments or of the members of all bags, where they have one type. -/
def argumentType : StandardFunction → Option DataType
  | .equal t => some t
  | .equalIgnoringCase => some .string
  | .bag t _ => some t
  | .set t _ => some t
  | .compare t _ => some t
  | .timeInRange => some .time
  | .quantified _ => none
  | .logical .nOf => none
  | .logical _ => some .boolean
  | .patternMatch _ => none
  | .mailboxMatch => none
  | .distinguishedNameMatch => some .x500Name

/-- How many arguments a standard function takes. -/
def arity : StandardFunction → Arity
  | .bag _ .isIn => .exactly 2
  | .bag _ .bag => .atLeast 0
  | .bag _ _ => .exactly 1
  | .set _ .union => .atLeast 2
  | .timeInRange => .exactly 3
  | .quantified q => q.arity
  | .logical op => op.arity
  | _ => .exactly 2

end StandardFunction

/-- A function that is not among the standard ones. -/
structure Extension where
  id : Identifier
  returnType : Option DataType
  returnsBag : Bool
  argumentType : Option DataType
  arity : Arity
  /-- What the function does; functions among its arguments are given by name. -/
  apply : List (Operand Identifier) → Surroundings → Except Halt Outcome

/-- A function may do without its surroundings. -/
instance : Coe (List (Operand Identifier) → Except Halt Outcome)
    (List (Operand Identifier) → Surroundings → Except Halt Outcome) :=
  ⟨fun f args _ => f args⟩

/-- A function. -/
inductive Function where
  | standard (f : StandardFunction)
  | extension (e : Extension)

namespace Function

/-- The identifier of a function. -/
def id : Function → Identifier
  | .standard f => f.id
  | .extension e => e.id

/-- The type of the result; absent where it depends on the arguments. -/
def returnType : Function → Option DataType
  | .standard f => f.returnType
  | .extension e => e.returnType

/-- Whether the result is a bag. -/
def returnsBag : Function → Bool
  | .standard f => f.returnsBag
  | .extension e => e.returnsBag

/-- The type of all arguments, where they have one type. -/
def argumentType : Function → Option DataType
  | .standard f => f.argumentType
  | .extension e => e.argumentType

/-- How many arguments a function takes. -/
def arity : Function → Arity
  | .standard f => f.arity
  | .extension e => e.arity

end Function

/-- An argument of a function. -/
abbrev Argument := Operand Function

end Abac
