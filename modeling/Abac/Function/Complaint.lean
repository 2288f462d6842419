import Abac.Function

/-!
# What functions complain about

A function that cannot compute a result halts with a processing error, whose message opens with the
function's short name.
-/

namespace Abac

/-- Why a function has no result. -/
inductive Complaint where
  /-- The number of arguments is not the one expected. -/
  | argumentCount (arity : Arity) (actual : Nat)
  | dataType (expected actual : DataType) (index : Nat)
  | notSingle (index : Nat)
  | notBag (index : Nat)
  | missing (index : Nat)
  | notFunction
  | notData (index : Nat)
  | bagCount (actual : Nat)
  | notSingleton (size : Nat)
  | sizeOutOfRange
  | negativeCount (n : Int64)
  | countTooLarge (n : Int64) (available : Nat)
  | incomparable (e : CompareError)
  /-- A pattern cannot be read, with the reason. -/
  | pattern (reason : String)
  | notBooleanResult (function : String)
  | notSingleResult (function : String)
  | mixedResults (e : BagMismatch)
  deriving DecidableEq, Repr

namespace Complaint

/-- The decimal digits of a number. -/
def number (n : Nat) : String := String.ofList (Text.digits n)

/-- The decimal text of an integer. -/
def integer (n : Int64) : String := String.ofList (Text.signedDigits n.toInt)

/-- The wording of a complaint. -/
def message : Complaint → String
  | .argumentCount (.exactly n) k =>
    "Expected " ++ number n ++ " arguments, got " ++ number k
  | .argumentCount (.atLeast n) k =>
    "Expected at least " ++ number n ++ " arguments, got " ++ number k
  | .dataType expected actual index =>
    "Expected data type '" ++ expected.shortName ++ "' saw '" ++ actual.shortName ++
      "' at arg index " ++ number index
  | .notSingle index => "Expected a single value at arg index " ++ number index
  | .notBag index => "Expected a bag at arg index " ++ number index
  | .missing index => "Missing argument at arg index " ++ number index
  | .notFunction => "Expected a function at arg index 0"
  | .notData index => "Expected a value or bag at arg index " ++ number index
  | .bagCount actual => "Expected exactly one bag argument, got " ++ number actual
  | .notSingleton size => "Expected a bag with a single value, got " ++ number size
  | .sizeOutOfRange => "Bag size out of range"
  | .negativeCount n => "Negative count " ++ integer n
  | .countTooLarge n available =>
    "Count " ++ integer n ++ " exceeds the " ++ number available ++ " remaining arguments"
  | .incomparable e => e.message
  | .pattern reason => "Invalid regular expression: " ++ reason
  | .notBooleanResult function => "Expected a boolean result from " ++ function
  | .notSingleResult function => "Expected a single value from " ++ function
  | .mixedResults e => e.message

/-- The status of a complaint of a function. -/
def status (id : Identifier) (c : Complaint) : Status :=
  (Status.processingError c.message).under ("function:" ++ id.shortName)

end Complaint

/-- Halt with a complaint of the function `id`. -/
def complain {α : Type} (id : Identifier) (c : Complaint) : Except Halt α :=
  .error (.status (c.status id))

end Abac
