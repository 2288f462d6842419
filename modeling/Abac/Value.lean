import Abac.DataType
import Abac.Double
import Abac.Temporal.Zoned
import Abac.Temporal.Duration
import Abac.Name.Mailbox
import Abac.Name.Distinguished
import Abac.Network.Endpoint

/-!
# Attribute values

A value of one of the sixteen data types, with its two equalities and its order. Two values are the
same when they are of one type and have the same parts. They are equal in the sense of functions
when they denote the same thing: for dates and times, the same instant. Six types have an order.
-/

namespace Abac

/-- An attribute value. -/
inductive Value where
  | string (s : String)
  | boolean (b : Bool)
  | integer (i : Int64)
  | double (d : Double)
  | date (d : Date)
  | time (t : Time)
  | dateTime (d : DateTime)
  | dayTimeDuration (d : DayTimeDuration)
  | yearMonthDuration (d : YearMonthDuration)
  | anyUri (s : String)
  | hexBinary (bytes : List UInt8)
  | base64Binary (bytes : List UInt8)
  | rfc822Name (m : Mailbox)
  | x500Name (n : DistinguishedName)
  | ipAddress (e : IpEndpoint)
  | dnsName (e : HostEndpoint)
  deriving Repr

instance : Inhabited Value := ⟨.boolean false⟩

/-- Why two values cannot be compared. -/
inductive CompareError where
  /-- They are of two types. -/
  | typeMismatch (expected actual : DataType)
  /-- Their type has no order. -/
  | unordered (actual : DataType)
  /-- Only one of them has a time zone. -/
  | zoneMismatch
  deriving DecidableEq, Repr

/-- The wording of a compare error. -/
def CompareError.message : CompareError → String
  | .typeMismatch expected actual =>
    "Data type mismatch: expected " ++ expected.shortName ++ ", got " ++ actual.shortName
  | .unordered actual =>
    "Data type mismatch: expected an ordered data type, got " ++ actual.shortName
  | .zoneMismatch =>
    "Cannot compare this ISO8601DateTime with non-time-zoned ISO8601DateTime"

namespace Value

/-- The data type of a value. -/
def dataType : Value → DataType
  | .string _ => .string
  | .boolean _ => .boolean
  | .integer _ => .integer
  | .double _ => .double
  | .date _ => .date
  | .time _ => .time
  | .dateTime _ => .dateTime
  | .dayTimeDuration _ => .dayTimeDuration
  | .yearMonthDuration _ => .yearMonthDuration
  | .anyUri _ => .anyUri
  | .hexBinary _ => .hexBinary
  | .base64Binary _ => .base64Binary
  | .rfc822Name _ => .rfc822Name
  | .x500Name _ => .x500Name
  | .ipAddress _ => .ipAddress
  | .dnsName _ => .dnsName

/-- The truth value, if the value is one. -/
def bool? : Value → Option Bool
  | .boolean b => some b
  | _ => none

/-- The integer, if the value is one. -/
def integer? : Value → Option Int64
  | .integer i => some i
  | _ => none

/-- The text of a string or a URI. -/
def text? : Value → Option String
  | .string s => some s
  | .anyUri s => some s
  | _ => none

/-- Whether two values have the same type and the same parts. -/
def same : Value → Value → Bool
  | .string a, .string b => a == b
  | .boolean a, .boolean b => a == b
  | .integer a, .integer b => a == b
  | .double a, .double b => a.cmp b == .eq
  | .date a, .date b => a == b
  | .time a, .time b => a == b
  | .dateTime a, .dateTime b => a == b
  | .dayTimeDuration a, .dayTimeDuration b => a == b
  | .yearMonthDuration a, .yearMonthDuration b => a == b
  | .anyUri a, .anyUri b => a == b
  | .hexBinary a, .hexBinary b => a == b
  | .base64Binary a, .base64Binary b => a == b
  | .rfc822Name a, .rfc822Name b => a == b
  | .x500Name a, .x500Name b => a == b
  | .ipAddress a, .ipAddress b => a == b
  | .dnsName a, .dnsName b => a == b
  | _, _ => false

instance : BEq Value := ⟨same⟩

/-- An order that may be missing because only one value has a time zone. -/
def ofZoned : Option Ordering → Except CompareError Ordering
  | some o => .ok o
  | none => .error .zoneMismatch

/-- The order of two values of one of the six ordered types. -/
def compare : Value → Value → Except CompareError Ordering
  | .integer a, .integer b => .ok (Ord.compare a.toInt b.toInt)
  | .double a, .double b => .ok (a.cmp b)
  | .string a, .string b => .ok (Ord.compare a b)
  | .date a, .date b => ofZoned (Date.cmp? a b)
  | .time a, .time b => ofZoned (Time.cmp? a b)
  | .dateTime a, .dateTime b => ofZoned (DateTime.cmp? a b)
  | a, b =>
    if a.dataType = b.dataType then .error (.unordered a.dataType)
    else .error (.typeMismatch a.dataType b.dataType)

/-- Whether the values of a type are points of the time line. -/
def isTemporal : Value → Bool
  | .date _ => true
  | .time _ => true
  | .dateTime _ => true
  | _ => false

/-- Whether two values of one type are equal in the sense of the equality functions. -/
def equals (a b : Value) : Except CompareError Bool :=
  if a.dataType = b.dataType then
    if a.isTemporal then (a.compare b).map (· == .eq) else .ok (a.same b)
  else .error (.typeMismatch a.dataType b.dataType)

end Value

end Abac
