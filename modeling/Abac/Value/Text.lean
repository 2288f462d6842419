import Abac.Value
import Abac.Double.Reader
import Abac.Double.Printer
import Abac.Text.Blank
import Abac.Text.Hex
import Abac.Text.Base64

/-!
# The text of values

Every value is read from a text under its data type and written in one canonical form.
-/

namespace Abac

/-- Why a text has no value of a type. -/
inductive ReadCause where
  | notBoolean
  | integer (e : Text.NumeralError)
  | double (e : Double.ReadError)
  | temporal (e : Temporal.ReadError)
  | duration (e : Temporal.DurationError)
  | blankInUri
  | hex (e : Text.Hex.Error)
  | base64 (e : Text.Base64.Error)
  | mailbox (e : Mailbox.ReadError)
  | distinguishedName (e : DistinguishedName.ReadError)
  | address (e : IpEndpoint.ReadError)
  | host (e : HostEndpoint.ReadError)
  deriving DecidableEq, Repr

/-- The wording of a cause. -/
def ReadCause.message : ReadCause → String
  | .notBoolean => "expected true or false"
  | .integer e => e.message
  | .double e => e.message
  | .temporal e => e.message
  | .duration e => e.message
  | .blankInUri => "whitespace in URI"
  | .hex e => e.message
  | .base64 e => e.message
  | .mailbox e => e.message
  | .distinguishedName e => e.message
  | .address e => e.message
  | .host e => e.message

/-- A text that could not be read as a value of a type. -/
structure ConversionError where
  dataType : DataType
  text : String
  cause : ReadCause
  deriving DecidableEq, Repr

/-- The wording of a conversion error. -/
def ConversionError.message (e : ConversionError) : String :=
  "Cannot convert \"" ++ e.text ++ "\" to " ++ e.dataType.shortName ++ ": " ++ e.cause.message

namespace Value

/-- A truth value: one of two words or one of two digits. -/
def readBoolean (s : List Char) : Except ReadCause Bool :=
  if s = ['t', 'r', 'u', 'e'] ∨ s = ['1'] then .ok true
  else if s = ['f', 'a', 'l', 's', 'e'] ∨ s = ['0'] then .ok false
  else .error .notBoolean

/-- A 64-bit integer. -/
def readInteger (s : List Char) : Except ReadCause Int64 :=
  match Text.readSigned 0x8000000000000000 0x7FFFFFFFFFFFFFFF s with
  | .ok i => .ok (Int64.ofInt i)
  | .error e => .error (.integer e)

/-- A URI is any text without blanks. -/
def readUri (s : List Char) : Except ReadCause String :=
  if s.any Text.isBlank then .error .blankInUri else .ok (String.ofList s)

/-- Read the characters of a text as a value of a type. -/
def readAs (t : DataType) (s : List Char) : Except ReadCause Value :=
  match t with
  | .string => .ok (.string (String.ofList s))
  | .boolean => (readBoolean s).map .boolean
  | .integer => (readInteger s).map .integer
  | .double => ((Double.read s).mapError .double).map .double
  | .date => ((Date.read s).mapError .temporal).map .date
  | .time => ((Time.read s).mapError .temporal).map .time
  | .dateTime => ((DateTime.read s).mapError .temporal).map .dateTime
  | .dayTimeDuration => ((DayTimeDuration.read s).mapError .duration).map .dayTimeDuration
  | .yearMonthDuration => ((YearMonthDuration.read s).mapError .duration).map .yearMonthDuration
  | .anyUri => (readUri s).map .anyUri
  | .hexBinary => ((Text.Hex.decode s).mapError .hex).map .hexBinary
  | .base64Binary => ((Text.Base64.decode s).mapError .base64).map .base64Binary
  | .rfc822Name => ((Mailbox.read s).mapError .mailbox).map .rfc822Name
  | .x500Name => ((DistinguishedName.read s).mapError .distinguishedName).map .x500Name
  | .ipAddress => ((IpEndpoint.read s).mapError .address).map .ipAddress
  | .dnsName => ((HostEndpoint.read s).mapError .host).map .dnsName

/-- Read a text as a value of a type. -/
def read (t : DataType) (text : String) : Except ConversionError Value :=
  (readAs t text.toList).mapError fun cause => ⟨t, text, cause⟩

/-- The characters of the canonical text of a value. -/
def chars : Value → List Char
  | .string s => s.toList
  | .boolean true => ['t', 'r', 'u', 'e']
  | .boolean false => ['f', 'a', 'l', 's', 'e']
  | .integer i => Text.signedDigits i.toInt
  | .double d => d.render
  | .date d => Date.render d
  | .time t => Time.render t
  | .dateTime d => DateTime.render d
  | .dayTimeDuration d => d.render
  | .yearMonthDuration d => d.render
  | .anyUri s => s.toList
  | .hexBinary bytes => Text.Hex.encode bytes
  | .base64Binary bytes => Text.Base64.encode bytes
  | .rfc822Name m => m.render
  | .x500Name n => n.render
  | .ipAddress e => e.render
  | .dnsName e => e.render

/-- The canonical text of a value. -/
def render (v : Value) : String := String.ofList v.chars

end Value

end Abac
