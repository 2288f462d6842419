import Abac.Identifier

/-!
# Data types

The sixteen data types of attribute values. Each has a URI, a short name that function identifiers
and messages use, and the version under which its equality and bag functions were published.
-/

namespace Abac

/-- A data type of attribute values. -/
inductive DataType where
  | string
  | boolean
  | integer
  | double
  | date
  | time
  | dateTime
  | dayTimeDuration
  | yearMonthDuration
  | anyUri
  | hexBinary
  | base64Binary
  | rfc822Name
  | x500Name
  | ipAddress
  | dnsName
  deriving DecidableEq, Repr, Inhabited

/-- A URI that names no data type. -/
structure UnknownDataType where
  uri : String
  deriving DecidableEq, Repr

/-- The wording of the error. -/
def UnknownDataType.message (e : UnknownDataType) : String := "Unknown data type: " ++ e.uri

namespace DataType

/-- Every data type, in the order in which registries list them. -/
def all : List DataType :=
  [.string, .boolean, .integer, .double, .date, .time, .dateTime, .dayTimeDuration,
    .yearMonthDuration, .anyUri, .hexBinary, .base64Binary, .rfc822Name, .x500Name, .ipAddress,
    .dnsName]

/-- The short name of a data type. -/
def shortName : DataType → String
  | .string => "string"
  | .boolean => "boolean"
  | .integer => "integer"
  | .double => "double"
  | .date => "date"
  | .time => "time"
  | .dateTime => "dateTime"
  | .dayTimeDuration => "dayTimeDuration"
  | .yearMonthDuration => "yearMonthDuration"
  | .anyUri => "anyURI"
  | .hexBinary => "hexBinary"
  | .base64Binary => "base64Binary"
  | .rfc822Name => "rfc822Name"
  | .x500Name => "x500Name"
  | .ipAddress => "ipAddress"
  | .dnsName => "dnsName"

/-- The part of a data type's URI that stands before its short name. -/
def uriStem : DataType → String
  | .rfc822Name | .x500Name => "urn:oasis:names:tc:xacml:1.0:data-type:"
  | .ipAddress | .dnsName => "urn:oasis:names:tc:xacml:2.0:data-type:"
  | _ => "http://www.w3.org/2001/XMLSchema#"

/-- The URI of a data type. -/
def uri (t : DataType) : String := t.uriStem ++ t.shortName

/-- The identifier of a data type. -/
def id (t : DataType) : Identifier := ⟨t.uri⟩

/-- The version under which the equality and bag functions of a data type were published. -/
def functionVersion : DataType → String
  | .dayTimeDuration | .yearMonthDuration => "3.0"
  | .ipAddress | .dnsName => "2.0"
  | _ => "1.0"

/-- The data type that has a URI. -/
def ofUri? (uri : String) : Option DataType := all.find? fun t => t.uri == uri

/-- The data type that has a URI, or the URI that has none. -/
def ofUri (uri : String) : Except UnknownDataType DataType :=
  match ofUri? uri with
  | some t => .ok t
  | none => .error ⟨uri⟩

/-- The data type that has a short name. -/
def ofShortName? (name : String) : Option DataType := all.find? fun t => t.shortName == name

/-- The data type that has a short name or a URI. -/
def ofName (name : String) : Except UnknownDataType DataType :=
  match ofShortName? name with
  | some t => .ok t
  | none => ofUri name

end DataType

end Abac
