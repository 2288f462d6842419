import Abac.Identifier

/-!
# Status

The status says why an evaluation has no value. It has a code, and may have a message and the list
of the attributes that were missing.
-/

namespace Abac

/-- The kind of a status. -/
inductive StatusCode where
  /-- There is nothing to report. -/
  | ok
  /-- A required attribute is absent. -/
  | missingAttribute
  /-- A policy is not well formed. -/
  | syntaxError
  /-- An evaluation went wrong. -/
  | processingError
  deriving DecidableEq, Repr, Inhabited

/-- The URI of a status code. -/
def StatusCode.uri : StatusCode → String
  | .ok => "urn:oasis:names:tc:xacml:1.0:status:ok"
  | .missingAttribute => "urn:oasis:names:tc:xacml:1.0:status:missing-attribute"
  | .syntaxError => "urn:oasis:names:tc:xacml:1.0:status:syntax-error"
  | .processingError => "urn:oasis:names:tc:xacml:1.0:status:processing-error"

/-- An attribute that was required and absent. -/
structure MissingAttribute where
  /-- The category it was looked for in. -/
  category : Identifier
  /-- Its identifier. -/
  attributeId : Identifier
  /-- The identifier of the expected data type. -/
  dataType : Identifier
  /-- The issuer asked for, if any. -/
  issuer : Option String
  deriving DecidableEq, Repr

/-- The outcome report of an evaluation step. -/
structure Status where
  /-- The kind of report. -/
  code : StatusCode
  /-- What happened, for a reader. -/
  message : Option String
  /-- The attributes whose absence caused the report, if it names any. -/
  missing : Option (List MissingAttribute)
  deriving DecidableEq, Repr

namespace Status

/-- Nothing to report. -/
def ok : Status := ⟨.ok, none, none⟩

instance : Inhabited Status := ⟨ok⟩

/-- A status with a message. -/
def report (code : StatusCode) (message : String) : Status := ⟨code, some message, none⟩

/-- A status for an evaluation that went wrong. -/
def processingError (message : String) : Status := report .processingError message

/-- A status for a policy that is not well formed. -/
def syntaxError (message : String) : Status := report .syntaxError message

/-- A status that names an absent attribute. -/
def missingAttribute (message : String) (absent : MissingAttribute) : Status :=
  ⟨.missingAttribute, some message, some [absent]⟩

/-- Whether the status reports nothing. -/
def isOk (s : Status) : Bool := s.code == .ok

/-- The status with a word in front of its message. -/
def under (label : String) (s : Status) : Status :=
  { s with message := some <| match s.message with
    | some message => label ++ " " ++ message
    | none => label }

/-- The text of a status: its code, and its message if it has one. -/
def render (s : Status) : String :=
  match s.message with
  | some message => s.code.uri ++ ": " ++ message
  | none => s.code.uri

end Status

end Abac
