import Abac.Document.Basic
import Abac.Status

/-!
# Documents of statuses

A status is written with its code, its message or null, and the missing attributes that it names or
null.
-/

namespace Abac

namespace StatusCode

/-- The word for a status code. -/
def name : StatusCode → String
  | .ok => "Ok"
  | .missingAttribute => "MissingAttribute"
  | .syntaxError => "SyntaxError"
  | .processingError => "ProcessingError"

/-- The status code for a word. -/
def ofName? : String → Option StatusCode
  | "Ok" => some .ok
  | "MissingAttribute" => some .missingAttribute
  | "SyntaxError" => some .syntaxError
  | "ProcessingError" => some .processingError
  | _ => none

end StatusCode

namespace MissingAttribute

/-- A missing attribute as a document. -/
def toJson (m : MissingAttribute) : Json :=
  .object [("category", m.category.toJson), ("attribute_id", m.attributeId.toJson),
    ("data_type", m.dataType.toJson), ("issuer", .text? m.issuer)]

/-- Read a missing attribute. -/
def ofJson? (j : Json) : Option MissingAttribute := do
  let r ← Record.ofJson? ["category", "attribute_id", "data_type", "issuer"] j
  return {
    category := ← r.required "category" Identifier.ofJson?
    attributeId := ← r.required "attribute_id" Identifier.ofJson?
    dataType := ← r.required "data_type" Identifier.ofJson?
    issuer := ← r.optional "issuer" Json.string? }

end MissingAttribute

namespace Status

/-- The missing attributes of a status as a document. -/
def detailToJson : Option (List MissingAttribute) → Json
  | none => .null
  | some ms => .object [("missing_attributes", .array (ms.map MissingAttribute.toJson))]

/-- Read the missing attributes of a status. -/
def detailOfJson? (j : Json) : Option (List MissingAttribute) := do
  let r ← Record.ofJson? ["missing_attributes"] j
  r.required "missing_attributes" (Json.items? MissingAttribute.ofJson?)

/-- A status as a document. -/
def toJson (s : Status) : Json :=
  .object [("code", .string s.code.name), ("message", .text? s.message),
    ("detail", detailToJson s.missing)]

/-- Read a status. -/
def ofJson? (j : Json) : Option Status := do
  let r ← Record.ofJson? ["code", "message", "detail"] j
  return {
    code := ← r.required "code" fun j => j.word?.bind StatusCode.ofName?
    message := ← r.optional "message" Json.string?
    missing := ← r.optional "detail" detailOfJson? }

end Status

end Abac
