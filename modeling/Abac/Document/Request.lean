import Abac.Attribute
import Abac.Document.Status

/-!
# Documents of requests

A request lists attributes with their values, and may say whether policies shall be listed in the
result. The answer to a lookup has a status and attributes.
-/

namespace Abac

namespace Attribute

/-- An attribute as a document. -/
def toJson (a : Attribute) : Json :=
  .object [("category", a.category.toJson), ("attribute_id", a.attributeId.toJson),
    ("issuer", .text? a.issuer), ("values", .array (a.values.map Value.toJson))]

/-- Read an attribute. -/
def ofJson? (j : Json) : Option Attribute := do
  let r ← Record.ofJson? ["category", "attribute_id", "issuer", "values"] j
  return {
    category := ← r.required "category" Identifier.ofJson?
    attributeId := ← r.required "attribute_id" Identifier.ofJson?
    issuer := ← r.defaulted "issuer" none (Json.nullable? Json.string?)
    values := ← r.required "values" (Json.items? Value.ofJson?) }

end Attribute

namespace Request

/-- A request as a document. -/
def toJson (r : Request) : Json :=
  .object [("attributes", .array (r.attributes.map Attribute.toJson)),
    ("return_policy_id_list", match r.returnPolicyIds with
      | some b => .bool b
      | none => .null)]

/-- Read a request. -/
def ofJson? (j : Json) : Option Request := do
  let r ← Record.ofJson? ["attributes", "return_policy_id_list"] j
  return {
    attributes := ← r.defaulted "attributes" [] (Json.items? Attribute.ofJson?)
    returnPolicyIds := ← r.defaulted "return_policy_id_list" none (Json.nullable? Json.bool?) }

end Request

/-- The answer to a lookup as a document. -/
def LookupAnswer.toJson (a : LookupAnswer) : Json :=
  .object [("status", a.status.toJson),
    ("attributes", .array (a.attributes.map Attribute.toJson))]

end Abac
