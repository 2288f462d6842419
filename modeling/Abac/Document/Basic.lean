import Abac.Bag
import Abac.Combining.Child
import Abac.Json.Record
import Abac.Value.Text

/-!
# Documents of values

A value is written with the URI of its data type and its canonical text, and read back under the
same rules as any text of the type. A version is written as its text.
-/

namespace Abac

/-- An identifier as a document. -/
def Identifier.toJson (i : Identifier) : Json := .string i.text

/-- Read an identifier. -/
def Identifier.ofJson? (j : Json) : Option Identifier := j.string?.map Identifier.mk

/-- A version as a document. -/
def Version.toJson (v : Version) : Json := .string v.render

/-- Read a version. -/
def Version.ofJson? (j : Json) : Option Version := j.string?.bind fun s => (Version.read s).toOption

/-- A value as a document. -/
def Value.toJson (v : Value) : Json :=
  .object [("dataType", .string v.dataType.uri), ("value", .string v.render)]

/-- Read a value. -/
def Value.ofJson? (j : Json) : Option Value := do
  let r ← Record.ofJson? ["dataType", "value"] j
  let uri ← r.required "dataType" Json.string?
  let text ← r.required "value" Json.string?
  (Value.read (← DataType.ofUri? uri) text).toOption

/-- The name of a data type in documents: its short name in title case. -/
def DataType.title (t : DataType) : String :=
  match t with
  | .anyUri => "AnyUri"
  | _ => t.shortName.capitalize

/-- A bag as a document. -/
def Bag.toJson (b : Bag) : Json :=
  .object [("dataType", .string b.dataType.title), ("values", .array (b.values.map Value.toJson))]

/-- A parameter as a document. -/
def Parameter.toJson (p : Parameter) : Json :=
  .object [("name", .string p.name), ("value", p.value.toJson)]

/-- A targeted parameter as a document. -/
def TargetedParameter.toJson (p : TargetedParameter) : Json :=
  .object [("target_id", .string p.targetId), ("parameter", p.parameter.toJson)]

end Abac
