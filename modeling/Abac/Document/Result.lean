import Abac.Document.Status
import Abac.Result

/-!
# Documents of results

A result is written with the word for its decision, its status, obligations and advice with their
assignments, and the policies and policy sets that led to it.
-/

namespace Abac

namespace Decision

/-- The word for a decision. -/
def name : Decision → String
  | .permit => "Permit"
  | .deny => "Deny"
  | .notApplicable => "NotApplicable"
  | .indeterminate => "Indeterminate"
  | .indeterminatePermit => "IndeterminatePermit"
  | .indeterminateDeny => "IndeterminateDeny"
  | .indeterminateDenyPermit => "IndeterminateDenyPermit"

/-- The decision for a word. -/
def ofName? : String → Option Decision
  | "Permit" => some .permit
  | "Deny" => some .deny
  | "NotApplicable" => some .notApplicable
  | "Indeterminate" => some .indeterminate
  | "IndeterminatePermit" => some .indeterminatePermit
  | "IndeterminateDeny" => some .indeterminateDeny
  | "IndeterminateDenyPermit" => some .indeterminateDenyPermit
  | _ => none

end Decision

namespace Assignment

/-- An assignment as a document. -/
def toJson (a : Assignment) : Json :=
  .object [("attribute_id", a.attributeId.toJson),
    ("category", .text? (a.category.map Identifier.text)), ("issuer", .text? a.issuer),
    ("value", a.value.toJson)]

/-- Read an assignment. -/
def ofJson? (j : Json) : Option Assignment := do
  let r ← Record.ofJson? ["attribute_id", "category", "issuer", "value"] j
  return {
    attributeId := ← r.required "attribute_id" Identifier.ofJson?
    category := ← r.optional "category" Identifier.ofJson?
    issuer := ← r.optional "issuer" Json.string?
    value := ← r.required "value" Value.ofJson? }

end Assignment

namespace Obligation

/-- An obligation as a document. -/
def toJson (o : Obligation) : Json :=
  .object [("id", o.id.toJson),
    ("attribute_assignments", .array (o.assignments.map Assignment.toJson))]

/-- Read an obligation. -/
def ofJson? (j : Json) : Option Obligation := do
  let r ← Record.ofJson? ["id", "attribute_assignments"] j
  return {
    id := ← r.required "id" Identifier.ofJson?
    assignments := ← r.required "attribute_assignments" (Json.items? Assignment.ofJson?) }

end Obligation

namespace PolicyReference

/-- A reference as a document. -/
def toJson (p : PolicyReference) : Json :=
  .object [("id", p.id.toJson), ("version", p.version.toJson)]

/-- Read a reference. -/
def ofJson? (j : Json) : Option PolicyReference := do
  let r ← Record.ofJson? ["id", "version"] j
  return {
    id := ← r.required "id" Identifier.ofJson?
    version := ← r.required "version" Version.ofJson? }

end PolicyReference

namespace Result

/-- The names of the fields of a result, in order. -/
def fieldNames : List String :=
  ["decision", "status", "obligations", "advice", "policy_identifiers",
    "policy_set_identifiers"]

/-- A result as a document. -/
def toJson (r : Result) : Json :=
  .object [("decision", .string r.decision.name), ("status", r.status.toJson),
    ("obligations", .array (r.obligations.map Obligation.toJson)),
    ("advice", .array (r.advice.map Obligation.toJson)),
    ("policy_identifiers", .array (r.policies.map PolicyReference.toJson)),
    ("policy_set_identifiers", .array (r.policySets.map PolicyReference.toJson))]

/-- Read a result. -/
def ofJson? (j : Json) : Option Result := do
  let r ← Record.ofJson? fieldNames j
  return {
    decision := ← r.required "decision" fun j => j.word?.bind Decision.ofName?
    status := ← r.required "status" Status.ofJson?
    obligations := ← r.required "obligations" (Json.items? Obligation.ofJson?)
    advice := ← r.required "advice" (Json.items? Obligation.ofJson?)
    policies := ← r.required "policy_identifiers" (Json.items? PolicyReference.ofJson?)
    policySets := ← r.required "policy_set_identifiers" (Json.items? PolicyReference.ofJson?) }

end Result

end Abac
