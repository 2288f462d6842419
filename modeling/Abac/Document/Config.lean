import Abac.Document.Basic
import Abac.Engine
import Abac.Json.Reader

/-!
# Documents of settings

The settings of an engine are read from a text in JSON. What is left out has its default. A setting
that is given twice is an error, and so is anything after the document.
-/

namespace Abac.EngineConfig

/-- The names of the settings, in order. -/
def fieldNames : List String :=
  ["trace_evaluation", "root_combining_algorithm", "return_policy_id_list"]

/-- Whether no setting is given twice. -/
def isUnambiguous (r : Record) : Bool :=
  fieldNames.all fun name => r.fields.countP (fun f => f.1 == name) ≤ 1

/-- The settings as a document. -/
def toJson (c : EngineConfig) : Json :=
  .object [("trace_evaluation", .bool c.traceEvaluation),
    ("root_combining_algorithm", c.rootAlgorithm.toJson),
    ("return_policy_id_list", .bool c.returnPolicyIds)]

/-- Read settings. -/
def ofJson? (j : Json) : Option EngineConfig := do
  let r ← Record.ofJson? fieldNames j
  guard (isUnambiguous r)
  return {
    traceEvaluation := ← r.defaulted "trace_evaluation" default.traceEvaluation Json.bool?
    rootAlgorithm :=
      ← r.defaulted "root_combining_algorithm" default.rootAlgorithm Identifier.ofJson?
    returnPolicyIds := ← r.defaulted "return_policy_id_list" default.returnPolicyIds Json.bool? }

/-- Read settings from a text. -/
def read (text : String) : Option EngineConfig := (Json.read text).bind ofJson?

end Abac.EngineConfig
