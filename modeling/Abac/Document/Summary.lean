import Abac.Document.Basic
import Abac.Policy.Node

/-!
# Summaries of nodes

A summary says what a node is without its expressions: its names, whether its target is empty, which
algorithm combines its children, what these are called and how many obligations and pieces of advice
there are.
-/

namespace Abac

/-- The summary of a rule. -/
def Rule.summary (r : Rule) : Json :=
  .object [("id", .string r.id), ("effect", .string r.effect.render),
    ("description", .text? r.description), ("parent", .text? r.parentId),
    ("target_empty", .bool r.target.isEmpty), ("variables", .array (r.references.map .string)),
    ("obligations", .nat r.obligations.length), ("advice", .nat r.advice.length),
    ("combiner_id", .string r.id)]

/-- The summary of a policy or policy set with the children of the given names and parents, and with
further fields. -/
def Frame.summary (f : Frame) (children : List (String × Option String))
    (further : List (String × Json)) : Json :=
  .object ([("id", f.id.toJson), ("version", f.version.toJson),
    ("description", .text? f.description), ("parent", .text? f.parentId),
    ("target_empty", .bool f.target.isEmpty),
    ("algorithm", .text? (f.algorithm.map fun a => a.id.text)),
    ("children", .array (children.map fun (id, parent) => .array [.string id, .text? parent])),
    ("child_params", .array (f.childParameters.map TargetedParameter.toJson)),
    ("obligations", .nat f.obligations.length), ("advice", .nat f.advice.length),
    ("combiner_id", f.id.toJson)] ++ further)

/-- The summary of a node. -/
def Node.summary : Node → Json
  | .rule r => r.summary
  | .policy p => p.toFrame.summary (p.rules.map fun r => (r.id, r.parentId))
      [("variables", .array (p.definitions.map fun d => .string d.id))]
  | .policySet s =>
    s.toFrame.summary (s.children.map fun n => (n.frame.id.text, n.frame.parentId)) []

end Abac
