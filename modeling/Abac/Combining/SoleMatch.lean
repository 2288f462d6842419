import Abac.Combining.Child

/-!
# The only applicable child

A child is chosen by its target alone, and only the chosen one is evaluated. That several targets
match, or that one cannot be matched, leaves the combination undecided.
-/

namespace Abac

/-- The status of a combination in which a second target matches. -/
def severalApplicable : Status := .syntaxError "More than one applicable policy"

/-- Evaluate the one child whose target matches. A child that was already chosen is `chosen`. -/
def onlyApplicableFrom (chosen : Option Child) : List Child → Run Result
  | [] =>
    match chosen with
    | some c => c.evaluate ()
    | none => pure .notApplicable
  | c :: rest => do
    match ← c.matchTarget (), chosen with
    | .unmatched, _ => onlyApplicableFrom chosen rest
    | .unclear s, _ => pure (.indeterminate s)
    | .matched, some _ => pure (.indeterminate severalApplicable)
    | .matched, none => onlyApplicableFrom (some c) rest

/-- Evaluate the one child whose target matches. -/
def onlyApplicable (children : List Child) : Run Result := onlyApplicableFrom none children

end Abac
