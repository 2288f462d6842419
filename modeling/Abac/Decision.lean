/-!
# Decisions and effects

A node of a policy tree permits, denies, does not apply, or cannot tell. When it cannot tell, the
decision names what it could have been had every part been evaluated: permit, deny, either, or
unknown.
-/

namespace Abac

/-- What a node of a policy tree decides. -/
inductive Decision where
  | permit
  | deny
  | notApplicable
  /-- Undecided, and what it could have been is not tracked. -/
  | indeterminate
  /-- Undecided; it could have been permit or not applicable. -/
  | indeterminatePermit
  /-- Undecided; it could have been deny or not applicable. -/
  | indeterminateDeny
  /-- Undecided; it could have been permit or deny. -/
  | indeterminateDenyPermit
  deriving DecidableEq, Repr, Inhabited

namespace Decision

/-- Whether the decision is one of the four undecided ones. -/
def isIndeterminate : Decision → Bool
  | .indeterminate | .indeterminatePermit | .indeterminateDeny | .indeterminateDenyPermit => true
  | _ => false

/-- Whether the decision is permit or deny. -/
def isFinal : Decision → Bool
  | .permit | .deny => true
  | _ => false

/-- The text of a decision, as traces show it. -/
def render : Decision → String
  | .permit => "Permit"
  | .deny => "Deny"
  | .notApplicable => "NotApplicable"
  | .indeterminate => "Indeterminate"
  | .indeterminatePermit => "Indeterminate\x7bP\x7d"
  | .indeterminateDeny => "Indeterminate\x7bD\x7d"
  | .indeterminateDenyPermit => "Indeterminate\x7bDP\x7d"

end Decision

/-- What a rule says when it applies. -/
inductive Effect where
  | permit
  | deny
  deriving DecidableEq, Repr, Inhabited

namespace Effect

/-- The decision of a rule that applies. -/
def decision : Effect → Decision
  | .permit => .permit
  | .deny => .deny

/-- The decision of a rule that may apply. -/
def indeterminate : Effect → Decision
  | .permit => .indeterminatePermit
  | .deny => .indeterminateDeny

/-- The other effect. -/
def opposite : Effect → Effect
  | .permit => .deny
  | .deny => .permit

/-- The effect that a final decision has. -/
def ofDecision? : Decision → Option Effect
  | .permit => some .permit
  | .deny => some .deny
  | _ => none

/-- The text of an effect. -/
def render (e : Effect) : String := e.decision.render

@[simp] theorem opposite_opposite (e : Effect) : e.opposite.opposite = e := by cases e <;> rfl

theorem eq_or_eq_opposite (x e : Effect) : x = e ∨ x = e.opposite := by
  cases x <;> cases e <;> simp [opposite]

theorem ofDecision?_eq_some_iff {d : Decision} {e : Effect} :
    ofDecision? d = some e ↔ d = e.decision := by
  cases d <;> cases e <;> decide

theorem decision_inj {e e' : Effect} : e.decision = e'.decision ↔ e = e' := by
  cases e <;> cases e' <;> decide

theorem isFinal_decision (e : Effect) : e.decision.isFinal = true := by cases e <;> rfl

theorem isIndeterminate_indeterminate (e : Effect) :
    e.indeterminate.isIndeterminate = true := by cases e <;> rfl

theorem not_isIndeterminate_decision (e : Effect) :
    ¬ e.decision.isIndeterminate = true := by cases e <;> decide

theorem notApplicable_ne_decision (e : Effect) : Decision.notApplicable ≠ e.decision := by
  cases e <;> decide

theorem indeterminate_ne_decision (x e : Effect) : x.indeterminate ≠ e.decision := by
  cases x <;> cases e <;> decide

theorem ofDecision?_isSome (d : Decision) : (ofDecision? d).isSome = d.isFinal := by
  cases d <;> rfl

end Effect

end Abac
