import Abac.Result

/-!
# How a decision stands to an effect

The algorithms in which one effect overrides the other look at a decision from the side of the
overriding effect: the decision is this effect, is the other one, could have been one of them, could
have been either, or is none.
-/

namespace Abac

/-- How a decision stands to an effect. -/
inductive Standing where
  /-- The node does not apply. -/
  | absent
  /-- The decision is the effect. -/
  | decides
  /-- The decision is the other effect. -/
  | opposes
  /-- The decision could have been the effect. -/
  | mayDecide
  /-- The decision could have been the other effect. -/
  | mayOppose
  /-- The decision could have been either. -/
  | unclear
  deriving DecidableEq, Repr

/-- How a decision stands to an effect. An undecided one that is not tracked counts as one that
could have been either. -/
def Effect.standing (e : Effect) : Decision → Standing
  | .notApplicable => .absent
  | .permit => if e = .permit then .decides else .opposes
  | .deny => if e = .deny then .decides else .opposes
  | .indeterminatePermit => if e = .permit then .mayDecide else .mayOppose
  | .indeterminateDeny => if e = .deny then .mayDecide else .mayOppose
  | .indeterminate => .unclear
  | .indeterminateDenyPermit => .unclear

@[simp] theorem Effect.standing_eq_decides_iff {e : Effect} {d : Decision} :
    e.standing d = .decides ↔ d = e.decision := by
  cases e <;> cases d <;> decide

@[simp] theorem Effect.standing_eq_opposes_iff {e : Effect} {d : Decision} :
    e.standing d = .opposes ↔ d = e.opposite.decision := by
  cases e <;> cases d <;> decide

theorem Effect.standing_eq_mayDecide_iff {e : Effect} {d : Decision} :
    e.standing d = .mayDecide ↔ d = e.indeterminate := by
  cases e <;> cases d <;> decide

theorem Effect.standing_eq_mayOppose_iff {e : Effect} {d : Decision} :
    e.standing d = .mayOppose ↔ d = e.opposite.indeterminate := by
  cases e <;> cases d <;> decide

theorem Effect.standing_eq_unclear_iff {e : Effect} {d : Decision} :
    e.standing d = .unclear ↔ d = .indeterminateDenyPermit ∨ d = .indeterminate := by
  cases e <;> cases d <;> decide

/-- Results of one decision, merged in order; absent if there is none. -/
def accumulate (d : Decision) (merged : Option Result) (r : Result) : Option Result :=
  some ((merged.getD (.of d)).merge r)

/-- What is known of the children seen so far, from the side of an overriding effect. -/
structure Tally where
  /-- The merged results of the children that decided the other effect. -/
  opposing : Option Result
  /-- Whether a child could have decided the effect. -/
  mayDecide : Bool
  /-- Whether a child could have decided the other effect. -/
  mayOppose : Bool
  /-- Whether a child could have decided either. -/
  unclear : Bool
  /-- The status of the first undecided child. -/
  failure : Option Status

namespace Tally

/-- Nothing is known yet. -/
def empty : Tally := ⟨none, false, false, false, none⟩

/-- The tally with the status of one more undecided child. -/
def noteFailure (t : Tally) (r : Result) : Tally :=
  { t with failure := t.failure.or (some r.status) }

/-- A bare result with the status of the first undecided child. -/
def failed (t : Tally) (d : Decision) : Result := .withStatus d (t.failure.getD .ok)

end Tally

end Abac
