import Abac.Combining.Standing
import Abac.Combining.Survey

/-!
# The algorithms that evaluate children in order

In an overriding algorithm a child that decides the overriding effect settles the combination. They
differ in what they make of undecided children: the later ones track what could have been decided,
the earlier ones for rules do not, the earlier ones for policies are not symmetric in the two
effects, and the defaulting ones ignore undecided children.
-/

namespace Abac.Survey

/-- What an overriding algorithm does about a child's result. -/
def weigh (e : Effect) (t : Tally) (r : Result) : Reaction Tally :=
  match e.standing r.decision with
  | .absent => .proceed t
  | .decides => .settle r
  | .opposes => .proceed { t with opposing := accumulate e.opposite.decision t.opposing r }
  | .mayDecide => .proceed { t.noteFailure r with mayDecide := true }
  | .mayOppose => .proceed { t.noteFailure r with mayOppose := true }
  | .unclear => .proceed { t.noteFailure r with unclear := true }

/-- Deny-overrides and permit-overrides. The result could have been either effect if an undecided
child could have been either, or if one could have been the overriding effect while the other effect
is decided or possible too. -/
def overrides (e : Effect) : Survey Tally where
  start := .empty
  react := weigh e
  conclude t :=
    if t.unclear || (t.mayDecide && (t.mayOppose || t.opposing.isSome)) then
      t.failed .indeterminateDenyPermit
    else if t.mayDecide then t.failed e.indeterminate
    else match t.opposing with
      | some r => r
      | none => if t.mayOppose then t.failed e.opposite.indeterminate else .notApplicable

/-- What the earlier algorithms of rules know of the children seen so far. Of an undecided child
they ask no more than whether it could not have decided the overriding effect. -/
structure EarlierTally where
  /-- The merged results of the children that decided the other effect. -/
  opposing : Option Result
  /-- Whether a child could have decided the overriding effect. -/
  mayOverride : Bool
  /-- Whether another child is undecided. -/
  mayOppose : Bool
  /-- The status of the first undecided child. -/
  failure : Option Status

/-- What the earlier algorithms of rules do about a child's result. -/
def weighEarlier (e : Effect) (t : EarlierTally) (r : Result) : Reaction EarlierTally :=
  let failure := t.failure.or (some r.status)
  if r.decision = .notApplicable then .proceed t
  else if r.decision = e.decision then .settle r
  else if r.decision = e.opposite.decision then
    .proceed { t with opposing := accumulate e.opposite.decision t.opposing r }
  else if r.decision = e.opposite.indeterminate then .proceed { t with mayOppose := true, failure }
  else .proceed { t with mayOverride := true, failure }

/-- The earlier deny-overrides and permit-overrides of rules. A child that could have decided the
overriding effect leaves the combination undecided, even when another decides the other effect. -/
def earlierRuleOverrides (e : Effect) : Survey EarlierTally where
  start := ⟨none, false, false, none⟩
  react := weighEarlier e
  conclude t :=
    let undecided := Result.indeterminate (t.failure.getD .ok)
    if t.mayOverride then undecided
    else match t.opposing with
      | some r => r
      | none => if t.mayOppose then undecided else .notApplicable

/-- The earlier deny-overrides of policies. An undecided child denies, without saying why. -/
def earlierDenyOverrides : Survey (Option Result) where
  start := none
  react permitted r :=
    match r.decision with
    | .deny => .settle r
    | .permit => .proceed (accumulate .permit permitted r)
    | .notApplicable => .proceed permitted
    | _ => .settle (.of .deny)
  conclude permitted := permitted.getD .notApplicable

/-- The merged results of children that denied, and those of undecided children. -/
structure DeniedOrUndecided where
  denied : Option Result
  undecided : Option Result

/-- The earlier permit-overrides of policies. The children that deny go before the undecided ones,
which are merged into the first of them. -/
def earlierPermitOverrides : Survey DeniedOrUndecided where
  start := ⟨none, none⟩
  react seen r :=
    match r.decision with
    | .permit => .settle r
    | .deny => .proceed { seen with denied := accumulate .deny seen.denied r }
    | .notApplicable => .proceed seen
    | _ => .proceed { seen with undecided := some <| match seen.undecided with
        | some first => first.merge r
        | none => r }
  conclude seen := (seen.denied.or seen.undecided).getD .notApplicable

/-- Deny-unless-permit and permit-unless-deny: the other effect, unless a child decides the
overriding one. -/
def defaulting (e : Effect) : Survey Result where
  start := .of e.opposite.decision
  react merged r :=
    if r.decision = e.decision then .settle r
    else if r.decision = e.opposite.decision then .proceed (merged.merge r)
    else .proceed merged
  conclude merged := merged

/-- First-applicable: the result of the first child that applies or may apply. -/
def firstApplicable : Survey Unit where
  start := ()
  react _ r := if r.decision = .notApplicable then .proceed () else .settle r
  conclude _ := .notApplicable

end Abac.Survey
