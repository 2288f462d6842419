import Mathlib.Data.List.Find
import Abac.Proofs.Symmetry

/-!
# The earlier algorithms of policies and the later ones

For policies, the earlier deny-overrides and permit-overrides are algorithms of
their own. They part from the later ones over undecided children only: the earlier
deny-overrides takes the first of them for a denial, and the earlier
permit-overrides lets the children that deny go before them.

What the two come to is read off the list of results, as for the later algorithms
(`Result.earlierDenied`, `Result.earlierPermitted`), and is then compared with
these. Where nothing is undecided and the overriding effect is not decided, all
four gather the children that decided the other effect
(`Effect.overridden_of_decided`). The earlier deny-overrides is the cautious one:
it permits only where the later one does, and with the same result.
-/

namespace Abac

namespace Result

/-- Whether the earlier deny-overrides of policies takes the result for a denial. -/
def countsAsDenial (r : Result) : Bool := r.decision = .deny || r.isUndecided

theorem countsAsDenial_eq_false_iff {r : Result} :
    r.countsAsDenial = false ↔ r.decision ≠ .deny ∧ r.isUndecided = false := by
  rw [countsAsDenial, Bool.or_eq_false_iff, decide_eq_false_iff_not]

/-- What the earlier deny-overrides of policies makes of results. The first one that counts as a
denial settles it; an undecided one does not say why. Otherwise the permits are gathered. -/
def earlierDenied (rs : List Result) : Result :=
  match rs.find? countsAsDenial with
  | some r => if r.isUndecided then .of .deny else r
  | none => (gathered? .permit (rs.filter (·.decision = .permit))).getD .notApplicable

/-- What the earlier permit-overrides of policies makes of results: the first one that permits, else
those that deny, else the undecided ones merged. -/
def earlierPermitted (rs : List Result) : Result :=
  match rs.find? (·.decision = .permit) with
  | some r => r
  | none => ((gathered? .deny (rs.filter (·.decision = .deny))).or
      (merged? (rs.filter isUndecided))).getD .notApplicable

end Result

/-! ## The loops meet what they amount to -/

namespace Method

variable {children : List Child} {rs : List Result}

theorem outcome_earlierDenyOverrides (h : Survey.outcomes children = rs.map .ok)
    (ps : List Parameter) (ctx : Context) :
    (Method.earlierDenyOverrides.combine children ps ctx).outcome = .ok (.earlierDenied rs) := by
  have hnone : ∀ {qs : List Result}, (∀ q ∈ qs, q.decision ≠ .deny ∧ q.isUndecided = false) →
      qs.find? Result.countsAsDenial = none := by
    intro qs hq
    rw [List.find?_eq_none]
    exact fun q hm => Bool.eq_false_iff.mp (Result.countsAsDenial_eq_false_iff.mpr (hq q hm))
  obtain ⟨r, hr, hend⟩ := Survey.exists_run Survey.keeps_earlierDenyOverrides h
  rw [combine, hr, Result.earlierDenied]
  refine congrArg Except.ok ?_
  obtain ⟨seen, rc, rest, _, rfl, hI, hs⟩ | ⟨_, ⟨rfl, hn⟩, rfl⟩ := hend
  · have hp : rc.countsAsDenial = true := (Survey.earlierDenyOverrides_settles hs).1
    rw [List.find?_append, hnone hI.2, Option.none_or, List.find?_cons_of_pos hp]
    -- the child is the result, or it is undecided and leaves a bare denial
    cases hd : rc.decision <;> simp only [Survey.earlierDenyOverrides, hd] at hs <;> cases hs <;>
      simp [Result.isUndecided, hd, Decision.isIndeterminate]
  · rw [hnone hn]
    rfl

theorem outcome_earlierPermitOverrides (h : Survey.outcomes children = rs.map .ok)
    (ps : List Parameter) (ctx : Context) :
    (Method.earlierPermitOverrides.combine children ps ctx).outcome =
      .ok (.earlierPermitted rs) := by
  have hnone : ∀ {qs : List Result}, (∀ q ∈ qs, q.decision ≠ .permit) →
      qs.find? (·.decision = .permit) = none := by
    intro qs hq
    simpa using hq
  have hover := Survey.overrules_earlierPermitOverrides
  obtain ⟨r, hr, hend⟩ := Survey.exists_run hover.keeps h
  rw [combine, hr, Result.earlierPermitted]
  refine congrArg Except.ok ?_
  obtain ⟨seen, rc, rest, _, rfl, hI, hs⟩ | ⟨_, ⟨rfl, hn⟩, rfl⟩ := hend
  · obtain ⟨hd, rfl⟩ := hover.eq_of_settle hI.1 hs
    have hp : decide (rc.decision = .permit) = true := decide_eq_true hd
    rw [List.find?_append, hnone hI.2, Option.none_or, List.find?_cons, hp]
  · rw [hnone hn]
    rfl

theorem decision_of_decides {m : Method} {ps : List Parameter} {ctx : Context} {r : Result}
    {d : Decision}
    (hr : (m.combine children ps ctx).outcome = .ok r) (hd : m.decides children ps ctx = .ok d) :
    r.decision = d := by
  rw [decides, hr] at hd
  exact Except.ok.inj hd

end Method

/-! ## The later algorithms over decided children -/

namespace Effect

variable {e : Effect} {rs : List Result}

/-- Where nothing is undecided and no child decides the effect, the other effect is gathered. -/
theorem overridden_of_decided (hd : ∀ r ∈ rs, r.decision ≠ e.decision)
    (hu : ∀ r ∈ rs, r.isUndecided = false) :
    e.overridden rs = (Result.gathered? e.opposite.decision
      (rs.filter (·.decision = e.opposite.decision))).getD .notApplicable := by
  have hn : rs.find? (·.decision = e.decision) = none := by simpa using hd
  have he : e.decision ∉ rs.map Result.decision := by simpa using hd
  have hi : ∀ d ∈ rs.map Result.decision, ¬ d.isIndeterminate = true :=
    List.forall_mem_map.mpr fun r hr => Bool.eq_false_iff.mp (hu r hr)
  rw [overridden, hn, overriding_of_resolved hi he, Result.gathered?_filter]
  dsimp only
  split
  · rw [if_neg (not_isIndeterminate_decision e.opposite), if_pos rfl]
    rfl
  · rw [if_neg (by decide), if_neg (notApplicable_ne_decision e.opposite)]
    rfl

/-- The later algorithm comes to the other effect only by gathering it. -/
theorem overridden_of_opposite (h : (e.overridden rs).decision = e.opposite.decision) :
    rs.find? (·.decision = e.decision) = none ∧
      Result.gathered? e.opposite.decision (rs.filter (·.decision = e.opposite.decision)) =
        some (e.overridden rs) := by
  rw [decision_overridden] at h
  have he : e.decision ∉ rs.map Result.decision := by
    intro hm
    rw [overriding_eq_decision_iff.mpr hm] at h
    revert h
    cases e <;> decide
  have hn : rs.find? (·.decision = e.decision) = none := by simpa using he
  refine ⟨hn, ?_⟩
  rw [Result.gathered?_filter, if_pos (opposite_mem_of_overriding_eq h), overridden, hn, h]
  dsimp only
  rw [if_neg (not_isIndeterminate_decision e.opposite), if_pos rfl]

end Effect

/-! ## The earlier algorithms beside them -/

namespace Result

variable {rs : List Result}

/-- What neither denies nor is undecided looks the same to both deny-overrides. -/
theorem earlierDenied_of_find?_eq_none (h : rs.find? countsAsDenial = none) :
    earlierDenied rs = Effect.deny.overridden rs := by
  have hn : ∀ r ∈ rs, r.decision ≠ .deny ∧ r.isUndecided = false := fun r hr =>
    countsAsDenial_eq_false_iff.mp (Bool.eq_false_iff.mpr (List.find?_eq_none.mp h r hr))
  rw [earlierDenied, h, Effect.overridden_of_decided (e := .deny) (fun r hr => (hn r hr).1)
    fun r hr => (hn r hr).2]
  rfl

theorem earlierDenied_eq_overridden (hu : ∀ r ∈ rs, r.isUndecided = false) :
    earlierDenied rs = Effect.deny.overridden rs := by
  cases hf : rs.find? countsAsDenial with
  | none => exact earlierDenied_of_find?_eq_none hf
  | some r =>
      -- what counts as a denial is one, so both stop at the same child
      have hc : rs.find? countsAsDenial = rs.find? (·.decision = Effect.deny.decision) :=
        List.find?_congr fun q hq => by rw [countsAsDenial, hu q hq, Bool.or_false]; rfl
      rw [earlierDenied, Effect.overridden, ← hc, hf]
      dsimp only
      rw [hu r (List.mem_of_find?_eq_some hf), if_neg Bool.false_ne_true]

/-- Where the earlier deny-overrides permits, no child counted as a denial. -/
theorem earlierDenied_of_permit (h : (earlierDenied rs).decision = .permit) :
    earlierDenied rs = Effect.deny.overridden rs := by
  cases hf : rs.find? countsAsDenial with
  | none => exact earlierDenied_of_find?_eq_none hf
  | some r =>
      have hr : r.countsAsDenial = true := List.find?_some hf
      rw [earlierDenied, hf] at h
      dsimp only at h
      split at h
      · cases h
      · rename_i hu
        rw [countsAsDenial, h, Bool.eq_false_iff.mpr hu] at hr
        cases hr

theorem earlierPermitted_eq_overridden (hu : ∀ r ∈ rs, r.isUndecided = false) :
    earlierPermitted rs = Effect.permit.overridden rs := by
  have hfilter : rs.filter isUndecided = [] :=
    List.filter_eq_nil_iff.mpr fun r hr => Bool.eq_false_iff.mp (hu r hr)
  cases hf : rs.find? (·.decision = .permit) with
  | none =>
      have hd : ∀ r ∈ rs, r.decision ≠ .permit := by simpa using hf
      rw [earlierPermitted, hf, hfilter, Effect.overridden_of_decided hd hu]
      dsimp only
      rw [merged?, Option.or_none]
      rfl
  | some r =>
      have hf' : rs.find? (·.decision = Effect.permit.decision) = some r := hf
      rw [earlierPermitted, Effect.overridden, hf, hf']

/-- The children that deny go before the undecided ones. -/
theorem earlierPermitted_of_overridden_deny
    (h : (Effect.permit.overridden rs).decision = .deny) :
    earlierPermitted rs = Effect.permit.overridden rs := by
  obtain ⟨hn, hg⟩ := Effect.overridden_of_opposite (e := .permit) h
  have hn' : rs.find? (·.decision = .permit) = none := hn
  have hg' : gathered? .deny (rs.filter (·.decision = .deny)) =
      some (Effect.permit.overridden rs) := hg
  rw [earlierPermitted, hn', hg']
  rfl

end Result

namespace Method

variable {children : List Child} {rs : List Result} (h : Survey.outcomes children = rs.map .ok)

include h

/-- The earlier deny-overrides of policies denies if some child denies or is undecided. -/
theorem earlierDenied_eq_deny_iff :
    (Result.earlierDenied rs).decision = .deny ↔
      ∃ r ∈ rs, r.decision = .deny ∨ r.isUndecided = true := by
  have hcounts : (∃ d ∈ rs.map Result.decision, d = .deny ∨ d.isIndeterminate = true) ↔
      ∃ r ∈ rs, r.decision = .deny ∨ r.isUndecided = true := by simp [Result.isUndecided]
  rw [decision_of_decides (outcome_earlierDenyOverrides h [] .bare)
    (decides_earlierDenyOverrides h [] .bare), ← hcounts]
  split
  · exact iff_of_true rfl ‹_›
  · refine iff_of_false ?_ ‹_›
    split <;> decide

theorem isUndecided_earlierDenied : (Result.earlierDenied rs).isUndecided = false := by
  rw [Result.isUndecided,
    decision_of_decides (outcome_earlierDenyOverrides h [] .bare)
      (decides_earlierDenyOverrides h [] .bare)]
  split
  · rfl
  · split <;> rfl

/-- Both permit-overrides permit if some child does. -/
theorem earlierPermitted_eq_permit_iff :
    (Result.earlierPermitted rs).decision = .permit ↔
      (Effect.permit.overridden rs).decision = .permit := by
  have hlater : (Effect.permit.overridden rs).decision = .permit ↔
      .permit ∈ rs.map Result.decision := by
    rw [Effect.decision_overridden]
    exact Effect.overriding_eq_decision_iff
  rw [hlater, decision_of_decides (outcome_earlierPermitOverrides h [] .bare)
    (decides_earlierPermitOverrides h [] .bare)]
  split
  · exact iff_of_true rfl ‹_›
  · refine iff_of_false (fun hpermit => ?_) ‹_›
    split at hpermit
    · cases hpermit
    -- the first undecided child is undecided, and without one nothing applies
    · cases hf : (rs.map Result.decision).find? Decision.isIndeterminate with
      | none =>
          rw [hf] at hpermit
          cases hpermit
      | some d =>
          have hi := List.find?_some hf
          rw [hf] at hpermit
          rw [show d = .permit from hpermit] at hi
          cases hi

end Method

/-- **The earlier algorithms of policies beside the later ones.** If no child is undecided, they
come to the same results. In general the earlier deny-overrides denies exactly if some child denies
or is undecided, is never undecided itself, and permits only with the result of the later one. The
earlier permit-overrides permits exactly where the later one does, and has its result where that
denies. -/
theorem Method.earlierPolicies_beside_later {children : List Child} {rs : List Result}
    (h : Survey.outcomes children = rs.map .ok) (ps : List Parameter) (ctx : Context) :
    ∃ denied denied' permitted permitted' : Result,
      (Method.earlierDenyOverrides.combine children ps ctx).outcome = .ok denied ∧
      ((Method.overrides .deny).combine children ps ctx).outcome = .ok denied' ∧
      (Method.earlierPermitOverrides.combine children ps ctx).outcome = .ok permitted ∧
      ((Method.overrides .permit).combine children ps ctx).outcome = .ok permitted' ∧
      ((∀ r ∈ rs, r.isUndecided = false) → denied = denied' ∧ permitted = permitted') ∧
      (denied.decision = .deny ↔ ∃ r ∈ rs, r.decision = .deny ∨ r.isUndecided = true) ∧
      denied.isUndecided = false ∧
      (denied.decision = .permit → denied' = denied) ∧
      (permitted.decision = .permit ↔ permitted'.decision = .permit) ∧
      (permitted'.decision = .deny → permitted = permitted') := by
  have hden := outcome_earlierDenyOverrides h ps ctx
  have hper := outcome_earlierPermitOverrides h ps ctx
  refine ⟨_, _, _, _, hden, outcome_overrides h ps ctx, hper, outcome_overrides h ps ctx, ?same,
    earlierDenied_eq_deny_iff h, isUndecided_earlierDenied h, ?cautious,
    earlierPermitted_eq_permit_iff h, Result.earlierPermitted_of_overridden_deny⟩
  case same =>
    intro hu
    exact ⟨Result.earlierDenied_eq_overridden hu, Result.earlierPermitted_eq_overridden hu⟩
  case cautious =>
    intro hpermit
    exact (Result.earlierDenied_of_permit hpermit).symm

/-- A child that is undecided before one that permits: the earlier deny-overrides denies where the
later one is undecided, and both permit-overrides permit. -/
theorem Method.earlierPolicies_beside_later_undecided :
    let unsure : Result := .withStatus .indeterminateDeny (.processingError "late")
    let rs := [unsure, .of .permit]
    Survey.outcomes (rs.map .fixed) = rs.map .ok ∧
      ((Method.overrides .deny).combine (rs.map .fixed) [] .bare).outcome =
        .ok (.withStatus .indeterminateDenyPermit (.processingError "late")) ∧
      ((Method.overrides .permit).combine (rs.map .fixed) [] .bare).outcome = .ok (.of .permit) ∧
      ∃ denied permitted, denied.decision = .deny ∧ permitted.decision = .permit ∧
        (Method.earlierDenyOverrides.combine (rs.map .fixed) [] .bare).outcome = .ok denied ∧
        (Method.earlierPermitOverrides.combine (rs.map .fixed) [] .bare).outcome =
          .ok permitted := by
  intro unsure rs
  have h : Survey.outcomes (rs.map .fixed) = rs.map .ok := rfl
  obtain ⟨denied, _, permitted, later, hd, -, hp, hl, -, hdeny, -, -, hsame, -⟩ :=
    Method.earlierPolicies_beside_later h [] .bare
  obtain rfl : .of .permit = later := Except.ok.inj hl
  have hunsure : ∃ r ∈ rs, r.decision = .deny ∨ r.isUndecided = true :=
    ⟨unsure, List.mem_cons_self, .inr rfl⟩
  exact ⟨h, rfl, hl, denied, permitted, hdeny.mpr hunsure, hsame.mpr rfl, hd, hp⟩

end Abac
