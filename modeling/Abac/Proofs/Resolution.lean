import Abac.Proofs.Overrides
import Abac.Proofs.Related

/-!
# What undecided children may turn out to be

An undecided decision names the decisions that were possible. A resolution of the
children settles each undecided one, independently of the others, in a way that
its decision allows. Deny-overrides and permit-overrides are exact about this:
the effects that a combination names are those, and only those, that it comes to
on some resolution.

Both effects reduce to the same question about single children, namely which of
them can settle for the effect (`Decision.settle`). The overriding effect needs
one such child; the other one needs such a child too, and that no child decides
the overriding effect already (`mem_effects_overriding`,
`mem_effects_overriding_opposite`).
-/

namespace Abac

namespace Decision

/-- What a decision may turn out to be when nothing is left undecided. -/
def resolutions : Decision → List Decision
  | .permit => [.permit]
  | .deny => [.deny]
  | .notApplicable => [.notApplicable]
  | .indeterminatePermit => [.permit, .notApplicable]
  | .indeterminateDeny => [.deny, .notApplicable]
  | .indeterminateDenyPermit => [.permit, .deny, .notApplicable]
  | .indeterminate => [.permit, .deny, .notApplicable]

/-- The effects that a decision names. -/
def effects : Decision → List Effect
  | .permit => [.permit]
  | .deny => [.deny]
  | .notApplicable => []
  | .indeterminatePermit => [.permit]
  | .indeterminateDeny => [.deny]
  | .indeterminateDenyPermit => [.permit, .deny]
  | .indeterminate => [.permit, .deny]

/-- The resolution that comes to an effect where it can, and else to as little as it can. -/
def settle (x : Effect) (d : Decision) : Decision :=
  if x.decision ∈ d.resolutions then x.decision
  else if d.isFinal then d
  else .notApplicable

theorem settle_mem (x : Effect) (d : Decision) : d.settle x ∈ d.resolutions := by
  cases x <;> cases d <;> decide

theorem settle_eq_iff {x : Effect} {d : Decision} :
    d.settle x = x.decision ↔ x.decision ∈ d.resolutions := by
  cases x <;> cases d <;> decide

theorem settle_eq_opposite_iff {x : Effect} {d : Decision} :
    d.settle x = x.opposite.decision ↔ d = x.opposite.decision := by
  cases x <;> cases d <;> decide

theorem mem_resolutions_iff {x : Effect} {d : Decision} :
    x.decision ∈ d.resolutions ↔
      d = x.decision ∨ d = x.indeterminate ∨ d = .indeterminateDenyPermit ∨ d = .indeterminate := by
  cases x <;> cases d <;> decide

theorem not_isIndeterminate_of_mem_resolutions {d d' : Decision} (h : d' ∈ d.resolutions) :
    ¬ d'.isIndeterminate = true := by
  revert h
  cases d <;> cases d' <;> decide

end Decision

/-- Each decision of the second list settles the one of the first in its place. -/
def Resolves (ds ds' : List Decision) : Prop :=
  List.Forall₂ (fun d d' => d' ∈ d.resolutions) ds ds'

namespace Resolves

theorem settle (x : Effect) (ds : List Decision) : Resolves ds (ds.map (.settle x)) :=
  List.forall₂_map_right_iff.mpr (List.forall₂_same.mpr fun d _ => d.settle_mem x)

theorem exists_resolution {ds ds' : List Decision} (h : Resolves ds ds') :
    ∀ d ∈ ds, ∃ d' ∈ ds', d' ∈ d.resolutions :=
  exists_related h

theorem exists_origin {ds ds' : List Decision} (h : Resolves ds ds') :
    ∀ d' ∈ ds', ∃ d ∈ ds, d' ∈ d.resolutions :=
  exists_related (List.Forall₂.flip h)

/-- A resolution leaves nothing undecided. -/
theorem not_isIndeterminate {ds ds' : List Decision} (h : Resolves ds ds') :
    ∀ d' ∈ ds', ¬ d'.isIndeterminate = true := by
  intro d' hm
  obtain ⟨d, _, hd⟩ := h.exists_origin d' hm
  exact Decision.not_isIndeterminate_of_mem_resolutions hd

/-- What was decided stays. -/
theorem mem_of_mem {ds ds' : List Decision} (h : Resolves ds ds') {x : Effect}
    (hm : x.decision ∈ ds) : x.decision ∈ ds' := by
  obtain ⟨d', hd', hr⟩ := h.exists_resolution _ hm
  have : d' = x.decision := by
    revert hr
    cases x <;> cases d' <;> decide
  exact this ▸ hd'

end Resolves

namespace Effect

/-! ## When an effect is decided -/

theorem overriding_eq_decision_iff {e : Effect} {ds : List Decision} :
    e.overriding ds = e.decision ↔ e.decision ∈ ds := by
  constructor
  · intro h
    by_cases hm : e.decision ∈ ds
    · exact hm
    rcases overriding_cases hm with hi | ho | hn
    · exact absurd (h ▸ hi) (not_isIndeterminate_decision e)
    · exact absurd (h.symm.trans ho) (by cases e <;> decide)
    · exact absurd (hn.symm.trans h) (notApplicable_ne_decision e)
  · intro hm
    rw [overriding, if_pos hm]

/-- Where nothing is undecided, the overriding effect or else the other one is decided, if a child
decides it. -/
theorem overriding_of_resolved {e : Effect} {ds : List Decision}
    (h : ∀ d ∈ ds, ¬ d.isIndeterminate = true) (hm : e.decision ∉ ds) :
    e.overriding ds =
      if e.opposite.decision ∈ ds then e.opposite.decision else .notApplicable := by
  have hd : e.indeterminate ∉ ds := fun hd => h _ hd (isIndeterminate_indeterminate e)
  have ho : e.opposite.indeterminate ∉ ds := fun ho =>
    h _ ho (isIndeterminate_indeterminate e.opposite)
  have hc : ¬ e.Clashes ds := by
    intro hc
    rcases hc with hc | hc | ⟨hc, _⟩
    · exact h _ hc rfl
    · exact h _ hc rfl
    · exact hd hc
  rw [overriding, if_neg hm, if_neg hc, if_neg hd, if_neg ho]

/-! ## Which effects a combination names -/

/-- A child can settle for an effect if it decides it, could have decided it, or is unclear. -/
theorem exists_settling_iff {x : Effect} {ds : List Decision} :
    (∃ d ∈ ds, x.decision ∈ d.resolutions) ↔
      x.decision ∈ ds ∨ x.indeterminate ∈ ds ∨ .indeterminateDenyPermit ∈ ds ∨
        .indeterminate ∈ ds := by
  simp only [Decision.mem_resolutions_iff, and_or_left, exists_or, exists_eq_right]

/-- The combination names the overriding effect exactly if some child can settle for it. -/
theorem mem_effects_overriding (e : Effect) (ds : List Decision) :
    e ∈ (e.overriding ds).effects ↔ ∃ d ∈ ds, e.decision ∈ d.resolutions := by
  rw [exists_settling_iff, overriding]
  split
  · rename_i hm
    exact iff_of_true (by cases e <;> decide) (Or.inl hm)
  rename_i hm
  split
  · rename_i hc
    refine iff_of_true (by cases e <;> decide) ?_
    rcases hc with hc | hc | ⟨hc, _⟩
    · exact Or.inr (Or.inr (Or.inl hc))
    · exact Or.inr (Or.inr (Or.inr hc))
    · exact Or.inr (Or.inl hc)
  rename_i hc
  split
  · rename_i hd
    exact iff_of_true (by cases e <;> decide) (Or.inr (Or.inl hd))
  rename_i hd
  -- what is left names at most the other effect
  refine iff_of_false ?_ ?_
  · split
    · cases e <;> decide
    split <;> cases e <;> decide
  · intro h
    rcases h with h | h | h | h
    · exact hm h
    · exact hd h
    · exact hc (Or.inl h)
    · exact hc (Or.inr (Or.inl h))

/-- It names the other effect exactly if some child can settle for that one and none decides the
overriding effect. -/
theorem mem_effects_overriding_opposite (e : Effect) (ds : List Decision) :
    e.opposite ∈ (e.overriding ds).effects ↔
      e.decision ∉ ds ∧ ∃ d ∈ ds, e.opposite.decision ∈ d.resolutions := by
  rw [exists_settling_iff, overriding]
  split
  · rename_i hm
    exact iff_of_false (by cases e <;> decide) fun h => h.1 hm
  rename_i hm
  split
  · rename_i hc
    refine iff_of_true (by cases e <;> decide) ⟨hm, ?_⟩
    rcases hc with hc | hc | ⟨_, hc | hc⟩
    · exact Or.inr (Or.inr (Or.inl hc))
    · exact Or.inr (Or.inr (Or.inr hc))
    · exact Or.inl hc
    · exact Or.inr (Or.inl hc)
  rename_i hc
  split
  · -- a child that could have overridden, next to one for the other effect, would clash
    rename_i hd
    refine iff_of_false (by cases e <;> decide) ?_
    intro h
    rcases h with ⟨_, h | h | h | h⟩
    · exact hc (Or.inr (Or.inr ⟨hd, Or.inl h⟩))
    · exact hc (Or.inr (Or.inr ⟨hd, Or.inr h⟩))
    · exact hc (Or.inl h)
    · exact hc (Or.inr (Or.inl h))
  split
  · rename_i ho
    exact iff_of_true (by cases e <;> decide) ⟨hm, Or.inl ho⟩
  rename_i ho
  split
  · rename_i hi
    exact iff_of_true (by cases e <;> decide) ⟨hm, Or.inr (Or.inl hi)⟩
  rename_i hi
  refine iff_of_false (by simp [Decision.effects]) ?_
  intro h
  rcases h with ⟨_, h | h | h | h⟩
  · exact ho h
  · exact hi h
  · exact hc (Or.inl h)
  · exact hc (Or.inr (Or.inl h))

/-! ## Which effects the resolutions come to -/

/-- Some resolution comes to the overriding effect exactly if some child can settle for it. -/
theorem exists_resolves_decision_iff {e : Effect} {ds : List Decision} :
    (∃ ds', Resolves ds ds' ∧ e.overriding ds' = e.decision) ↔
      ∃ d ∈ ds, e.decision ∈ d.resolutions := by
  constructor
  · intro h
    obtain ⟨ds', hr, hd⟩ := h
    exact hr.exists_origin _ (overriding_eq_decision_iff.mp hd)
  · intro h
    obtain ⟨d, hm, hd⟩ := h
    refine ⟨ds.map (.settle e), .settle e ds, overriding_eq_decision_iff.mpr ?_⟩
    exact List.mem_map.mpr ⟨d, hm, Decision.settle_eq_iff.mpr hd⟩

/-- Some resolution comes to the other effect exactly if some child can settle for that one and none
decides the overriding effect. -/
theorem exists_resolves_opposite_iff {e : Effect} {ds : List Decision} :
    (∃ ds', Resolves ds ds' ∧ e.overriding ds' = e.opposite.decision) ↔
      e.decision ∉ ds ∧ ∃ d ∈ ds, e.opposite.decision ∈ d.resolutions := by
  constructor
  · intro h
    obtain ⟨ds', hr, hd⟩ := h
    have hm : e.decision ∉ ds' := by
      intro hm
      rw [overriding_eq_decision_iff.mpr hm] at hd
      exact absurd hd (by cases e <;> decide)
    rw [overriding_of_resolved hr.not_isIndeterminate hm] at hd
    split at hd
    · rename_i ho
      exact ⟨fun h => hm (hr.mem_of_mem h), hr.exists_origin _ ho⟩
    · exact absurd hd (notApplicable_ne_decision e.opposite)
  · intro h
    obtain ⟨hn, d, hm, hd⟩ := h
    have hr : Resolves ds (ds.map (.settle e.opposite)) := .settle e.opposite ds
    refine ⟨_, hr, ?_⟩
    have hn' : e.decision ∉ ds.map (.settle e.opposite) := by
      intro h
      obtain ⟨d', hm', hd'⟩ := List.mem_map.mp h
      have hs := Decision.settle_eq_opposite_iff (x := e.opposite) (d := d')
      rw [opposite_opposite] at hs
      exact hn (hs.mp hd' ▸ hm')
    rw [overriding_of_resolved hr.not_isIndeterminate hn', if_pos]
    exact List.mem_map.mpr ⟨d, hm, Decision.settle_eq_iff.mpr hd⟩

/-- **A combination names exactly the effects that its resolutions come to.** -/
theorem mem_effects_iff_exists_resolves (e x : Effect) (ds : List Decision) :
    x ∈ (e.overriding ds).effects ↔ ∃ ds', Resolves ds ds' ∧ e.overriding ds' = x.decision := by
  rcases eq_or_eq_opposite x e with rfl | rfl
  · rw [mem_effects_overriding, exists_resolves_decision_iff]
  · rw [mem_effects_overriding_opposite, exists_resolves_opposite_iff]

/-- Only a child that decides the other effect makes the combination decide it. -/
theorem opposite_mem_of_overriding_eq {e : Effect} {ds : List Decision}
    (h : e.overriding ds = e.opposite.decision) : e.opposite.decision ∈ ds := by
  rw [overriding] at h
  split at h
  · exact absurd h (by cases e <;> decide)
  split at h
  · exact absurd h (by cases e <;> decide)
  split at h
  · exact absurd h (e.indeterminate_ne_decision e.opposite)
  split at h
  · assumption
  split at h
  · exact absurd h (e.opposite.indeterminate_ne_decision e.opposite)
  · exact absurd h (notApplicable_ne_decision e.opposite)

/-- What a combination decides, it decides on every resolution. -/
theorem overriding_of_resolves {e x : Effect} {ds ds' : List Decision}
    (h : e.overriding ds = x.decision) (hr : Resolves ds ds') :
    e.overriding ds' = x.decision := by
  rcases eq_or_eq_opposite x e with rfl | rfl
  · exact overriding_eq_decision_iff.mpr (hr.mem_of_mem (overriding_eq_decision_iff.mp h))
  · -- the overriding effect is not named, so no resolution decides it
    have hn : e.decision ∉ ds' := by
      intro hm
      have he := (mem_effects_overriding e ds).mpr (hr.exists_origin _ hm)
      rw [h] at he
      exact absurd he (by cases e <;> decide)
    rw [overriding_of_resolved hr.not_isIndeterminate hn, if_pos]
    exact hr.mem_of_mem (opposite_mem_of_overriding_eq h)

theorem overriding_ne_indeterminate (e : Effect) (ds : List Decision) :
    e.overriding ds ≠ .indeterminate := by
  rw [overriding]
  split
  · cases e <;> decide
  split
  · decide
  split
  · cases e <;> decide
  split
  · cases e <;> decide
  split <;> cases e <;> decide

end Effect

/-! ## Combining children -/

/-- The decisions of all children, whether or not a survey gets to them. -/
def Survey.decisions (children : List Child) : List (Except Fault Decision) :=
  (outcomes children).map (Except.map Result.decision)

/-- What a combination decides. -/
def Method.decides (children : List Child) (ps : List Parameter) (ctx : Context) (m : Method) :
    Except Fault Decision :=
  (m.combine children ps ctx).outcome.map Result.decision

theorem Survey.exists_results {children : List Child} {ds : List Decision}
    (h : decisions children = ds.map .ok) :
    ∃ rs : List Result, outcomes children = rs.map .ok ∧ rs.map Result.decision = ds := by
  induction children generalizing ds with
  | nil =>
      obtain rfl : ds = [] := by simpa [decisions, outcomes] using h.symm
      exact ⟨[], rfl, rfl⟩
  | cons c rest ih =>
      cases ds with
      | nil => simp [decisions, outcomes] at h
      | cons d ds =>
          simp only [decisions, outcomes, List.map_cons, List.cons.injEq] at h
          obtain ⟨rs, h1, h2⟩ := ih h.2
          cases hc : (c.evaluate ()).outcome with
          | error f => rw [hc] at h; exact absurd h.1 (by simp [Except.map])
          | ok r =>
              rw [hc] at h
              refine ⟨r :: rs, ?_, ?_⟩
              · rw [outcomes, List.map_cons, hc, List.map_cons, ← h1]
                rfl
              · rw [List.map_cons, h2]
                exact congrArg (· :: ds) (Except.ok.inj h.1)

theorem Survey.decisions_fixed (ds : List Decision) :
    decisions (ds.map fun d => .fixed (.of d)) = ds.map .ok := by
  rw [decisions, outcomes, List.map_map, List.map_map]
  rfl

theorem Method.decides_overrides {e : Effect} {children : List Child} {ds : List Decision}
    (h : Survey.decisions children = ds.map .ok) (ps : List Parameter) (ctx : Context) :
    (Method.overrides e).decides children ps ctx = .ok (e.overriding ds) := by
  obtain ⟨rs, hr, rfl⟩ := Survey.exists_results h
  rw [decides, outcome_overrides hr, ← Effect.decision_overridden]
  rfl

/-- **The undecided decisions of deny-overrides and permit-overrides are exact.** The effects that
the decision names are those that the algorithm comes to on the resolutions of the children, and a
permit or deny is what it comes to on every one of them. -/
theorem Method.overrides_effects_exact (e : Effect) {children : List Child} {ds : List Decision}
    (h : Survey.decisions children = ds.map .ok) (ps : List Parameter) (ctx : Context) :
    ∃ d, (Method.overrides e).decides children ps ctx = .ok d ∧ d ≠ .indeterminate ∧
      (∀ x : Effect, x ∈ d.effects ↔
        ∃ resolved ds', Survey.decisions resolved = ds'.map .ok ∧ Resolves ds ds' ∧
          (Method.overrides e).decides resolved ps ctx = .ok x.decision) ∧
      (d.isFinal = true →
        ∀ resolved ds', Survey.decisions resolved = ds'.map .ok → Resolves ds ds' →
          (Method.overrides e).decides resolved ps ctx = .ok d) := by
  refine ⟨e.overriding ds, decides_overrides h ps ctx, e.overriding_ne_indeterminate ds, ?_, ?_⟩
  · intro x
    rw [Effect.mem_effects_iff_exists_resolves]
    constructor
    · intro h
      obtain ⟨ds', hr, hd⟩ := h
      have hf := Survey.decisions_fixed ds'
      exact ⟨_, ds', hf, hr, hd ▸ decides_overrides hf ps ctx⟩
    · intro h
      obtain ⟨resolved, ds', hf, hr, hd⟩ := h
      rw [decides_overrides hf ps ctx] at hd
      exact ⟨ds', hr, Except.ok.inj hd⟩
  · intro hd resolved ds' hf hr
    rw [← Effect.ofDecision?_isSome] at hd
    obtain ⟨x, hx⟩ := Option.isSome_iff_exists.mp hd
    have hx := Effect.ofDecision?_eq_some_iff.mp hx
    rw [decides_overrides hf ps ctx, hx, Effect.overriding_of_resolves hx hr]

/-- A permit beside a possible deny leaves deny-overrides with both. -/
theorem Method.overrides_effects_exact_both :
    let ds := [.permit, .indeterminateDeny]
    let children := ds.map fun d => Child.fixed (.of d)
    Survey.decisions children = ds.map .ok ∧
      ∀ x : Effect, x ∈ [Effect.permit, .deny] ↔
        ∃ resolved ds', Survey.decisions resolved = ds'.map .ok ∧ Resolves ds ds' ∧
          (Method.overrides .deny).decides resolved [] .bare = .ok x.decision := by
  intro ds children
  have h : Survey.decisions children = ds.map .ok := rfl
  obtain ⟨d, hd, _, hx, _⟩ := Method.overrides_effects_exact .deny h [] .bare
  obtain rfl : .indeterminateDenyPermit = d := Except.ok.inj hd
  exact ⟨h, hx⟩

end Abac
