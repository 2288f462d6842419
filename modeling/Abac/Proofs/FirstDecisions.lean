import Abac.Proofs.Symmetry

/-!
# The first decision and what could have come behind it

First-applicable decides what the first child decides that applies. If that child is undecided, so
is the combination, with the same effect to its name, and the children behind it are not looked at.
This is where the decision may name too little: had the undecided child turned out not to apply, a
child behind it would have decided, and perhaps the other effect.

Whether there is such a child is a question about the ones behind the first that applies
(`Decision.CanComeTo`): one of them can turn out to have the other effect, and all those between can
turn out not to apply. Where there is none, the decision names what is possible, as it does in
deny-overrides and permit-overrides.
-/

namespace Abac

namespace Decision

variable {x : Effect} {d : Decision} {ds ds' : List Decision}

/-- The first decision of a list other than that nothing applies. -/
def first (ds : List Decision) : Decision := (ds.find? (· ≠ .notApplicable)).getD .notApplicable

theorem first_cons_notApplicable (ds : List Decision) :
    first (.notApplicable :: ds) = first ds := by
  rw [first, List.find?_cons_of_neg (by decide), first]

theorem first_cons (h : d ≠ .notApplicable) (ds : List Decision) : first (d :: ds) = d := by
  rw [first, List.find?_cons_of_pos (by simpa using h)]
  rfl

/-- The first decision stands behind children that do not apply. -/
theorem exists_of_first (h : first ds = d) (hd : d ≠ .notApplicable) :
    ∃ front back, ds = front ++ d :: back ∧ ∀ c ∈ front, c = .notApplicable := by
  induction ds with
  | nil => exact absurd h.symm hd
  | cons c ds ih =>
      by_cases hc : c = .notApplicable
      · subst hc
        rw [first_cons_notApplicable] at h
        obtain ⟨front, back, rfl, hfront⟩ := ih h
        exact ⟨.notApplicable :: front, back, rfl, List.forall_mem_cons.mpr ⟨rfl, hfront⟩⟩
      · rw [first_cons hc] at h
        exact ⟨[], ds, by rw [h, List.nil_append], List.forall_mem_nil _⟩

/-! ## What resolutions come to -/

/-- Children can come to an effect if one of them can turn out to have it and all in front of that
one can turn out not to apply. -/
def CanComeTo (x : Effect) (ds : List Decision) : Prop :=
  ∃ front c back, ds = front ++ c :: back ∧ (∀ d ∈ front, .notApplicable ∈ d.resolutions) ∧
    x.decision ∈ c.resolutions

theorem not_canComeTo_nil : ¬CanComeTo x [] := by
  intro h
  obtain ⟨front, c, back, hds, -⟩ := h
  exact List.append_ne_nil_of_right_ne_nil front (List.cons_ne_nil c back) hds.symm

theorem canComeTo_cons_iff :
    CanComeTo x (d :: ds) ↔
      x.decision ∈ d.resolutions ∨ .notApplicable ∈ d.resolutions ∧ CanComeTo x ds := by
  refine ⟨fun h => ?_, fun h => ?_⟩
  · obtain ⟨front, c, back, hds, hfront, hc⟩ := h
    cases front with
    | nil =>
        obtain ⟨rfl, -⟩ := List.cons.inj hds
        exact .inl hc
    | cons d' front =>
        obtain ⟨rfl, rfl⟩ := List.cons.inj hds
        obtain ⟨hd, hfront⟩ := List.forall_mem_cons.mp hfront
        exact .inr ⟨hd, front, c, back, rfl, hfront, hc⟩
  · rcases h with hd | ⟨hd, front, c, back, rfl, hfront, hc⟩
    · exact ⟨[], d, ds, rfl, List.forall_mem_nil _, hd⟩
    · exact ⟨d :: front, c, back, rfl, List.forall_mem_cons.mpr ⟨hd, hfront⟩, hc⟩

/-- **The first decision of some resolution is an effect** exactly if the children can come to that
effect. -/
theorem exists_resolves_first_iff :
    (∃ ds', Resolves ds ds' ∧ first ds' = x.decision) ↔ CanComeTo x ds := by
  induction ds with
  | nil =>
      refine iff_of_false (fun h => ?_) not_canComeTo_nil
      obtain ⟨ds', hr, hfirst⟩ := h
      cases hr
      exact Effect.notApplicable_ne_decision x hfirst
  | cons d ds ih =>
      rw [canComeTo_cons_iff, ← ih]
      refine ⟨fun h => ?_, fun h => ?_⟩
      · obtain ⟨ds', hr, hfirst⟩ := h
        cases hr with
        | @cons _ d' _ ds' hd hr =>
            by_cases hna : d' = .notApplicable
            · subst hna
              rw [first_cons_notApplicable] at hfirst
              exact .inr ⟨hd, ds', hr, hfirst⟩
            · rw [first_cons hna] at hfirst
              exact .inl (hfirst ▸ hd)
      · rcases h with hd | ⟨hd, ds', hr, hfirst⟩
        · refine ⟨x.decision :: ds.map (.settle x), .cons hd (Resolves.settle x ds), ?_⟩
          exact first_cons (Effect.notApplicable_ne_decision x).symm _
        · exact ⟨.notApplicable :: ds', .cons hd hr, (first_cons_notApplicable ds').trans hfirst⟩

/-- A child that could have had only one effect, and those in front of it that do not apply, leave
the other effect to the children behind it. -/
theorem canComeTo_opposite_iff {front back : List Decision} (h : ∀ c ∈ front, c = .notApplicable) :
    CanComeTo x.opposite (front ++ x.indeterminate :: back) ↔ CanComeTo x.opposite back := by
  induction front with
  | nil =>
      have hno : x.opposite.decision ∉ x.indeterminate.resolutions := by cases x <;> decide
      have hna : .notApplicable ∈ x.indeterminate.resolutions := by cases x <;> decide
      rw [List.nil_append, canComeTo_cons_iff]
      exact ⟨fun h => (h.resolve_left hno).2, fun h => .inr ⟨hna, h⟩⟩
  | cons c front ih =>
      obtain ⟨rfl, hfront⟩ := List.forall_mem_cons.mp h
      have hno : x.opposite.decision ∉ Decision.notApplicable.resolutions := by cases x <;> decide
      rw [List.cons_append, canComeTo_cons_iff, ← ih hfront]
      exact ⟨fun h => (h.resolve_left hno).2, fun h => .inr ⟨List.mem_singleton.mpr rfl, h⟩⟩

/-- What is decided is decided on every resolution. -/
theorem first_of_resolves (hr : Resolves ds ds') (hd : ¬(first ds).isIndeterminate = true) :
    first ds' = first ds := by
  induction hr with
  | nil => rfl
  | @cons d d' ds ds' hdd _ ih =>
      by_cases hna : d = .notApplicable
      · subst hna
        obtain rfl := List.mem_singleton.mp hdd
        rw [first_cons_notApplicable] at hd ⊢
        rw [first_cons_notApplicable]
        exact ih hd
      · rw [first_cons hna] at hd ⊢
        -- an effect that is decided has no other resolution
        have hsame : d' = d ∧ d' ≠ .notApplicable := by
          revert hd hna hdd
          cases d <;> cases d' <;> decide
        rw [first_cons hsame.2, hsame.1]

end Decision

/-! ## The method -/

namespace Method

variable {children : List Child} {ds : List Decision}

theorem decides_first (h : Survey.decisions children = ds.map .ok) (ps : List Parameter)
    (ctx : Context) :
    Method.firstApplicable.decides children ps ctx = .ok (Decision.first ds) :=
  decides_of_verdict? h ps ctx rfl

theorem exists_resolved_iff (ps : List Parameter) (ctx : Context) (x : Effect)
    (ds : List Decision) :
    (∃ resolved ds', Survey.decisions resolved = ds'.map .ok ∧ Resolves ds ds' ∧
        Method.firstApplicable.decides resolved ps ctx = .ok x.decision) ↔
      Decision.CanComeTo x ds := by
  rw [← Decision.exists_resolves_first_iff]
  refine ⟨fun h => ?_, fun h => ?_⟩
  · obtain ⟨resolved, ds', hf, hr, hd⟩ := h
    rw [decides_first hf] at hd
    exact ⟨ds', hr, Except.ok.inj hd⟩
  · obtain ⟨ds', hr, hd⟩ := h
    have hf := Survey.decisions_fixed ds'
    exact ⟨_, ds', hf, hr, hd ▸ decides_first hf ps ctx⟩

/-- **First-applicable on the resolutions of its children.** What it decides, or that nothing
applies, it comes to on every resolution. If it is undecided and names one effect, the first child
that applies is so, and some resolution comes to the other effect exactly if the children behind
that one can come to it. -/
theorem firstApplicable_resolved (h : Survey.decisions children = ds.map .ok)
    (ps : List Parameter) (ctx : Context) :
    ∃ d, Method.firstApplicable.decides children ps ctx = .ok d ∧
      (¬d.isIndeterminate = true → ∀ resolved ds', Survey.decisions resolved = ds'.map .ok →
        Resolves ds ds' → Method.firstApplicable.decides resolved ps ctx = .ok d) ∧
      ∀ x : Effect, d = x.indeterminate →
        ∃ front back, ds = front ++ x.indeterminate :: back ∧
          (∀ c ∈ front, c = .notApplicable) ∧
          ((∃ resolved ds', Survey.decisions resolved = ds'.map .ok ∧ Resolves ds ds' ∧
              Method.firstApplicable.decides resolved ps ctx = .ok x.opposite.decision) ↔
            Decision.CanComeTo x.opposite back) := by
  refine ⟨Decision.first ds, decides_first h ps ctx, fun hd resolved ds' hf hr => ?_,
    fun x hx => ?_⟩
  · rw [decides_first hf, Decision.first_of_resolves hr hd]
  · have hne : x.indeterminate ≠ .notApplicable := by cases x <;> decide
    obtain ⟨front, back, rfl, hfront⟩ := Decision.exists_of_first hx hne
    refine ⟨front, back, rfl, hfront, ?_⟩
    rw [exists_resolved_iff, Decision.canComeTo_opposite_iff hfront]

/-- A possible permit in front of a child that permits does not turn out to be a deny. -/
theorem firstApplicable_resolved_permit :
    ¬∃ resolved ds', Survey.decisions resolved = ds'.map .ok ∧
      Resolves [.indeterminatePermit, .notApplicable, .permit] ds' ∧
      Method.firstApplicable.decides resolved [] .bare = .ok .deny := by
  have h := Survey.decisions_fixed [.indeterminatePermit, .notApplicable, .permit]
  obtain ⟨d, hd, -, hname⟩ := firstApplicable_resolved h [] .bare
  obtain rfl := Except.ok.inj hd
  obtain ⟨front, back, hds, hfront, hiff⟩ := hname .permit rfl
  obtain ⟨rfl, rfl⟩ : front = [] ∧ back = [.notApplicable, .permit] := by
    cases front with
    | nil => exact ⟨rfl, (List.cons.inj hds).2.symm⟩
    | cons c front =>
        obtain ⟨rfl, -⟩ := List.cons.inj hds
        exact absurd (hfront _ List.mem_cons_self) (by decide)
  have hno : ¬Decision.CanComeTo .deny [.notApplicable, .permit] := by
    simp [Decision.canComeTo_cons_iff, Decision.not_canComeTo_nil, Decision.resolutions,
      Effect.decision]
  exact fun hdeny => hno (hiff.mp hdeny)

/-- What a possible permit in front of a child that denies is taken for, and what it can be. -/
theorem firstApplicable_names_too_little :
    Method.firstApplicable.decides ([.indeterminatePermit, .deny].map fun d => .fixed (.of d)) []
        .bare = .ok .indeterminatePermit ∧
      Resolves [.indeterminatePermit, .deny] [.notApplicable, .deny] ∧
      Method.firstApplicable.decides ([.notApplicable, .deny].map fun d => .fixed (.of d)) []
        .bare = .ok .deny := by
  refine ⟨rfl, .cons (by decide) (.cons (by decide) .nil), rfl⟩

end Method

end Abac
