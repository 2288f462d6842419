import Abac.Combining.Algorithm

/-!
# The earlier algorithms of rules forget what was possible

Both generations of deny-overrides and permit-overrides go through the children
in the same order and stop at the same child. They keep different books about
the undecided ones: the later algorithms keep apart what could have been decided,
the earlier ones only whether the overriding effect could have been.

What the earlier algorithm knows is a function of what the later one knows
(`Tally.coarse`), and this is kept by every step (`weighEarlier_coarse`). A
survey that follows another in this way ends as the other does
(`Follows.run_eq`), at the same child, with the same fault or the same result,
up to what the result forgets.
-/

namespace Abac

/-! ## Following a survey -/

namespace Survey

variable {σ τ : Type}

/-- The reaction with its summary and its result seen in another way. -/
def Reaction.see (f : σ → τ) (g : Result → Result) : Reaction σ → Reaction τ
  | .settle r => .settle (g r)
  | .proceed summary => .proceed (f summary)

/-- A survey `t` knows what `s` knows, as seen by `f`, and comes to what `s` comes to, as seen by
`g`. The conclusions need only agree on summaries with the property `I`, which `s` keeps. -/
structure Follows (t : Survey τ) (s : Survey σ) (I : σ → Prop) (f : σ → τ) (g : Result → Result) :
    Prop where
  start : t.start = f s.start
  react : ∀ summary r, t.react (f summary) r = Reaction.see f g (s.react summary r)
  conclude : ∀ {summary}, I summary → t.conclude (f summary) = g (s.conclude summary)
  begins : I s.start
  keeps : ∀ {summary next r}, I summary → s.react summary r = .proceed next → I next

namespace Follows

variable {t : Survey τ} {s : Survey σ} {I : σ → Prop} {f : σ → τ} {g : Result → Result}

theorem runFrom_eq (h : t.Follows s I f g) {summary : σ} (hI : I summary)
    (children : List Child) :
    t.runFrom (f summary) children = g <$> s.runFrom summary children := by
  induction children generalizing summary with
  | nil => rw [runFrom, runFrom, h.conclude hI, map_pure]
  | cons c rest ih =>
      rw [runFrom, runFrom, map_bind]
      refine congrArg _ (funext fun r => ?_)
      rw [h.react]
      cases hr : s.react summary r with
      | settle q => exact (map_pure g q).symm
      | proceed next => exact ih (h.keeps hI hr)

/-- The runs agree, faults and events included. -/
theorem run_eq (h : t.Follows s I f g) (children : List Child) :
    t.run children = g <$> s.run children := by
  rw [run, run, h.start]
  exact h.runFrom_eq h.begins children

end Follows

end Survey

/-! ## What is forgotten -/

/-- The decision without what it could have been. -/
def Decision.untracked (d : Decision) : Decision := if d.isIndeterminate then .indeterminate else d

/-- The result without what its decision could have been. -/
def Result.untracked (r : Result) : Result := r.decide r.decision.untracked

theorem Result.untracked_of_decided {r : Result} (h : r.decision.isIndeterminate = false) :
    r.untracked = r := by
  rw [untracked, Decision.untracked, h]
  rfl

theorem Result.untracked_withStatus {d : Decision} (h : d.isIndeterminate = true) (s : Status) :
    (Result.withStatus d s).untracked = .indeterminate s := by
  rw [untracked, withStatus, Decision.untracked, h]
  rfl

/-- A final decision has nothing to forget. -/
theorem Result.untracked_of_final {r : Result} (h : r.untracked.decision.isFinal = true) :
    r.untracked = r ∧ r.decision.isFinal = true := by
  cases hi : r.decision.isIndeterminate with
  | true =>
      have hd : r.untracked.decision = .indeterminate := if_pos hi
      rw [hd] at h
      cases h
  | false =>
      have hr := untracked_of_decided hi
      exact ⟨hr, hr ▸ h⟩

namespace Tally

/-- What an earlier algorithm knows where a later one has a tally. -/
def coarse (t : Tally) : Survey.EarlierTally :=
  ⟨t.opposing, t.unclear || t.mayDecide, t.mayOppose, t.failure⟩

/-- What is gathered for the other effect has been decided. -/
def Settled (t : Tally) : Prop := ∀ r, t.opposing = some r → r.decision.isIndeterminate = false

end Tally

namespace Survey

/-- **One step.** Where the later algorithm goes on, so does the earlier one, and it knows what the
tally tells it. -/
theorem weighEarlier_coarse (e : Effect) (t : Tally) (r : Result) :
    weighEarlier e t.coarse r = Reaction.see Tally.coarse .untracked (weigh e t r) := by
  have hu : r.decision.isIndeterminate = false → r.untracked = r := Result.untracked_of_decided
  rw [weighEarlier, weigh]
  -- the two classifications are compared decision by decision
  cases e <;> cases hd : r.decision <;>
    simp [Effect.standing, Effect.decision, Effect.opposite, Effect.indeterminate, Reaction.see,
      Tally.coarse, Tally.noteFailure, hu, hd, Decision.isIndeterminate]

/-- The later algorithm gathers nothing but results of the other effect. -/
theorem settled_of_weigh {e : Effect} {t next : Tally} {r : Result} (ht : t.Settled)
    (h : weigh e t r = .proceed next) : next.Settled := by
  rw [weigh] at h
  split at h <;> cases h <;> try exact ht
  -- one more result is merged, and the decision stays
  intro q hq
  obtain rfl := Option.some.inj hq
  cases ho : t.opposing with
  | none => exact Bool.eq_false_iff.mpr (Effect.not_isIndeterminate_decision e.opposite)
  | some merged => exact ht merged ho

/-- The conclusions are the same, up to what an undecided one could have been. -/
theorem conclude_coarse (e : Effect) {t : Tally} (ht : t.Settled) :
    (earlierRuleOverrides e).conclude t.coarse = ((overrides e).conclude t).untracked := by
  dsimp only [earlierRuleOverrides, overrides, Tally.coarse, Tally.failed]
  cases hu : t.unclear with
  | true => exact (Result.untracked_withStatus rfl _).symm
  | false =>
      cases hm : t.mayDecide with
      | true =>
          -- with or without a clash, the later algorithm is undecided too
          split
          · split
            · exact (Result.untracked_withStatus rfl _).symm
            · exact (Result.untracked_withStatus e.isIndeterminate_indeterminate _).symm
          · contradiction
      | false =>
          cases ho : t.opposing with
          | some r => exact (Result.untracked_of_decided (ht r ho)).symm
          | none =>
              cases t.mayOppose with
              | true =>
                  have hi := e.opposite.isIndeterminate_indeterminate
                  exact (Result.untracked_withStatus hi _).symm
              | false => rfl

theorem earlierRuleOverrides_follows (e : Effect) :
    (earlierRuleOverrides e).Follows (overrides e) Tally.Settled Tally.coarse .untracked where
  start := rfl
  react := weighEarlier_coarse e
  conclude := conclude_coarse e
  begins := fun _ h => nomatch h
  keeps := settled_of_weigh

end Survey

/-- **The earlier deny-overrides and permit-overrides of rules are the later ones with what was
possible forgotten.** They come to the same fault or to the same result but for an undecided
decision, and the children are asked for the same things in the same order. -/
theorem Method.earlierRuleOverrides_eq_untracked (e : Effect) (children : List Child)
    (ps : List Parameter) (ctx : Context) :
    let earlier := (Method.earlierRuleOverrides e).combine children ps ctx
    let later := (Method.overrides e).combine children ps ctx
    earlier.outcome = later.outcome.map Result.untracked ∧ earlier.events = later.events := by
  intro earlier later
  have h : earlier = Result.untracked <$> later :=
    (Survey.earlierRuleOverrides_follows e).run_eq children
  rw [h]
  exact ⟨Run.outcome_map _ later, Run.events_map _ later⟩

end Abac
