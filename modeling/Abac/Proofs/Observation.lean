import Abac.Proofs.Contribution
import Abac.Proofs.Related

/-!
# What combinations pass on

Two things go through a combining algorithm that it has no use for: the policies
that the children's results list, and the events that the children record. A
method is discreet (`Method.Discreet`) if it passes them on and does nothing else
about them, nor about the settings that ask for them. Without the lists of its
children it comes to the same result without lists, and it records what the
children record that it evaluates, one after the other.

All built-in methods are discreet (`Method.discreet_of_isStandard`). Which
children they evaluate is said by `Method.visited`: those up to the first one
that decides in a certain way, or for only-one-applicable the one whose target
matches. A method that is not built in may evaluate any children, in any order.
-/

namespace Abac

/-! ## Results without their lists -/

namespace Result

/-- The result with its lists of policies and policy sets, or without them. -/
def listed : Bool → Result → Result
  | true, r => r
  | false, r => { r with policies := [], policySets := [] }

variable {keep : Bool}

@[simp] theorem decision_listed (r : Result) : (r.listed keep).decision = r.decision := by
  cases keep <;> rfl

@[simp] theorem status_listed (r : Result) : (r.listed keep).status = r.status := by
  cases keep <;> rfl

@[simp] theorem listed_withStatus (d : Decision) (s : Status) :
    (withStatus d s).listed keep = withStatus d s := by
  cases keep <;> rfl

@[simp] theorem listed_of (d : Decision) : (of d).listed keep = of d := listed_withStatus d .ok

@[simp] theorem listed_notApplicable : notApplicable.listed keep = notApplicable :=
  listed_of .notApplicable

@[simp] theorem listed_indeterminate (s : Status) :
    (indeterminate s).listed keep = indeterminate s := listed_withStatus .indeterminate s

@[simp] theorem listed_merge (r q : Result) :
    (r.merge q).listed keep = (r.listed keep).merge (q.listed keep) := by
  cases keep <;> rfl

theorem map_listed_true (o : Except Fault Result) : o.map (listed true) = o := by
  cases o <;> rfl

theorem untracked_listed (r : Result) : (r.listed keep).untracked = r.untracked.listed keep := by
  cases keep <;> rfl

theorem map_accumulate (d : Decision) (merged : Option Result) (r : Result) :
    (accumulate d merged r).map (listed keep) =
      accumulate d (merged.map (listed keep)) (r.listed keep) := by
  cases merged <;> simp [accumulate]

end Result

/-! ## Surveys of children without their lists -/

namespace Survey

variable {σ : Type} {s : Survey σ} {f : σ → σ} {g : Result → Result}

/-- A survey does not notice a change `g` of results, except that its summary changes by `f`. -/
structure Respects (s : Survey σ) (f : σ → σ) (g : Result → Result) : Prop where
  start : s.start = f s.start
  react : ∀ summary r, s.react (f summary) (g r) = Reaction.see f g (s.react summary r)
  conclude : ∀ summary, s.conclude (f summary) = g (s.conclude summary)

/-- The children come to results that are changed. -/
theorem Respects.outcome_run (h : s.Respects f g) {children changed : List Child}
    (hc : List.Forall₂ (fun c d => (d.evaluate ()).outcome = (c.evaluate ()).outcome.map g)
      children changed) :
    (s.run changed).outcome = (s.run children).outcome.map g := by
  suffices ∀ summary,
      (s.runFrom (f summary) changed).outcome = (s.runFrom summary children).outcome.map g by
    rw [run, run, ← this, ← h.start]
  induction hc with
  | nil =>
      intro summary
      exact congrArg Except.ok (h.conclude summary)
  | @cons c d children changed hcd _ ih =>
      intro summary
      rw [runFrom, runFrom, Run.outcome_bind, Run.outcome_bind, hcd]
      cases (c.evaluate ()).outcome with
      | error e => rfl
      | ok r =>
          dsimp only [Except.map, Except.bind]
          rw [h.react]
          cases s.react summary r with
          | settle q => rfl
          | proceed next => exact ih next

end Survey

/-- The tally with the lists of what it has gathered, or without them. -/
def Tally.listed (keep : Bool) (t : Tally) : Tally :=
  { t with opposing := t.opposing.map (.listed keep) }

namespace Survey

variable (keep : Bool)

theorem respects_overrides (e : Effect) :
    (overrides e).Respects (Tally.listed keep) (.listed keep) where
  start := rfl
  react t r := by
    dsimp only [overrides, weigh]
    rw [Result.decision_listed]
    cases e.standing r.decision <;>
      simp [Reaction.see, Tally.listed, Tally.noteFailure, Result.map_accumulate]
  conclude t := by
    dsimp only [overrides, Tally.listed, Tally.failed]
    cases t.opposing <;> simp [apply_ite (Result.listed keep)]

theorem respects_earlierDenyOverrides :
    earlierDenyOverrides.Respects (Option.map (.listed keep)) (.listed keep) where
  start := rfl
  react permitted r := by
    dsimp only [earlierDenyOverrides]
    rw [Result.decision_listed]
    cases r.decision <;> simp [Reaction.see, Result.map_accumulate]
  conclude permitted := by cases permitted <;> simp [earlierDenyOverrides]

theorem respects_earlierPermitOverrides :
    earlierPermitOverrides.Respects
      (fun seen => ⟨seen.denied.map (.listed keep), seen.undecided.map (.listed keep)⟩)
      (.listed keep) where
  start := rfl
  react seen r := by
    dsimp only [earlierPermitOverrides]
    rw [Result.decision_listed]
    cases r.decision <;> cases hu : seen.undecided <;>
      simp [Reaction.see, Result.map_accumulate, hu]
  conclude seen := by
    dsimp only [earlierPermitOverrides]
    cases seen.denied <;> cases seen.undecided <;> simp

theorem respects_defaulting (e : Effect) :
    (defaulting e).Respects (.listed keep) (.listed keep) where
  start := (Result.listed_of e.opposite.decision).symm
  react merged r := by
    dsimp only [defaulting]
    rw [Result.decision_listed]
    split
    · rfl
    split
    · rw [Reaction.see, Result.listed_merge]
    · rfl
  conclude _ := rfl

theorem respects_firstApplicable : firstApplicable.Respects id (.listed keep) where
  start := rfl
  react _ r := by
    dsimp only [firstApplicable]
    rw [Result.decision_listed]
    split <;> rfl
  conclude _ := Result.listed_notApplicable.symm

end Survey

/-! ## Which children are evaluated -/

namespace Child

/-- Whether a survey that stops at results of some kind stops at the child. A child that comes to no
result stops every survey. -/
def stops (p : Result → Bool) (c : Child) : Bool :=
  match (c.evaluate ()).outcome with
  | .ok r => p r
  | .error _ => true

/-- Whether the child's target tells if the child applies. -/
def isClear (c : Child) : Bool :=
  match (c.matchTarget ()).outcome with
  | .ok (.unclear _) => false
  | .ok _ => true
  | .error _ => false

end Child

section

variable {α β : Type}

/-- The elements up to the first at which a survey stops. -/
def upTo (child : α → Child) (p : Result → Bool) : List α → List α
  | [] => []
  | x :: rest => x :: if (child x).stops p then [] else upTo child p rest

theorem upTo_subset (child : α → Child) (p : Result → Bool) (xs : List α) :
    upTo child p xs ⊆ xs := by
  induction xs with
  | nil => exact List.Subset.refl []
  | cons x rest ih =>
      rw [upTo]
      split
      · exact List.cons_subset_cons x (List.nil_subset rest)
      · exact List.cons_subset_cons x ih

theorem upTo_map (child : β → Child) (f : α → β) (p : Result → Bool) (xs : List α) :
    upTo child p (xs.map f) = (upTo (fun x => child (f x)) p xs).map f := by
  induction xs with
  | nil => rfl
  | cons x rest ih =>
      rw [List.map_cons, upTo, upTo, List.map_cons, ih]
      split <;> rfl

/-- The list if it has one element, and else none. -/
def soleOf : List α → List α
  | [x] => [x]
  | _ => []

theorem soleOf_subset (xs : List α) : soleOf xs ⊆ xs := by
  rw [soleOf.eq_def]
  split
  · exact List.Subset.refl _
  · exact List.nil_subset _

theorem soleOf_map (f : α → β) (xs : List α) : soleOf (xs.map f) = (soleOf xs).map f := by
  match xs with
  | [] => rfl
  | [_] => rfl
  | _ :: _ :: _ => rfl

/-- The only element whose target matches, if all targets tell. -/
def soleMatch (child : α → Child) (xs : List α) : List α :=
  if xs.all fun x => (child x).isClear then soleOf (xs.filter fun x => (child x).applies) else []

theorem soleMatch_subset (child : α → Child) (xs : List α) : soleMatch child xs ⊆ xs := by
  rw [soleMatch]
  split
  · exact List.Subset.trans (soleOf_subset _) List.filter_sublist.subset
  · exact List.nil_subset xs

theorem soleMatch_map (child : β → Child) (f : α → β) (xs : List α) :
    soleMatch child (xs.map f) = (soleMatch (fun x => child (f x)) xs).map f := by
  rw [soleMatch, soleMatch, List.all_map, List.filter_map, soleOf_map, apply_ite (List.map f)]
  rfl

end

namespace Method

variable {α : Type}

/-- Whether a method that evaluates the children in order stops at one that decides `d`. -/
def stopsAt (d : Decision) : Method → Bool
  | .overrides e | .earlierRuleOverrides e | .defaulting e => d = e.decision
  | .earlierDenyOverrides => d = .deny || d.isIndeterminate
  | .earlierPermitOverrides => d = .permit
  | .firstApplicable => d ≠ .notApplicable
  | .onlyOneApplicable | .custom _ => false

/-- The elements that a built-in method evaluates, in the order in which it does. -/
def visited (child : α → Child) (xs : List α) : Method → List α
  | .onlyOneApplicable => soleMatch child xs
  | m => upTo child (fun r => m.stopsAt r.decision) xs

/-- A method evaluates the elements `vs`, in this order. Of one that is not built in, no more is
known than that they are among `xs`. -/
def Visits (child : α → Child) (xs vs : List α) : Method → Prop
  | .custom _ => vs ⊆ xs
  | m => vs = m.visited child xs

theorem Visits.subset {child : α → Child} {xs vs : List α} {m : Method}
    (h : m.Visits child xs vs) : vs ⊆ xs := by
  cases m with
  | custom combine => exact h
  | onlyOneApplicable => exact h ▸ soleMatch_subset child xs
  | _ => exact h ▸ upTo_subset child _ xs

/-- A method that evaluates children evaluates what they are children for. -/
theorem Visits.of_map {child : α → Child} {xs : List α} {cs : List Child} {m : Method}
    (h : m.Visits id (xs.map child) cs) : ∃ vs, m.Visits child xs vs ∧ cs = vs.map child := by
  cases m with
  | custom combine => exact exists_map_of_subset h
  | onlyOneApplicable => exact ⟨_, rfl, h.trans (soleMatch_map id child xs)⟩
  | _ => exact ⟨_, rfl, h.trans (upTo_map id child _ xs)⟩

end Method

/-! ## What is recorded -/

/-- A run records what children record, one after the other. Where it comes to a result, so did
they. -/
structure Run.Replays (run : Run Result) (cs : List Child) : Prop where
  events : run.events = cs.flatMap fun c => (c.evaluate ()).events
  results : ∀ r, run.outcome = .ok r → ∀ c ∈ cs, ∃ q, (c.evaluate ()).outcome = .ok q

namespace Run.Replays

theorem of_silent {run : Run Result} (h : run.events = []) : run.Replays [] :=
  ⟨h, fun _ _ _ hc => nomatch hc⟩

theorem pure (r : Result) : Replays (pure r) [] := of_silent rfl

theorem evaluate (c : Child) : Replays (c.evaluate ()) [c] where
  events := (List.append_nil _).symm
  results r hr _ hc := ⟨r, List.mem_singleton.mp hc ▸ hr⟩

/-- A step that records nothing comes first. -/
theorem after_silent {α : Type} {step : Run α} {next : α → Run Result} {cs : List Child}
    (hs : step.events = []) (ho : ∀ a, step.outcome = .ok a → (next a).Replays cs)
    (he : ∀ f, step.outcome = .error f → cs = []) : Replays (step >>= next) cs := by
  cases h : step.outcome with
  | error f =>
      rw [bind_of_error h, hs, he f h]
      exact of_silent rfl
  | ok a =>
      rw [bind_of_ok h, hs]
      exact ho a h

/-- A child is evaluated first. -/
theorem after_child {c : Child} {next : Result → Run Result} {cs : List Child}
    (ho : ∀ r, (c.evaluate ()).outcome = .ok r → (next r).Replays cs)
    (he : ∀ f, (c.evaluate ()).outcome = .error f → cs = []) :
    Replays (c.evaluate () >>= next) (c :: cs) := by
  cases h : (c.evaluate ()).outcome with
  | error f =>
      rw [bind_of_error h, he f h]
      exact ⟨(evaluate c).events, fun _ hr => nomatch hr⟩
  | ok r =>
      have hn := ho r h
      rw [bind_of_ok h]
      refine ⟨by rw [hn.events, List.flatMap_cons], fun q hq => ?_⟩
      exact List.forall_mem_cons.mpr ⟨⟨r, h⟩, hn.results q hq⟩

/-- Nothing more is recorded afterwards. -/
theorem before_silent {run : Run Result} {next : Result → Run Result} {cs : List Child}
    (h : run.Replays cs) (hn : ∀ r, (next r).events = []) : Replays (run >>= next) cs := by
  refine ⟨?_, fun r hr => ?_⟩
  · rw [← h.events]
    cases ho : run.outcome with
    | error f => rw [bind_of_error ho]
    | ok q => rw [bind_of_ok ho, hn, List.append_nil]
  · obtain ⟨q, hq, -⟩ := bind_eq_ok hr
    exact h.results q hq

theorem events_eq_nil {run : Run Result} {cs : List Child} (h : run.Replays cs)
    (hs : ∀ c ∈ cs, (c.evaluate ()).events = []) : run.events = [] := by
  rw [h.events, List.flatMap_eq_nil_iff]
  exact hs

end Run.Replays

namespace Survey

/-- A survey is settled by a child when the method stops there, whatever it has seen before. -/
def Stops {σ : Type} (s : Survey σ) (m : Method) : Prop :=
  ∀ summary r, (∃ q, s.react summary r = .settle q) ↔ m.stopsAt r.decision = true

theorem stops_overrides (e : Effect) : (overrides e).Stops (.overrides e) := by
  intro t r
  rw [Method.stopsAt, decide_eq_true_iff, ← Effect.standing_eq_decides_iff]
  dsimp only [overrides, weigh]
  cases e.standing r.decision <;> simp

theorem stops_earlierRuleOverrides (e : Effect) :
    (earlierRuleOverrides e).Stops (.earlierRuleOverrides e) := by
  intro t r
  rw [Method.stopsAt, decide_eq_true_iff]
  dsimp only [earlierRuleOverrides, weighEarlier]
  by_cases hd : r.decision = e.decision
  · rw [if_neg (hd ▸ e.notApplicable_ne_decision.symm), if_pos hd]
    exact ⟨fun _ => hd, fun _ => ⟨r, rfl⟩⟩
  · rw [if_neg hd]
    refine ⟨fun ⟨q, hq⟩ => ?_, fun h => absurd h hd⟩
    -- every other decision is only taken note of
    split at hq
    · cases hq
    split at hq
    · cases hq
    split at hq <;> cases hq

theorem stops_earlierDenyOverrides : earlierDenyOverrides.Stops .earlierDenyOverrides := by
  intro permitted r
  dsimp only [earlierDenyOverrides, Method.stopsAt]
  cases r.decision <;> simp [Decision.isIndeterminate]

theorem stops_earlierPermitOverrides : earlierPermitOverrides.Stops .earlierPermitOverrides := by
  intro seen r
  dsimp only [earlierPermitOverrides, Method.stopsAt]
  cases r.decision <;> simp

theorem stops_defaulting (e : Effect) : (defaulting e).Stops (.defaulting e) := by
  intro merged r
  rw [Method.stopsAt, decide_eq_true_iff]
  dsimp only [defaulting]
  by_cases hd : r.decision = e.decision
  · rw [if_pos hd]
    exact ⟨fun _ => hd, fun _ => ⟨r, rfl⟩⟩
  · rw [if_neg hd]
    refine ⟨fun ⟨q, hq⟩ => ?_, fun h => absurd h hd⟩
    split at hq <;> cases hq

theorem stops_firstApplicable : firstApplicable.Stops .firstApplicable := by
  intro _ r
  dsimp only [firstApplicable, Method.stopsAt]
  split <;> simp [*]

/-- A survey replays the children up to the one at which its method stops. -/
theorem replays_run {σ : Type} {s : Survey σ} {m : Method} (hm : s.Stops m)
    (children : List Child) :
    (s.run children).Replays (upTo id (fun r => m.stopsAt r.decision) children) := by
  rw [run]
  generalize s.start = summary
  induction children generalizing summary with
  | nil => exact .pure _
  | cons c rest ih =>
      rw [runFrom, upTo, id, Child.stops]
      refine .after_child (fun r hr => ?_) fun f hf => by rw [hf]; rfl
      rw [hr]
      cases hs : s.react summary r with
      | settle q =>
          have hr : m.stopsAt r.decision = true := (hm summary r).mp ⟨q, hs⟩
          dsimp only
          rw [if_pos hr]
          exact .pure q
      | proceed next =>
          have hr : ¬ m.stopsAt r.decision = true := by
            intro h
            obtain ⟨q, hq⟩ := (hm summary r).mpr h
            cases hs.symm.trans hq
          dsimp only
          rw [if_neg hr]
          exact ih next

end Survey

theorem replays_onlyApplicableFrom {children : List Child}
    (hs : ∀ c ∈ children, (c.matchTarget ()).events = []) (chosen : Option Child) :
    (onlyApplicableFrom chosen children).Replays
      (if children.all Child.isClear then soleOf (chosen.toList ++ children.filter Child.applies)
        else []) := by
  induction children generalizing chosen with
  | nil => cases chosen with
    | none => exact .pure _
    | some c => exact .evaluate c
  | cons c rest ih =>
      obtain ⟨hc, hr⟩ := List.forall_mem_cons.mp hs
      rw [onlyApplicableFrom, List.all_cons, List.filter_cons, Child.isClear, Child.applies]
      refine .after_silent hc (fun a ha => ?_) fun f hf => by rw [hf]; rfl
      rw [ha]
      cases a with
      | unmatched => exact ih hr chosen
      | unclear s => exact .pure _
      | matched => cases chosen with
        | none => exact ih hr (some c)
        | some c' =>
            -- a second child matches, and none is evaluated
            have hn : (if rest.all Child.isClear
                then soleOf (c' :: c :: rest.filter Child.applies) else []) = [] := ite_self []
            have hp := Run.Replays.pure (.indeterminate severalApplicable)
            rw [← hn] at hp
            exact hp

/-! ## Discreet methods -/

/-- One child shows to an algorithm what another does, with its lists or without them. They may
record different events. -/
structure Child.Shows (keep : Bool) (c d : Child) : Prop where
  id : d.id = c.id
  parameters : d.parameters = c.parameters
  target : (d.matchTarget ()).outcome = (c.matchTarget ()).outcome
  result : (d.evaluate ()).outcome = (c.evaluate ()).outcome.map (Result.listed keep)

/-- Two surroundings differ in the settings alone. -/
structure Surroundings.SameWorld (env env' : Surroundings) : Prop where
  lookup : env.lookup = env'.lookup
  select : env.select = env'.select
  patterns : env.patterns = env'.patterns

/-- A method makes no use of the settings, nor of the lists in the results of the children, nor of
the events that they record, and adds none of its own. -/
structure Method.Discreet (m : Method) : Prop where
  /-- Whatever the settings, and without the lists of the children, the combination comes to the
  same without lists. -/
  outcome : ∀ {ctx ctx' : Context}, ctx.toSurroundings.SameWorld ctx'.toSurroundings →
    ctx.definitions = ctx'.definitions → ∀ {keep : Bool} {children others : List Child},
    List.Forall₂ (Child.Shows keep) children others → ∀ ps : List Parameter,
    (m.combine others ps ctx').outcome =
      (m.combine children ps ctx).outcome.map (Result.listed keep)
  /-- The events are those of the children that are evaluated. -/
  replays : ∀ {children : List Child}, (∀ c ∈ children, (c.matchTarget ()).events = []) →
    ∀ (ps : List Parameter) (ctx : Context),
      ∃ cs, m.Visits id children cs ∧ (m.combine children ps ctx).Replays cs

theorem outcome_onlyApplicableFrom {keep : Bool} {children others : List Child}
    (h : List.Forall₂ (Child.Shows keep) children others) {chosen other : Option Child}
    (hc : Option.Rel (Child.Shows keep) chosen other) :
    (onlyApplicableFrom other others).outcome =
      (onlyApplicableFrom chosen children).outcome.map (Result.listed keep) := by
  induction h generalizing chosen other with
  | nil => cases hc with
    | none => exact congrArg Except.ok Result.listed_notApplicable.symm
    | some hc => exact hc.result
  | @cons c d children others hcd _ ih =>
      rw [onlyApplicableFrom, onlyApplicableFrom, Run.outcome_bind, Run.outcome_bind, hcd.target]
      cases (c.matchTarget ()).outcome with
      | error f => rfl
      | ok a => cases a with
        | unmatched => exact ih hc
        | unclear s => exact congrArg Except.ok (Result.listed_indeterminate s).symm
        | matched => cases hc with
          | none => exact ih (.some hcd)
          | some _ => exact congrArg Except.ok (Result.listed_indeterminate _).symm

/-- **All built-in methods are discreet.** -/
theorem Method.discreet_of_isStandard {m : Method} (hm : m.isStandard = true) : m.Discreet where
  outcome := by
    intro ctx ctx' _ _ keep children others h ps
    have hr := h.imp fun _ _ hs => hs.result
    cases m with
    | custom combine => cases hm
    | overrides e => exact (Survey.respects_overrides keep e).outcome_run hr
    | earlierRuleOverrides e =>
        have ho := (Survey.respects_overrides keep e).outcome_run hr
        rw [combine, combine, (Survey.earlierRuleOverrides_follows e).run_eq,
          (Survey.earlierRuleOverrides_follows e).run_eq, Run.outcome_map, Run.outcome_map, ho]
        cases ((Survey.overrides e).run children).outcome with
        | error f => rfl
        | ok r => exact congrArg Except.ok r.untracked_listed
    | earlierDenyOverrides => exact (Survey.respects_earlierDenyOverrides keep).outcome_run hr
    | earlierPermitOverrides => exact (Survey.respects_earlierPermitOverrides keep).outcome_run hr
    | defaulting e => exact (Survey.respects_defaulting keep e).outcome_run hr
    | firstApplicable => exact (Survey.respects_firstApplicable keep).outcome_run hr
    | onlyOneApplicable => exact outcome_onlyApplicableFrom h .none
  replays := by
    intro children hs ps ctx
    cases m with
    | custom combine => cases hm
    | onlyOneApplicable => exact ⟨_, rfl, replays_onlyApplicableFrom hs none⟩
    | overrides e => exact ⟨_, rfl, Survey.replays_run (Survey.stops_overrides e) children⟩
    | earlierRuleOverrides e =>
        exact ⟨_, rfl, Survey.replays_run (Survey.stops_earlierRuleOverrides e) children⟩
    | earlierDenyOverrides =>
        exact ⟨_, rfl, Survey.replays_run Survey.stops_earlierDenyOverrides children⟩
    | earlierPermitOverrides =>
        exact ⟨_, rfl, Survey.replays_run Survey.stops_earlierPermitOverrides children⟩
    | defaulting e => exact ⟨_, rfl, Survey.replays_run (Survey.stops_defaulting e) children⟩
    | firstApplicable => exact ⟨_, rfl, Survey.replays_run Survey.stops_firstApplicable children⟩

end Abac
