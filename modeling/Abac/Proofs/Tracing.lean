import Abac.Proofs.Grounds
import Abac.Proofs.Observation
import Abac.Proofs.Relevance

/-!
# Watching an evaluation

Whether events are recorded, and whether results list the policies that apply,
are settings for those who watch. This is shown by running a node twice, in
contexts that differ in the settings alone (`Node.outcome_listed`): the second
run comes to the same as the first, with the lists or without them.

What is recorded tells how the evaluation went. Between the event of a node's
target and that of its result stand the events of the parts that it evaluated, in
the order in which it did (`Node.Traced`); a node that is not well formed reports
its result alone.
-/

namespace Abac

/-! ## Discretion -/

/-- A function makes no use of the settings. No standard function does. -/
def Function.Discreet : Function → Prop
  | .standard _ => True
  | .extension e => ∀ env env' : Surroundings, env.SameWorld env' →
      ∀ args, e.apply args env = e.apply args env'

/-- The algorithms of a node and the functions that occur in it are discreet. -/
structure Node.Discreet (n : Node) : Prop where
  algorithms : ∀ a, n.Uses a → a.method.Discreet
  functions : ∀ f, .function f ∈ n.readings → f.Discreet

theorem Node.Discreet.part {n c : Node} (hn : n.Discreet) (hc : c ∈ n.parts) : c.Discreet where
  algorithms := (forall_uses_iff.mp hn.algorithms).2 c hc
  functions f hf := hn.functions f (readings_subset_of_mem_parts hc hf)

section

variable {ctx ctx' : Context} (hw : ctx.toSurroundings.SameWorld ctx'.toSurroundings)

include hw

/-- What is read is the same whatever the settings. -/
theorem Reading.same_of_discreet {xs : List Reading}
    (h : ∀ f, .function f ∈ xs → f.Discreet) : ∀ x ∈ xs, x.Same ctx ctx' := by
  intro x hx
  match x with
  | .designator d => exact congrFun hw.lookup d.key
  | .function (.standard _) => exact hw.patterns
  | .function (.extension e) => exact h _ hx _ _ hw

theorem Context.Agree.of_sameWorld (hd : ctx.definitions = ctx'.definitions)
    (h : ∀ f, .function f ∈ ctx.definitions.readings → f.Discreet) : ctx.Agree ctx' where
  select := hw.select
  definitions := hd
  known := Reading.same_of_discreet hw h

end

/-! ## Two runs -/

/-- Two surroundings differ in the settings alone, and lists of policies that are wanted in the
first are wanted in the second if they are kept. -/
structure Surroundings.Resettled (keep : Bool) (env env' : Surroundings) : Prop
    extends env.SameWorld env' where
  returnPolicyIds : env'.returnPolicyIds = (keep && env.returnPolicyIds)

section

variable {keep : Bool} {ctx ctx' : Context}

theorem Result.attach_listed (ctx : Context) (os as : List ObligationExpression) (q : Result) :
    (q.listed keep).attach ctx os as = (q.attach ctx os as).map (Result.listed keep) := by
  rw [attach, attach, decision_listed]
  cases Effect.ofDecision? q.decision with
  | none => rfl
  | some e =>
      dsimp only
      split
      · cases keep <;> rfl
      · cases keep <;> rfl
      · rfl

/-- Attaching to a result without lists makes none. -/
theorem Result.listed_attach {os as : List ObligationExpression} {q : Result}
    (hq : q.listed keep = q) :
    q.attach ctx os as = (q.attach ctx os as).map (Result.listed keep) := by
  rw [← attach_listed, hq]

theorem Applicability.listed_early {a : Applicability} {d : Decision} {r : Result}
    (h : a.early? d = some r) : r.listed keep = r := by
  cases a with
  | matched => cases h
  | unmatched => exact Option.some.inj h ▸ Result.listed_notApplicable
  | unclear s => exact Option.some.inj h ▸ Result.listed_withStatus d s

theorem Rule.listed_judge {r : Rule} {q : Result} (h : r.judge ctx = .ok q) :
    q.listed keep = q := by
  rw [judge] at h
  split at h
  · exact Except.ok.inj h ▸ Result.listed_of _
  split at h
  · exact Except.ok.inj h ▸ Result.listed_of _
  · exact Except.ok.inj h ▸ Result.listed_notApplicable
  · exact Except.ok.inj h ▸ Result.listed_withStatus _ _
  · exact Except.ok.inj h ▸ Result.listed_withStatus _ _
  · cases h

/-- A rule lists nothing. -/
theorem Rule.listed_answer (ctx : Context) (r : Rule) (a : Applicability) :
    (r.answer ctx a).outcome = (r.answer ctx a).outcome.map (Result.listed keep) := by
  rw [answer]
  cases he : a.early? r.effect.indeterminate with
  | some early => exact Result.listed_attach (Applicability.listed_early he)
  | none =>
      dsimp only
      rw [Run.outcome_bind, Run.outcome_lift]
      cases hq : r.judge ctx with
      | error f => rfl
      | ok q => exact Result.listed_attach (Rule.listed_judge hq)

/-- Without lists, it does not matter whether a node is listed. -/
theorem Result.listed_sign {sign : Result → Result}
    (hs : ∀ r, (sign r).listed false = r.listed false) (q : Result) (ids : Bool) :
    (if (q.listed keep).decision.isFinal && (keep && ids) then sign (q.listed keep)
      else q.listed keep) = (if q.decision.isFinal && ids then sign q else q).listed keep := by
  cases keep with
  | true => rfl
  | false =>
      rw [Bool.false_and, Bool.and_false, if_neg Bool.false_ne_true]
      split
      · exact (hs q).symm
      · rfl

theorem Frame.outcome_combine {f : Frame}
    (hw : ctx.toSurroundings.Resettled keep ctx'.toSurroundings)
    (hd : ctx.definitions = ctx'.definitions)
    (hm : ∀ a, f.algorithm = some a → a.method.Discreet) {children others : List Child}
    (hc : List.Forall₂ (Child.Shows keep) children others) {sign : Result → Result}
    (hs : ∀ r, (sign r).listed false = r.listed false)
    (hat : ∀ q : Result, q.attach ctx f.obligations f.advice =
      q.attach ctx' f.obligations f.advice) :
    (f.combine ctx' others sign).outcome =
      (f.combine ctx children sign).outcome.map (Result.listed keep) := by
  rw [combine, combine]
  cases ha : f.algorithm with
  | none => rfl
  | some algorithm =>
      dsimp only
      rw [Run.outcome_bind, Run.outcome_bind, Algorithm.combine, Algorithm.combine,
        (hm algorithm ha).outcome hw.toSameWorld hd hc]
      cases (algorithm.method.combine children f.parameters ctx).outcome with
      | error e => rfl
      | ok q =>
          dsimp only [Except.map, Except.bind]
          rw [Run.outcome_bind, Run.outcome_bind, Run.outcome_lift, Run.outcome_lift, ← hat,
            Result.attach_listed]
          cases q.attach ctx f.obligations f.advice with
          | error e => rfl
          | ok attached =>
              -- a node is listed only where lists are wanted, and these are kept
              rw [hw.returnPolicyIds]
              exact congrArg Except.ok (Result.listed_sign hs attached _)

namespace Node

/-- A node that comes to the same, but for its lists, shows so to an algorithm. -/
theorem asChild_shows (h : ctx.Agree ctx') {n : Node} (hr : ∀ x ∈ n.readings, x.Same ctx ctx')
    (hn : (n.evaluate ctx').outcome = (n.evaluate ctx).outcome.map (Result.listed keep))
    (ps : List TargetedParameter) : (n.asChild ctx ps).Shows keep (n.asChild ctx' ps) where
  id := rfl
  parameters := rfl
  target := (Target.evaluate_congr h (forall_ownReadings hr).1).symm
  result := hn

variable (hw : ctx.toSurroundings.Resettled keep ctx'.toSurroundings)

include hw

theorem outcome_answer {n : Node} (h : ctx.Agree ctx') (hn : n.Discreet)
    (hc : List.Forall₂ (Child.Shows keep) (n.children ctx) (n.children ctx')) (a : Applicability) :
    (n.answer ctx' a).outcome = (n.answer ctx a).outcome.map (Result.listed keep) := by
  have hr := Reading.same_of_discreet hw.toSameWorld hn.functions
  cases hf : n.frame? with
  | none => cases n with
    | rule r =>
        have hr : r.answer ctx a = r.answer ctx' a := Rule.answer_congr h hr a
        rw [answer, answer, ← hr]
        exact r.listed_answer ctx a
    | _ => cases hf
  | some f =>
      have hs : ∀ r, (n.sign r).listed false = r.listed false := fun r => by cases n <;> rfl
      have hws := n.scope_surroundings hw
      have hmf : ∀ a, f.algorithm = some a → a.method.Discreet := fun a ha =>
        (forall_uses_iff.mp hn.algorithms).1 a ((algorithm?_of_frame hf).trans ha)
      rw [answer_of_frame hf, answer_of_frame hf, Frame.answer, Frame.answer]
      cases he : a.early? .indeterminate with
      | some early => exact congrArg Except.ok (Applicability.listed_early he).symm
      | none =>
          exact Frame.outcome_combine hws (scope_agree h hr).definitions hmf hc hs
            (attach_scope_congr h hf hr)

/-- **The settings do not matter to what a node decides.** Where policy identifiers are not wanted,
the result is the same without its lists. -/
theorem outcome_listed {n : Node} (h : ctx.Agree ctx') (hn : n.Discreet) :
    (n.evaluate ctx').outcome = (n.evaluate ctx).outcome.map (Result.listed keep) := by
  induction n using Node.induct generalizing ctx ctx' with
  | h n ih =>
      have hr := Reading.same_of_discreet hw.toSameWorld hn.functions
      -- in the scope of the node the settings differ as they do outside
      have hs := scope_agree h hr
      have hws := n.scope_surroundings hw
      have hc : List.Forall₂ (Child.Shows keep) (n.children ctx) (n.children ctx') := by
        rw [children, children, List.forall₂_map_left_iff, List.forall₂_map_right_iff,
          List.forall₂_same]
        intro c hc
        have hcr := Reading.same_of_discreet hws.toSameWorld (hn.part hc).functions
        exact asChild_shows hs hcr (ih c hc hws hs (hn.part hc)) _
      rw [outcome_evaluate, outcome_evaluate, ← Target.evaluate_congr h (forall_ownReadings hr).1]
      split
      · cases n.target.evaluate ctx with
        | error f => rfl
        | ok a => exact outcome_answer hw h hn hc a
      · exact congrArg Except.ok (Result.listed_indeterminate _).symm

end Node

end

section

variable {ctx : Context}
  (hd : ∀ f, .function f ∈ ctx.definitions.readings → f.Discreet)

include hd

/-- Recording events does not change the result. -/
theorem Node.outcome_tracing {n : Node} (hn : n.Discreet) (t : Bool) :
    (n.evaluate { ctx with tracing := t }).outcome = (n.evaluate ctx).outcome := by
  let ctx' : Context := { ctx with tracing := t }
  have hw : ctx.toSurroundings.Resettled true ctx'.toSurroundings := ⟨⟨rfl, rfl, rfl⟩, rfl⟩
  rw [← Result.map_listed_true (n.evaluate ctx).outcome]
  exact outcome_listed hw (.of_sameWorld hw.toSameWorld rfl hd) hn

/-- Listing the policies that apply changes nothing but the lists. -/
theorem Node.outcome_unlisted {n : Node} (hn : n.Discreet) :
    (n.evaluate { ctx with returnPolicyIds := false }).outcome =
      (n.evaluate { ctx with returnPolicyIds := true }).outcome.map (Result.listed false) := by
  let on : Context := { ctx with returnPolicyIds := true }
  let off : Context := { ctx with returnPolicyIds := false }
  have hw : on.toSurroundings.Resettled false off.toSurroundings := ⟨⟨rfl, rfl, rfl⟩, rfl⟩
  have ha : on.Agree off := .of_sameWorld hw.toSameWorld rfl hd
  exact outcome_listed hw ha hn

end

/-! ## The events of a node -/

namespace Node

/-- A node whose target was matched evaluates the parts `vs`, in this order. -/
def Visits (ctx : Context) (n : Node) (vs : List Node) (a : Applicability) : Prop :=
  match a, n.algorithm? with
  | .matched, some m => m.method.Visits (asChild (n.scope ctx) n.partParameters) n.parts vs
  | _, _ => vs = []

variable {ctx : Context} {n : Node} {a : Applicability} {vs : List Node}

theorem Visits.subset (h : n.Visits ctx vs a) : vs ⊆ n.parts := by
  unfold Visits at h
  split at h
  · exact Method.Visits.subset h
  · exact h ▸ List.nil_subset _

theorem silent_children : ∀ c ∈ n.children ctx, (c.matchTarget ()).events = [] := by
  intro c hc
  obtain ⟨m, -, rfl⟩ := List.mem_map.mp hc
  rfl

end Node

theorem Rule.events_answer (ctx : Context) (r : Rule) (a : Applicability) :
    (r.answer ctx a).events = [] := by
  rw [answer]
  cases a.early? r.effect.indeterminate <;> exact Run.events_bind_eq_nil rfl fun _ => rfl

/-- What the combination of a policy or policy set records is what its algorithm records. -/
theorem Frame.replays_combine {f : Frame} {a : Algorithm} (ha : f.algorithm = some a)
    {scope : Context} {children : List Child} {sign : Result → Result} {cs : List Child}
    (h : (a.combine children f.parameters scope).Replays cs) :
    (f.combine scope children sign).Replays cs := by
  rw [combine, ha]
  exact h.before_silent fun q => Run.events_bind_eq_nil rfl fun _ => rfl

namespace Node

variable {ctx : Context} {n : Node} {a : Applicability} {vs : List Node}

/-- What a node's answer records is what the parts record that it evaluates. -/
theorem replays_answer (ctx : Context) (hm : ∀ m, n.algorithm? = some m → m.method.Discreet)
    (a : Applicability) : ∃ vs, n.Visits ctx vs a ∧
      (n.answer ctx a).Replays (vs.map (asChild (n.scope ctx) n.partParameters)) := by
  cases hf : n.frame? with
  | none => cases n with
    | rule r => exact ⟨[], by cases a <;> rfl, .of_silent (r.events_answer ctx a)⟩
    | _ => cases hf
  | some f =>
      have hal := algorithm?_of_frame hf
      rw [answer_of_frame hf, Frame.answer]
      cases he : a.early? .indeterminate with
      | some early =>
          refine ⟨[], ?_, .pure early⟩
          cases a with
          | matched => cases he
          | _ => rfl
      | none =>
          obtain rfl := Applicability.early?_eq_none_iff.mp he
          simp only [Visits, hal]
          cases ha : f.algorithm with
          | none =>
              refine ⟨[], rfl, .of_silent ?_⟩
              rw [Frame.combine, ha]
              exact Run.events_lift _
          | some m =>
              obtain ⟨cs, hv, hr⟩ := (hm m (hal.trans ha)).replays silent_children f.parameters _
              obtain ⟨vs, hvs, rfl⟩ := hv.of_map
              exact ⟨vs, hvs, Frame.replays_combine ha hr⟩

/-- Without tracing, nothing is recorded. -/
theorem events_of_not_tracing (ht : ctx.tracing = false)
    (hm : ∀ m, n.Uses m → m.method.Discreet) : (n.evaluate ctx).events = [] := by
  induction n using Node.induct generalizing ctx with
  | h n ih =>
      obtain ⟨hmn, hmp⟩ := forall_uses_iff.mp hm
      have hts : (n.scope ctx).tracing = false := by rw [tracing_scope, ht]
      rw [evaluate_eq_reported]
      refine events_reported_of_silent ht fun a => ?_
      obtain ⟨vs, hv, hr⟩ := replays_answer ctx hmn a
      refine hr.events_eq_nil (List.forall_mem_map.mpr fun c hc => ?_)
      have hp := hv.subset hc
      exact ih c hp hts (hmp c hp)

mutual

/-- The events of a node that came to a result. -/
inductive Traced : Context → Node → List TraceEvent → Prop where
  /-- A node that is not well formed only announces its result. -/
  | invalid {ctx : Context} {n : Node} {r : Result} : n.validate.isOk = false →
      (n.evaluate ctx).outcome = .ok r → Traced ctx n [.ofResult n.label r]
  /-- The events of the parts that are evaluated stand between how the target matched and what the
  node decided. -/
  | block {ctx : Context} {n : Node} {a : Applicability} {vs : List Node} {es : List TraceEvent}
      {r : Result} : n.validate.isOk = true → n.target.evaluate ctx = .ok a → n.Visits ctx vs a →
      TracedAll (n.scope ctx) vs es → (n.evaluate ctx).outcome = .ok r →
      Traced ctx n (.ofMatch n.label a :: es ++ [.ofResult n.label r])

/-- The events of nodes that came to results, one after the other. -/
inductive TracedAll : Context → List Node → List TraceEvent → Prop where
  | nil {ctx : Context} : TracedAll ctx [] []
  | cons {ctx : Context} {n : Node} {ns : List Node} {es fs : List TraceEvent} :
      Traced ctx n es → TracedAll ctx ns fs → TracedAll ctx (n :: ns) (es ++ fs)

end

theorem tracedAll_events (h : ∀ c ∈ vs, c.Traced ctx (c.evaluate ctx).events) :
    TracedAll ctx vs (vs.flatMap fun c => (c.evaluate ctx).events) := by
  induction vs with
  | nil => exact .nil
  | cons c rest ih =>
      obtain ⟨hc, hr⟩ := List.forall_mem_cons.mp h
      exact .cons hc (ih hr)

/-- What a run records of children that are nodes is the events of these nodes. -/
theorem tracedAll_of_replays {run : Run Result} {r : Result} {ps : List TargetedParameter}
    (h : run.Replays (vs.map (asChild ctx ps))) (hr : run.outcome = .ok r)
    (ht : ∀ c ∈ vs, (∃ q, (c.evaluate ctx).outcome = .ok q) →
      c.Traced ctx (c.evaluate ctx).events) :
    TracedAll ctx vs run.events := by
  rw [h.events, List.flatMap_map]
  exact tracedAll_events fun c hc =>
    ht c hc (h.results r hr (c.asChild ctx ps) (List.mem_map_of_mem hc))

/-- **The events of a node are well bracketed.** -/
theorem traced_of_ok (ht : ctx.tracing = true) (hm : ∀ m, n.Uses m → m.method.Discreet)
    {r : Result} (h : (n.evaluate ctx).outcome = .ok r) : n.Traced ctx (n.evaluate ctx).events := by
  induction n using Node.induct generalizing ctx r with
  | h n ih =>
      obtain ⟨hmn, hmp⟩ := forall_uses_iff.mp hm
      have hts : (n.scope ctx).tracing = true := by rw [tracing_scope, ht]
      have hr := h
      rw [evaluate_eq_reported] at hr ⊢
      cases hv : n.validate.isOk with
      | false => exact events_reported_of_invalid ht hv hr ▸ .invalid hv h
      | true =>
          obtain ⟨a, ha, hq, he⟩ := events_reported ht hv hr
          obtain ⟨vs, hvs, hrep⟩ := replays_answer ctx hmn a
          rw [he]
          refine .block hv ha hvs (tracedAll_of_replays hrep hq fun c hc hcr => ?_) h
          have hp := hvs.subset hc
          obtain ⟨q, hq⟩ := hcr
          exact ih c hp hts (hmp c hp) hq

end Node

/-! ## Engines -/

namespace Engine

/-- An engine evaluates the roots `vs`, in this order. -/
def Visits (ctx : Context) (en : Engine) (vs : List Node) : Prop :=
  match en.roots with
  | [] => vs = []
  | [root] => vs = [Node.ofPolicyNode root]
  | roots =>
    en.rootAlgorithm.method.Visits (Node.asChild ctx []) (roots.map Node.ofPolicyNode) vs

variable {keep : Bool} {ctx ctx' : Context} {en : Engine} {vs : List Node}

theorem Visits.subset (h : en.Visits ctx vs) : vs ⊆ en.roots.map Node.ofPolicyNode := by
  unfold Visits at h
  split at h
  · exact h ▸ List.nil_subset _
  · rename_i root hr
    rw [h, hr]
    exact List.Subset.refl _
  · exact Method.Visits.subset h

/-- The algorithms of an engine and the functions that occur in its roots are discreet. -/
structure Discreet (en : Engine) : Prop where
  algorithms : ∀ a, en.Uses a → a.method.Discreet
  functions : ∀ f, .function f ∈ en.readings → f.Discreet

theorem Discreet.root (hen : en.Discreet) {root : PolicyNode} (hr : root ∈ en.roots) :
    (Node.ofPolicyNode root).Discreet where
  algorithms a ha := hen.algorithms a (Or.inr ⟨root, hr, ha⟩)
  functions f hf := hen.functions f (PolicyNode.mem_readingsOfAll.mpr
    ⟨root, hr, by cases root <;> exact hf⟩)

theorem outcome_listed (hw : ctx.toSurroundings.Resettled keep ctx'.toSurroundings)
    (h : ctx.Agree ctx') (hen : en.Discreet) :
    (en.evaluateRoots ctx').outcome = (en.evaluateRoots ctx).outcome.map (Result.listed keep) := by
  have hn : ∀ root ∈ en.roots, ((Node.ofPolicyNode root).evaluate ctx').outcome =
      ((Node.ofPolicyNode root).evaluate ctx).outcome.map (Result.listed keep) :=
    fun root hr => Node.outcome_listed hw h (hen.root hr)
  match hr : en.roots with
  | [] =>
      rw [evaluateRoots, evaluateRoots, hr]
      exact congrArg Except.ok Result.listed_notApplicable.symm
  | [root] =>
      rw [evaluateRoots_single hr, evaluateRoots_single hr]
      exact hn root (hr ▸ List.mem_singleton_self root)
  | root :: next :: rest =>
      rw [evaluateRoots_several hr, evaluateRoots_several hr]
      refine (hen.algorithms _ (Or.inl rfl)).outcome hw.toSameWorld h.definitions ?_ []
      rw [List.forall₂_map_left_iff, List.forall₂_map_right_iff, List.forall₂_same]
      refine List.forall_mem_map.mpr fun n hm => ?_
      have hr := Reading.same_of_discreet hw.toSameWorld (hen.root hm).functions
      exact Node.asChild_shows h hr (hn n hm) []

theorem replays_evaluateRoots (ctx : Context) (hm : en.rootAlgorithm.method.Discreet) :
    ∃ vs, en.Visits ctx vs ∧ (en.evaluateRoots ctx).Replays (vs.map (Node.asChild ctx [])) := by
  unfold Visits
  match hr : en.roots with
  | [] => exact ⟨[], rfl, by rw [evaluateRoots, hr]; exact .pure _⟩
  | [root] =>
      rw [evaluateRoots_single hr]
      exact ⟨_, rfl, .evaluate ((Node.ofPolicyNode root).asChild ctx [])⟩
  | root :: next :: rest =>
      have hs : ∀ c ∈ (en.roots.map Node.ofPolicyNode).map (Node.asChild ctx []),
          (c.matchTarget ()).events = [] := List.forall_mem_map.mpr fun _ _ => rfl
      obtain ⟨cs, hv, hrep⟩ := hm.replays hs [] ctx
      obtain ⟨vs, hvs, rfl⟩ := hv.of_map
      rw [evaluateRoots_several hr]
      rw [hr] at hvs
      exact ⟨vs, hvs, hrep⟩

theorem result_listed (hw : ctx.toSurroundings.Resettled keep ctx'.toSurroundings)
    (h : ctx.Agree ctx') (hen : en.Discreet) :
    (en.evaluate ctx').1 = (en.evaluate ctx).1.listed keep := by
  rw [Engine.evaluate, Engine.evaluate]
  have ho := outcome_listed hw h hen
  cases hr : (en.evaluateRoots ctx).outcome with
  | error f =>
      rw [hr] at ho
      simp only [ho, Except.map]
      exact (Result.listed_indeterminate _).symm
  | ok r =>
      rw [hr] at ho
      simp only [ho, Except.map]

/-- Other settings, of the engine or of the request, change nothing but the lists. -/
theorem decide_listed {r r' : Request} {c : EngineConfig} (hen : en.Discreet)
    (hw : (en.context r).toSurroundings.Resettled keep
      (Engine.context { en with config := c } r').toSurroundings) :
    Engine.decide { en with config := c } r' = (en.decide r).listed keep := by
  have hd : ∀ f, Reading.function f ∈ (en.context r).definitions.readings → f.Discreet :=
    fun _ hx => nomatch hx
  -- evaluation itself does not ask for the configuration
  show (en.evaluate _).1 = (en.evaluate _).1.listed keep
  exact result_listed hw (.of_sameWorld hw.toSameWorld rfl hd) hen

theorem events_evaluate (en : Engine) (ctx : Context) :
    (en.evaluate ctx).2 = (en.evaluateRoots ctx).events := by
  rw [Engine.evaluate]
  cases (en.evaluateRoots ctx).outcome <;> rfl

theorem events_of_not_tracing (ht : ctx.tracing = false)
    (hm : ∀ a, en.Uses a → a.method.Discreet) : (en.evaluateRoots ctx).events = [] := by
  obtain ⟨vs, hv, hr⟩ := replays_evaluateRoots ctx (hm en.rootAlgorithm (Or.inl rfl))
  refine hr.events_eq_nil (List.forall_mem_map.mpr fun c hc => ?_)
  obtain ⟨root, hroot, rfl⟩ := List.mem_map.mp (hv.subset hc)
  exact Node.events_of_not_tracing ht fun a ha => hm a (Or.inr ⟨root, hroot, ha⟩)

/-- What an engine records is the events of the roots that it evaluates. -/
theorem tracedAll_of_ok (ht : ctx.tracing = true) (hm : ∀ a, en.Uses a → a.method.Discreet)
    {q : Result} (hq : (en.evaluateRoots ctx).outcome = .ok q) :
    ∃ vs, en.Visits ctx vs ∧ Node.TracedAll ctx vs (en.evaluateRoots ctx).events := by
  obtain ⟨vs, hv, hr⟩ := replays_evaluateRoots ctx (hm en.rootAlgorithm (Or.inl rfl))
  refine ⟨vs, hv, Node.tracedAll_of_replays hr hq fun c hc hcr => ?_⟩
  obtain ⟨root, hroot, rfl⟩ := List.mem_map.mp (hv.subset hc)
  obtain ⟨q, hq⟩ := hcr
  exact Node.traced_of_ok ht (fun a ha => hm a (Or.inr ⟨root, hroot, ha⟩)) hq

/-- **Who watches an evaluation does not change it, and sees how it went.** This holds of every tree
whose algorithms are discreet, as all built-in ones are; that the settings do not change it takes
functions that make no use of them, as well.

Recording events leaves the result as it is. So does listing the policies that apply, but for the
lists. And what is recorded of a node that came to a result is well bracketed. -/
theorem watched_evaluation :
    (∀ {n : Node}, (∀ a, n.Uses a → a.method.Discreet) → ∀ ctx : Context,
      ((∀ f, .function f ∈ n.readings ++ ctx.definitions.readings → f.Discreet) →
        (∀ t, (n.evaluate { ctx with tracing := t }).outcome = (n.evaluate ctx).outcome) ∧
        (n.evaluate { ctx with returnPolicyIds := false }).outcome =
          (n.evaluate { ctx with returnPolicyIds := true }).outcome.map
            (fun r => { r with policies := [], policySets := [] })) ∧
      (n.evaluate { ctx with tracing := false }).events = [] ∧
      ∀ r, ctx.tracing = true → (n.evaluate ctx).outcome = .ok r →
        n.Traced ctx (n.evaluate ctx).events) ∧
    (∀ {en : Engine}, (∀ a, en.Uses a → a.method.Discreet) → ∀ r : Request,
      ((∀ f, .function f ∈ en.readings → f.Discreet) →
        (∀ t, let en' : Engine := { en with config := { en.config with traceEvaluation := t } }
          en'.decide r = en.decide r) ∧
        (∀ c ids, let en' : Engine := { en with config := c }
          let r' : Request := { r with returnPolicyIds := ids }
          (en'.context r').returnPolicyIds = false →
            en'.decide r' = { en.decide r with policies := [], policySets := [] })) ∧
      (en.config.traceEvaluation = false → (en.decideTraced r).2 = []) ∧
      ∀ q, en.config.traceEvaluation = true →
        (en.evaluateRoots (en.context r)).outcome = .ok q →
        ∃ vs, en.Visits (en.context r) vs ∧
          Node.TracedAll (en.context r) vs (en.decideTraced r).2) ∧
    ∀ m : Method, m.isStandard = true → m.Discreet := by
  refine ⟨@fun n hm ctx => ⟨fun hf => ?settings, ?_, fun r ht h => Node.traced_of_ok ht hm h⟩,
    @fun en hm r => ⟨fun hf => ?engine, fun ht => ?_, fun q ht hq => ?_⟩,
    fun m hm => Method.discreet_of_isStandard hm⟩
  case settings =>
    have hn : n.Discreet := ⟨hm, fun f hx => hf f (List.mem_append_left _ hx)⟩
    have hd : ∀ f, .function f ∈ ctx.definitions.readings → f.Discreet := fun f hx =>
      hf f (List.mem_append_right _ hx)
    exact ⟨Node.outcome_tracing hd hn, Node.outcome_unlisted hd hn⟩
  · exact Node.events_of_not_tracing rfl hm
  case engine =>
    have hen : en.Discreet := ⟨hm, hf⟩
    constructor
    · intro t en'
      have hw : (en.context r).toSurroundings.Resettled true (en'.context r).toSurroundings :=
        ⟨⟨rfl, rfl, rfl⟩, rfl⟩
      exact decide_listed hen hw
    · intro c ids en' r' hi
      have hw : (en.context r).toSurroundings.Resettled false (en'.context r').toSurroundings :=
        ⟨⟨rfl, rfl, rfl⟩, hi⟩
      exact decide_listed hen hw
  · exact (events_evaluate en _).trans (events_of_not_tracing ht hm)
  · rw [decideTraced, events_evaluate]
    exact tracedAll_of_ok ht hm hq

/-- The first policy has no rules, the second has one that is not well formed, and the third is not
evaluated. -/
theorem watched_evaluation_first_applicable :
    let p (id : String) (rules : List Rule) : Policy :=
      { Policy.new ⟨id⟩ with
        algorithm := some ⟨⟨"permit-overrides"⟩, .overrides .permit⟩
        rules := rules }
    let s : PolicySet :=
      { PolicySet.new ⟨"s"⟩ with
        algorithm := some ⟨⟨"first-applicable"⟩, .firstApplicable⟩
        children := [.policy (p "p" []),
          .policy (p "q" [Rule.new "" .deny, Rule.new "r" .permit]), .policy (p "t" [])] }
    let en : Engine :=
      ⟨{ EngineConfig.default with traceEvaluation := true }, .standard, .standard,
        ⟨⟨"deny-overrides"⟩, .overrides .deny⟩, [.policySet s], []⟩
    let req : Request := ⟨[], some true⟩
    let ctx : Context := en.context req
    (∀ a, en.Uses a → a.method.Discreet) ∧
      ((Node.policySet s).evaluate { ctx with tracing := false }).outcome =
        ((Node.policySet s).evaluate ctx).outcome ∧
      (Node.policySet s).Traced ctx ((Node.policySet s).evaluate ctx).events ∧
      (en.decideTraced req).1 = { Result.of .permit with
        policies := [⟨⟨"q"⟩, .initial⟩], policySets := [⟨⟨"s"⟩, .initial⟩] } ∧
      en.decide ⟨[], some false⟩ = .of .permit ∧
      (en.decideTraced req).2.map (fun e => (e.label, e.node, e.message)) =
        [("Match", "s", "Match"), ("Match", "p", "Match"), ("Result", "p", "NotApplicable"),
          ("Match", "q", "Match"), ("Result", "", "Indeterminate"), ("Match", "r", "Match"),
          ("Result", "r", "Permit"), ("Result", "q", "Permit"), ("Result", "s", "Permit")] ∧
      ∃ vs, en.Visits ctx vs ∧ Node.TracedAll ctx vs (en.decideTraced req).2 := by
  intro p s en req ctx
  have hs : (Node.policySet s).IsStandard := by
    refine Node.isStandard_policySet rfl rfl fun c hc => ?_
    simp only [s, List.mem_cons, List.not_mem_nil, or_false] at hc
    rcases hc with rfl | rfl | rfl <;> exact Node.isStandard_policy rfl rfl
  have hn : ∀ a, (Node.policySet s).Uses a → a.method.Discreet :=
    fun a ha => watched_evaluation.2.2 a.method (hs a ha)
  have hm : ∀ a, en.Uses a → a.method.Discreet := by
    rintro a (rfl | ⟨root, hroot, ha⟩)
    · exact watched_evaluation.2.2 _ rfl
    · obtain rfl := List.mem_singleton.mp hroot
      exact hn a ha
  have hf : ∀ f, .function f ∈ en.readings → f.Discreet := fun f hx => nomatch hx
  obtain ⟨hnode, -, hev⟩ := watched_evaluation.1 hn ctx
  obtain ⟨hengine, -, hevs⟩ := watched_evaluation.2.1 hm req
  have hd : en.decide ⟨[], some false⟩ = .of .permit :=
    ((hengine hf).2 en.config (some false) rfl).trans rfl
  exact ⟨hm, (hnode fun f hx => hf f hx).1 false, hev _ rfl rfl, rfl, hd, rfl, hevs _ rfl rfl⟩

/-- An algorithm that is not built in can tell whether it is watched, and so can a function; an
algorithm can also record events of its own. And the status of a node may be forced: then a rule
that is not well formed is evaluated and records how its target matched. -/
theorem indiscreet_evaluation :
    let p (a : Algorithm) (rules : List Rule) : Node :=
      .policy { Policy.new ⟨"p"⟩ with
        algorithm := some a
        rules := rules }
    let traced (on : Bool) : Context := { Context.bare with tracing := on }
    let listed (on : Bool) : Context := { Context.bare with returnPolicyIds := on }
    let unlessTraced : Method := .custom fun _ _ ctx =>
      pure (.of (if ctx.tracing then .deny else .permit))
    let isListing : Function := .extension ⟨⟨"is-listing"⟩, some .boolean, false, none, .exactly 0,
      fun _ env => .ok (.bool env.returnPolicyIds)⟩
    let reporting : Method := .custom fun _ _ ctx => do
      Run.record ctx ⟨"Note", "p", "Nothing to combine"⟩
      pure .notApplicable
    let traceable : Node := p ⟨⟨"unless-traced"⟩, unlessTraced⟩ []
    let listable : Node := p ⟨⟨"deny-overrides"⟩, .overrides .deny⟩
      [(Rule.new "r" .permit).withCondition (.apply isListing [])]
    let noisy : Node := p ⟨⟨"reporting"⟩, reporting⟩ []
    let ill : Rule := (Rule.new "r" .permit).withCondition (.literal (.string "x"))
    ((traceable.evaluate (traced true)).outcome.map Result.decision = .ok .deny ∧
        (traceable.evaluate (traced false)).outcome.map Result.decision = .ok .permit) ∧
      ((listable.evaluate (listed true)).outcome.map Result.decision = .ok .permit ∧
        (listable.evaluate (listed false)).outcome.map Result.decision = .ok .notApplicable) ∧
      (noisy.parts = [] ∧ (noisy.evaluate (traced true)).events.map TraceEvent.label =
        ["Match", "Note", "Result"]) ∧
      ill.check.isOk = false ∧
      ((Node.rule (ill.force .ok)).evaluate (traced true)).events.map TraceEvent.label =
        ["Match", "Result"] := by
  intro p traced listed unlessTraced isListing reporting traceable listable noisy ill
  exact ⟨⟨rfl, rfl⟩, ⟨rfl, rfl⟩, ⟨rfl, rfl⟩, rfl, rfl⟩

end Engine

end Abac
