import Abac.Proofs.Tree

/-!
# How nodes report

A rule, a policy or a policy set is checked, its target is matched, and it comes
to an answer, which it announces. Only the answers differ: a rule judges its
condition, and any other node combines its parts. This takes the evaluation of a
node apart (`Node.evaluate_eq_reported`), so that what is proved of whole trees
is proved of answers.
-/

namespace Abac

/-! ## Reports of nodes -/

/-- A node with a status is matched and comes to an answer, and both are recorded. -/
def reported (ctx : Context) (status : Status) (label : String) (t : Target)
    (answer : Applicability → Run Result) : Run Result :=
  if status.isOk then do
    let a ← t.check ctx label
    let r ← answer a
    announce ctx label r
  else announce ctx label (.indeterminate status)

section

variable {ctx : Context} {status : Status} {label : String} {t : Target}
  {answer : Applicability → Run Result}

theorem Target.outcome_check (ctx : Context) (node : String) (t : Target) :
    (t.check ctx node).outcome = t.evaluate ctx := by
  rw [check, Run.outcome_bind]
  cases t.evaluate ctx <;> rfl

theorem events_announce (r : Result) :
    (announce ctx label r).events = if ctx.tracing then [.ofResult label r] else [] :=
  List.append_nil _

theorem events_check {a : Applicability} (h : t.evaluate ctx = .ok a) :
    (t.check ctx label).events = if ctx.tracing then [.ofMatch label a] else [] := by
  rw [Target.check, Run.bind_of_ok h]
  exact List.append_nil _

theorem outcome_reported :
    (reported ctx status label t answer).outcome =
      if status.isOk then (t.evaluate ctx).bind fun a => (answer a).outcome
      else .ok (.indeterminate status) := by
  rw [reported]
  split
  · rw [Run.outcome_bind, Target.outcome_check]
    refine congrArg _ (funext fun a => ?_)
    rw [Run.outcome_bind]
    cases (answer a).outcome <;> rfl
  · rfl

/-- Without tracing, nothing but the answer is recorded. -/
theorem events_reported_of_silent (ht : ctx.tracing = false) (ha : ∀ a, (answer a).events = []) :
    (reported ctx status label t answer).events = [] := by
  have hann : ∀ r, (announce ctx label r).events = [] := fun r => by rw [events_announce, ht]; rfl
  rw [reported]
  split
  · refine Run.events_bind_eq_nil ?_ fun a => Run.events_bind_eq_nil (ha a) hann
    cases h : t.evaluate ctx with
    | error f => rw [Target.check, Run.bind_of_error h]; rfl
    | ok a => rw [events_check h, ht]; rfl
  · exact hann _

/-- With tracing, a node that is not well formed announces its result. -/
theorem events_reported_of_invalid (ht : ctx.tracing = true) (hs : status.isOk = false) {r : Result}
    (h : (reported ctx status label t answer).outcome = .ok r) :
    (reported ctx status label t answer).events = [.ofResult label r] := by
  have hn : ¬ status.isOk = true := Bool.eq_false_iff.mp hs
  rw [outcome_reported, if_neg hn] at h
  rw [reported, if_neg hn, events_announce, ht, Except.ok.inj h]
  rfl

/-- With tracing, what the answer records stands between two events. -/
theorem events_reported (ht : ctx.tracing = true) (hs : status.isOk = true) {r : Result}
    (h : (reported ctx status label t answer).outcome = .ok r) :
    ∃ a, t.evaluate ctx = .ok a ∧ (answer a).outcome = .ok r ∧
      (reported ctx status label t answer).events =
        .ofMatch label a :: (answer a).events ++ [.ofResult label r] := by
  rw [outcome_reported, if_pos hs] at h
  cases ha : t.evaluate ctx with
  | error f => rw [ha] at h; cases h
  | ok a =>
      rw [ha] at h
      have hc : (t.check ctx label).outcome = .ok a := (Target.outcome_check ctx label t).trans ha
      refine ⟨a, rfl, h, ?_⟩
      rw [reported, if_pos hs, Run.bind_of_ok hc]
      dsimp only
      rw [Run.bind_of_ok h, events_check ha, events_announce, ht]
      rfl

end

/-! ## Answers of nodes -/

/-- A target that tells by itself what a node comes to never makes it final. -/
theorem Applicability.early?_not_final {a : Applicability} {d : Decision} {r : Result}
    (hd : d.isFinal = false) (h : a.early? d = some r) : r.decision.isFinal = false := by
  cases a with
  | matched => cases h
  | unmatched =>
      obtain rfl := Option.some.inj h
      rfl
  | unclear s =>
      obtain rfl := Option.some.inj h
      exact hd

theorem Applicability.early?_eq_none_iff {a : Applicability} {d : Decision} :
    a.early? d = none ↔ a = .matched := by
  cases a <;> simp [early?]

/-- What a rule comes to when it is known whether its target matches. -/
def Rule.answer (ctx : Context) (r : Rule) (a : Applicability) : Run Result := do
  let judged ← match a.early? r.effect.indeterminate with
    | some early => pure early
    | none => Run.lift (r.judge ctx)
  Run.lift (judged.attach ctx r.obligations r.advice)

/-- What a policy or policy set comes to when it is known whether its target matches. -/
def Frame.answer (f : Frame) (scope : Context) (children : List Child) (sign : Result → Result)
    (a : Applicability) : Run Result :=
  match a.early? .indeterminate with
  | some early => pure early
  | none => f.combine scope children sign

namespace Node

/-- The name of the node in traces. -/
def label : Node → String
  | .rule r => r.label
  | .policy p => p.label
  | .policySet s => s.label

/-- The node's parts as its algorithm sees them. -/
def children (ctx : Context) (n : Node) : List Child :=
  n.parts.map (asChild (n.scope ctx) n.partParameters)

/-- What a node comes to when it is known whether its target matches. -/
def answer (ctx : Context) : Node → Applicability → Run Result
  | .rule r => r.answer ctx
  | .policy p => p.toFrame.answer ((policy p).scope ctx) ((policy p).children ctx) p.sign
  | .policySet s => s.toFrame.answer ctx ((policySet s).children ctx) s.sign

theorem answer_of_frame {ctx : Context} {n : Node} {f : Frame} (h : n.frame? = some f)
    (a : Applicability) :
    n.answer ctx a = f.answer (n.scope ctx) (n.children ctx) n.sign a := by
  cases n <;> cases h <;> rfl

theorem evaluate_eq_reported_of_frame (ctx : Context) {n : Node} {f : Frame}
    (h : n.frame? = some f) :
    n.evaluate ctx = reported ctx n.validate f.label f.target (n.answer ctx) := by
  rw [evaluate_of_frame h, Frame.evaluate, reported]
  refine ite_congr rfl (fun _ => congrArg _ (funext fun a => ?_)) fun _ => rfl
  rw [answer_of_frame h, Frame.answer]
  cases a.early? .indeterminate <;> rfl

/-- **Rules, policies and policy sets report alike.** -/
theorem evaluate_eq_reported (ctx : Context) (n : Node) :
    n.evaluate ctx = reported ctx n.validate n.label n.target (n.answer ctx) := by
  cases n with
  | rule r =>
      rw [evaluate, Rule.evaluate, reported]
      refine ite_congr rfl (fun _ => congrArg _ (funext fun a => ?_)) fun _ => rfl
      dsimp only [answer, Rule.answer]
      cases a.early? r.effect.indeterminate <;> simp only [bind_assoc] <;> rfl
  | policy p => exact evaluate_eq_reported_of_frame ctx rfl
  | policySet s => exact evaluate_eq_reported_of_frame ctx rfl

theorem outcome_evaluate (ctx : Context) (n : Node) :
    (n.evaluate ctx).outcome =
      if n.validate.isOk then (n.target.evaluate ctx).bind fun a => (n.answer ctx a).outcome
      else .ok (.indeterminate n.validate) := by
  rw [evaluate_eq_reported, outcome_reported]

end Node

end Abac
