import Abac.Proofs.Combination
import Abac.Proofs.Evaluation
import Abac.Proofs.Targets
import Abac.Proofs.Typing

/-!
# Coherent results

The parts of a result fit together. A result that is undecided says why, and any
other has nothing to report; obligations and advice go with a final decision
alone (`Result.Coherent`). No single function of the program sees to this. It
holds because every status that can leave a node undecided reports something,
from lookups through functions and targets up to obligations, and because every
way of combining results keeps it.

Extensions could halt with a status that reports nothing, and methods that are
not built in could return any result, so both are left out here.
-/

namespace Abac

/-- The decision, the status and the entries of a result fit together. -/
structure Result.Coherent (r : Result) : Prop where
  /-- A result that is not undecided has nothing to report. -/
  clean : r.decision.isIndeterminate = false → r.status = .ok
  /-- An undecided result says why. -/
  reports : r.decision.isIndeterminate = true → r.status.isOk = false
  /-- Entries go with a final decision. -/
  bare : r.decision.isFinal = false → r.obligations = [] ∧ r.advice = []

theorem Result.coherent_of {d : Decision} (h : d.isIndeterminate = false) : (of d).Coherent where
  clean := fun _ => rfl
  reports := fun hi => absurd (h.symm.trans hi) Bool.false_ne_true
  bare := fun _ => ⟨rfl, rfl⟩

theorem Result.coherent_withStatus {d : Decision} {s : Status} (h : d.isIndeterminate = true)
    (hs : s.isOk = false) : (withStatus d s).Coherent where
  clean := fun hi => absurd (hi.symm.trans h) Bool.false_ne_true
  reports := fun _ => hs
  bare := fun _ => ⟨rfl, rfl⟩

/-! ## Targets -/

/-- An unclear answer says why. -/
def Applicability.Reports (a : Applicability) : Prop := ∀ s, a = .unclear s → s.isOk = false

/-- All functions in a target are standard. -/
def Target.IsStandard (t : Target) : Prop :=
  ∀ m ∈ t.leaves, m.function.IsStandard ∧ m.expression.IsStandard

namespace Applicability

variable {α : Type} {test : α → Except Fault Applicability} {parts : List α} {a : Applicability}

theorem reports_of_status? (h : a.status? = none) : a.Reports := by
  intro s hs
  rw [hs] at h
  cases h

theorem reports_unclear {s : Status} (h : s.isOk = false) : (unclear s).Reports := by
  intro s' hs
  exact Applicability.unclear.inj hs ▸ h

theorem reports_verdict {settling otherwise : Applicability} (hs : settling.status? = none)
    (ho : otherwise.status? = none)
    (h : ∀ x ∈ parts, ∀ b, test x = .ok b → b.Reports) :
    (verdict settling otherwise (parts.map fun x => ofOutcome (test x))).Reports := by
  intro s hv
  obtain ⟨x, hx, he⟩ := List.mem_map.mp (mem_of_verdict_eq_unclear hs ho hv)
  cases ht : test x with
  | ok b =>
      rw [ht] at he
      exact h x hx b ht s he
  | error f =>
      rw [ht] at he
      exact Applicability.unclear.inj he ▸ rfl

theorem reports_of_all (h : ∀ x ∈ parts, ∀ b, test x = .ok b → b.Reports)
    (ha : all test parts = .ok a) : a.Reports := by
  rw [all_eq_ok ha]
  exact reports_verdict rfl rfl h

theorem reports_of_any (h : ∀ x ∈ parts, ∀ b, test x = .ok b → b.Reports)
    (ha : any test parts = .ok a) : a.Reports := by
  rw [any_eq_ok ha]
  exact reports_verdict rfl rfl h

end Applicability

theorem Match.ends_apply {m : Match} (hm : m.function.IsStandard) (env : Surroundings)
    (v : Value) :
    Ends Halt.Reports Outcome.WellTyped (m.function.apply [.value m.value, .value v] env) := by
  refine (hm.ends_apply ?_).allow fun _ h => h.reports
  simp only [List.forall_mem_cons]
  exact ⟨True.intro, True.intro, List.forall_mem_nil _⟩

theorem Match.reports_holdsOf {m : Match} (hm : m.function.IsStandard) {env : Surroundings}
    {v : Value} {a : Applicability} (h : m.holdsOf env v = .ok a) : a.Reports := by
  rw [holdsOf] at h
  split at h
  · exact Except.ok.inj h ▸ Applicability.reports_of_status? rfl
  · exact Except.ok.inj h ▸ Applicability.reports_of_status? rfl
  · exact Except.ok.inj h ▸ Applicability.reports_unclear rfl
  · rename_i s hs
    exact Except.ok.inj h ▸ Applicability.reports_unclear ((ends_apply hm env v).of_error hs)
  · cases h

theorem Match.reports_evaluate {ctx : Context} {m : Match} (hd : ctx.IsStandard)
    (hf : m.function.IsStandard) (he : m.expression.IsStandard) {a : Applicability}
    (h : m.evaluate ctx = .ok a) : a.Reports := by
  rw [evaluate] at h
  split at h
  · exact Applicability.reports_of_any (fun v _ b hb => m.reports_holdsOf hf hb) h
  · rename_i s hs
    exact Except.ok.inj h ▸ Applicability.reports_unclear ((he.ends_eval hd).of_error hs)
  · cases h

/-- **A target that is unclear says why.** -/
theorem Target.IsStandard.reports {ctx : Context} {t : Target} (ht : t.IsStandard)
    (hd : ctx.IsStandard) {a : Applicability} (h : t.evaluate ctx = .ok a) : a.Reports := by
  refine Applicability.reports_of_all (fun y hy b hb => ?_) h
  refine Applicability.reports_of_any (fun x hx c hc => ?_) hb
  refine Applicability.reports_of_all (fun m hm d hd' => ?_) hc
  obtain ⟨hf, he⟩ := ht m (List.mem_flatMap.mpr ⟨y, hy, List.mem_flatMap.mpr ⟨x, hx, hm⟩⟩)
  exact Match.reports_evaluate hd hf he hd'

/-! ## Entries and conditions -/

/-- All functions in an obligation or advice are standard. -/
def ObligationExpression.IsStandard (o : ObligationExpression) : Prop :=
  ∀ a ∈ o.assignments, a.expression.IsStandard

theorem ends_evalAssignments {H : Halt → Prop} {ctx : Context} {as : List AssignmentExpression}
    (h : ∀ a ∈ as, Ends H Outcome.WellTyped (a.expression.eval ctx)) :
    Ends H (fun _ => True) (evalAssignments ctx as) := by
  induction as with
  | nil => exact True.intro
  | cons a rest ih =>
      obtain ⟨ha, hr⟩ := List.forall_mem_cons.mp h
      have hv : Ends H (fun _ => True) (a.eval ctx) := ha.bind fun _ _ => True.intro
      exact hv.bind fun _ _ => (ih hr).bind fun _ _ => True.intro

/-- Entries halt as their expressions do. -/
theorem ends_evalObligations {H : Halt → Prop} {ctx : Context} (e : Effect)
    {os : List ObligationExpression}
    (h : ∀ o ∈ os, ∀ a ∈ o.assignments, Ends H Outcome.WellTyped (a.expression.eval ctx)) :
    Ends H (fun _ => True) (evalObligations ctx e os) := by
  induction os with
  | nil => exact True.intro
  | cons o rest ih =>
      obtain ⟨ho, hr⟩ := List.forall_mem_cons.mp h
      have hv : Ends H (fun _ => True) (o.eval ctx) :=
        (ends_evalAssignments ho).bind fun _ _ => True.intro
      rw [evalObligations]
      split
      · exact hv.bind fun _ _ => (ih hr).bind fun _ _ => True.intro
      · exact ih hr

theorem Rule.coherent_judge {ctx : Context} {r : Rule} {q : Result} (hd : ctx.IsStandard)
    (hc : ∀ c, r.condition = some c → c.IsStandard) (h : r.judge ctx = .ok q) : q.Coherent := by
  have he : r.effect.decision.isIndeterminate = false :=
    Bool.eq_false_iff.mpr r.effect.not_isIndeterminate_decision
  have hi := r.effect.isIndeterminate_indeterminate
  rw [judge] at h
  split at h
  · exact Except.ok.inj h ▸ Result.coherent_of he
  rename_i c hcond
  split at h
  · exact Except.ok.inj h ▸ Result.coherent_of he
  · exact Except.ok.inj h ▸ Result.coherent_of rfl
  · exact Except.ok.inj h ▸ Result.coherent_withStatus hi rfl
  · rename_i s hs
    have hr := ((hc c hcond).ends_eval hd).of_error hs
    exact Except.ok.inj h ▸ Result.coherent_withStatus hi hr
  · cases h

/-! ## Steps of an evaluation -/

/-- A combination of coherent results is coherent. -/
theorem Combined.coherent {children : List Child} {r : Result} (h : Combined children r)
    (hc : ∀ q, Comes children q → q.Coherent)
    (ht : ∀ c ∈ children, ∀ a, (c.matchTarget ()).outcome = .ok a → a.Reports) : r.Coherent := by
  have hb : r.decision.isFinal = false → r.obligations = [] ∧ r.advice = [] := fun hr =>
    ⟨h.read_eq_nil (L := .obligations) (fun q hq hf => ((hc q hq).bare hf).1) hr,
      h.read_eq_nil (L := .advice) (fun q hq hf => ((hc q hq).bare hf).2) hr⟩
  cases h with
  | child hq => exact hc r hq
  | @gathered e rs hq =>
      have hi : e.decision.isIndeterminate = false :=
        Bool.eq_false_iff.mpr e.not_isIndeterminate_decision
      refine ⟨fun _ => ?_, fun h => absurd (hi.symm.trans h) Bool.false_ne_true, hb⟩
      -- no gathered result has anything to report
      have hn : rs.find? (fun q => !q.status.isOk) = none := by
        refine List.find?_eq_none.mpr fun q hm => ?_
        obtain ⟨hq, hd⟩ := hq q hm
        rw [(hc q hq).clean (hd ▸ hi)]
        decide
      show Result.firstReport rs = .ok
      rw [Result.firstReport, hn]
      rfl
  | failed hd hq hu => exact Result.coherent_withStatus hd ((hc _ hq).reports hu)
  | @merged first rest hq =>
      -- merging keeps the first report, and the first result has one
      obtain ⟨hf, hu⟩ := hq first List.mem_cons_self
      have hr := (hc first hf).reports hu
      have hd : (rest.foldl Result.merge first).decision.isIndeterminate = true := by
        rw [Result.decision_foldl_merge]
        exact hu
      refine ⟨fun h => absurd (h.symm.trans hd) Bool.false_ne_true, fun _ => ?_, hb⟩
      rw [Result.status_foldl_merge_of_report hr]
      exact hr
  | unclear hm hs => exact Result.coherent_withStatus rfl (ht _ hm _ hs _ rfl)
  | several => exact Result.coherent_withStatus rfl rfl
  | absent => exact Result.coherent_of rfl

/-- What attaching makes of a coherent result is coherent. -/
theorem Result.Attached.coherent {ctx : Context} {os as : List ObligationExpression}
    {q r : Result} (h : q.Attached ctx os as r) (hd : ctx.IsStandard) (hq : q.Coherent)
    (ho : ∀ o ∈ os, o.IsStandard) (ha : ∀ o ∈ as, o.IsStandard) : r.Coherent := by
  cases h with
  | skipped => exact hq
  | @added e obs adv he =>
      refine ⟨hq.clean, hq.reports, fun hf => ?_⟩
      rw [show (_ : Result).decision = e.decision from he, e.isFinal_decision] at hf
      cases hf
  | @failed e xs s _ hx hs =>
      have hx : ∀ o ∈ xs, o.IsStandard := by
        rcases hx with rfl | rfl
        · exact ho
        · exact ha
      have hv := ends_evalObligations e fun o hm a ha => (hx o hm a ha).ends_eval hd
      have hr : s.isOk = false := hv.of_error hs
      have hi := e.isIndeterminate_indeterminate
      exact ⟨fun h => absurd (h.symm.trans hi) Bool.false_ne_true, fun _ => hr, fun _ => ⟨rfl, rfl⟩⟩

/-! ## Trees -/

namespace Node

theorem coherent_signed {r : Result} (ctx : Context) (n : Node) (h : r.Coherent) :
    (n.signed ctx r).Coherent := by
  rw [signed]
  split
  · cases n <;> exact ⟨h.clean, h.reports, h.bare⟩
  · exact h

/-- The variables that a node defines. -/
def definitions : Node → Definitions
  | .policy p => p.definitions
  | _ => []

/-- The condition of a node; only rules have one. -/
def condition? : Node → Option Expression
  | .rule r => r.condition
  | _ => none

/-- All functions that a node itself names are standard. -/
structure NamesStandard (n : Node) : Prop where
  target : n.target.IsStandard
  condition : ∀ c, n.condition? = some c → c.IsStandard
  definitions : ∀ d ∈ n.definitions, d.expression.IsStandard
  entries : ∀ k : Attachment, ∀ o ∈ k.expressions n, o.IsStandard

/-- All functions in a tree are standard. -/
def HasStandardFunctions (n : Node) : Prop := ∀ m, n.Within m → m.NamesStandard

theorem hasStandardFunctions_iff {n : Node} :
    n.HasStandardFunctions ↔ n.NamesStandard ∧ ∀ c ∈ n.parts, c.HasStandardFunctions := by
  constructor
  · exact fun h => ⟨h n .root, fun c hc m hm => h m (within_iff.mpr (Or.inr ⟨c, hc, hm⟩))⟩
  · rintro ⟨hn, hp⟩ m hm
    rcases within_iff.mp hm with rfl | ⟨c, hc, hm⟩
    · exact hn
    · exact hp c hc m hm

theorem HasStandardFunctions.part {n c : Node} (h : n.HasStandardFunctions) (hc : c ∈ n.parts) :
    c.HasStandardFunctions := (hasStandardFunctions_iff.mp h).2 c hc

theorem NamesStandard.scope {n : Node} {ctx : Context} (h : n.NamesStandard)
    (hd : ctx.IsStandard) : (n.scope ctx).IsStandard := by
  cases n with
  | policy p => exact List.forall_mem_append.mpr ⟨h.definitions, hd⟩
  | _ => exact hd

/-- What a node judges is coherent if the results of its parts are. -/
theorem Judges.coherent {ctx : Context} {n : Node} {q : Result} (h : n.Judges ctx q)
    (hm : ∀ a, n.algorithm? = some a → a.method.isStandard = true) (hd : ctx.IsStandard)
    (hf : n.HasStandardFunctions)
    (hp : ∀ c ∈ n.parts, ∀ r, (c.evaluate (n.scope ctx)).outcome = .ok r → r.Coherent) :
    q.Coherent := by
  have hn := hf n .root
  cases h with
  | rule hj => exact Rule.coherent_judge hd hn.condition hj
  | combined _ ha hc =>
      refine (Method.combined (hm _ ha) hc).coherent (fun r hr => ?_) fun x hx a hxa => ?_
      · obtain ⟨x, hx, hr⟩ := hr
        obtain ⟨c, hc, rfl⟩ := List.mem_map.mp hx
        exact hp c hc r hr
      · obtain ⟨c, hc, rfl⟩ := List.mem_map.mp hx
        exact (hf c (.part .root hc)).target.reports (hn.scope hd) hxa

/-- **Every result is coherent**, of a tree whose functions and algorithms are standard, whatever
the sources of attributes answer. -/
theorem evaluate_coherent {n : Node} (hm : n.IsStandard) (hf : n.HasStandardFunctions)
    {ctx : Context} (hd : ctx.IsStandard) {r : Result} (h : (n.evaluate ctx).outcome = .ok r) :
    r.Coherent := by
  induction n using induct generalizing ctx r with
  | h n ih =>
      have hn := hf n .root
      have hs := hn.scope hd
      cases ended h with
      | invalid hv => exact Result.coherent_withStatus rfl hv
      | @early a _ ht he =>
          have hr := hn.target.reports hd ht
          cases a with
          | matched => cases he
          | unmatched => exact Option.some.inj he ▸ Result.coherent_of rfl
          | unclear s =>
              exact Option.some.inj he ▸
                Result.coherent_withStatus n.undecided_isIndeterminate (hr s rfl)
      | @decided q attached _ _ hj hat =>
          have hq := hj.coherent hm.algorithm hd hf fun c hc r hr =>
            ih c hc (hm.part hc) (hf.part hc) hs hr
          have ha := hat.coherent hs hq (hn.entries .obligation) (hn.entries .advice)
          exact coherent_signed ctx n ha

theorem evaluate_coherent_failed_obligation :
    let role : Designator := ⟨⟨"subject"⟩, ⟨"role"⟩, .string, none, true⟩
    let duty : ObligationExpression := ⟨⟨"log"⟩, .permit, [⟨⟨"who"⟩, none, none, .designator role⟩]⟩
    let p : Policy :=
      { Policy.new ⟨"p"⟩ with
        algorithm := some ⟨⟨"permit-unless-deny"⟩, .defaulting .deny⟩
        obligations := [duty]
        rules := [Rule.new "r" .permit] }
    let s : PolicySet :=
      { PolicySet.new ⟨"s"⟩ with
        algorithm := some ⟨⟨"permit-overrides"⟩, .earlierPermitOverrides⟩
        children := [.policy p] }
    let ctx : Context := { Context.bare with returnPolicyIds := true }
    let r : Result := .withStatus .indeterminatePermit role.missing
    (policySet s).IsStandard ∧ (policySet s).HasStandardFunctions ∧ ctx.IsStandard ∧
      ((policySet s).evaluate ctx).outcome = .ok r ∧ r.Coherent := by
  intro role duty p s ctx r
  have hnt : Target.everything.IsStandard := fun _ hm => nomatch hm
  have hnc : ∀ c, (none : Option Expression) = some c → c.IsStandard := fun _ hc => nomatch hc
  have hr : (rule (Rule.new "r" .permit)).HasStandardFunctions := by
    refine hasStandardFunctions_iff.mpr ⟨⟨hnt, hnc, List.forall_mem_nil _, fun k => ?_⟩, ?_⟩
    · cases k <;> exact fun _ ho => nomatch ho
    · exact fun _ hc => nomatch hc
  have hp : (policy p).HasStandardFunctions := by
    refine hasStandardFunctions_iff.mpr ⟨⟨hnt, hnc, List.forall_mem_nil _, fun k => ?_⟩, ?_⟩
    · cases k with
      | obligation =>
          exact List.forall_mem_singleton.mpr (List.forall_mem_singleton.mpr True.intro)
      | advice => exact fun _ ho => nomatch ho
    · exact List.forall_mem_singleton.mpr hr
  have hf : (policySet s).HasStandardFunctions := by
    refine hasStandardFunctions_iff.mpr ⟨⟨hnt, hnc, List.forall_mem_nil _, fun k => ?_⟩, ?_⟩
    · cases k <;> exact fun _ ho => nomatch ho
    · exact List.forall_mem_singleton.mpr hp
  have hm : (policySet s).IsStandard :=
    isStandard_policySet rfl rfl (List.forall_mem_singleton.mpr (isStandard_policy rfl rfl))
  have hd : ctx.IsStandard := fun _ hd => nomatch hd
  have h : ((policySet s).evaluate ctx).outcome = .ok r := rfl
  exact ⟨hm, hf, hd, h, evaluate_coherent hm hf hd h⟩

end Node

end Abac
