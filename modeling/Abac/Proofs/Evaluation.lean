import Abac.Proofs.Related
import Abac.Proofs.Reports

/-!
# How the evaluation of a node ends

A node that is not well formed, or whose target does not match for certain, comes
to a bare result. Any other node judges, a rule its condition and a policy or
policy set what its parts come to, and then attaches its own obligations and
advice, which may still fail. `Node.Ended` says so once for rules, policies and
policy sets. It takes the evaluation of a node apart, so that proofs about whole
trees never open it again.

A node that permits or denies has thus passed every check on the way. What its
result carries is what its contributors' results carry, followed by its own
entries (`Node.Account`).
-/

namespace Abac

/-! ## Attaching -/

/-- The two kinds of entries that nodes attach to results. -/
inductive Attachment where
  | obligation
  | advice
  deriving DecidableEq, Repr

namespace Attachment

/-- The expressions of a node for the entries. -/
def expressions : Attachment → Node → List ObligationExpression
  | .obligation => Node.obligations
  | .advice => Node.advice

/-- The entries of a result. -/
def entries : Attachment → Carried Obligation
  | .obligation => .obligations
  | .advice => .advice

theorem entries_sign (k : Attachment) (n : Node) (r : Result) :
    k.entries.read (n.sign r) = k.entries.read r := by
  cases k <;> cases n <;> rfl

end Attachment

namespace Result

variable {ctx : Context} {os as : List ObligationExpression} {q r : Result} {e : Effect}

/-- The ways in which attaching to a result ends. -/
inductive Attached (ctx : Context) (os as : List ObligationExpression) (q : Result) :
    Result → Prop where
  /-- A result that is not final is left as it is. -/
  | skipped : q.decision.isFinal = false → Attached ctx os as q q
  | added {e : Effect} {obs adv : List Obligation} : q.decision = e.decision →
      evalObligations ctx e os = .ok obs → evalObligations ctx e as = .ok adv →
      Attached ctx os as q { q with obligations := q.obligations ++ obs, advice := q.advice ++ adv }
  /-- An entry has no value, and the result is undecided. -/
  | failed {e : Effect} {xs : List ObligationExpression} {s : Status} : q.decision = e.decision →
      xs = os ∨ xs = as → evalObligations ctx e xs = .error (.status s) →
      Attached ctx os as q (q.fail e.indeterminate s)

theorem attached_of_attach (h : q.attach ctx os as = .ok r) : q.Attached ctx os as r := by
  rw [attach] at h
  cases he : Effect.ofDecision? q.decision with
  | none =>
      rw [he] at h
      obtain rfl := Except.ok.inj h
      exact .skipped (by rw [← Effect.ofDecision?_isSome, he]; rfl)
  | some e =>
      have hq := Effect.ofDecision?_eq_some_iff.mp he
      rw [he] at h
      dsimp only at h
      cases ho : evalObligations ctx e os with
      | error halt =>
          rw [ho] at h
          cases halt with
          | fault f => cases h
          | status s => exact Except.ok.inj h ▸ .failed hq (Or.inl rfl) ho
      | ok obs =>
          cases ha : evalObligations ctx e as with
          | error halt =>
              rw [ho, ha] at h
              cases halt with
              | fault f => cases h
              | status s => exact Except.ok.inj h ▸ .failed hq (Or.inr rfl) ha
          | ok adv =>
              rw [ho, ha] at h
              exact Except.ok.inj h ▸ .added hq ho ha

/-- What attaching does to a final result whose entries have values. -/
theorem attach_of_values {obs adv : List Obligation} (hq : q.decision = e.decision)
    (ho : evalObligations ctx e os = .ok obs) (ha : evalObligations ctx e as = .ok adv) :
    q.attach ctx os as =
      .ok { q with obligations := q.obligations ++ obs, advice := q.advice ++ adv } := by
  rw [attach, Effect.ofDecision?_eq_some_iff.mpr hq]
  dsimp only
  rw [ho, ha]
  rfl

/-- A result that is final after its node attached to it was final before, and has more entries. -/
theorem Attached.of_final (h : q.Attached ctx os as r) (hr : r.decision = e.decision) :
    q.decision = e.decision ∧ ∃ obs adv, evalObligations ctx e os = .ok obs ∧
      evalObligations ctx e as = .ok adv ∧
      r = { q with obligations := q.obligations ++ obs, advice := q.advice ++ adv } := by
  cases h with
  | skipped hf =>
      rw [hr, e.isFinal_decision] at hf
      cases hf
  | @added e' obs adv hq ho ha =>
      obtain rfl : e' = e := Effect.decision_inj.mp (hq.symm.trans hr)
      exact ⟨hq, obs, adv, ho, ha, rfl⟩
  | @failed e' => exact absurd hr (e'.indeterminate_ne_decision e)

end Result

/-! ## How evaluations end -/

namespace Node

/-- What a node whose target is unclear decides. -/
def undecided : Node → Decision
  | .rule r => r.effect.indeterminate
  | _ => .indeterminate

theorem undecided_of_frame {n : Node} {f : Frame} (h : n.frame? = some f) :
    n.undecided = .indeterminate := by
  cases n with
  | rule r => cases h
  | _ => rfl

theorem undecided_isIndeterminate (n : Node) : n.undecided.isIndeterminate = true := by
  cases n with
  | rule r => exact r.effect.isIndeterminate_indeterminate
  | _ => rfl

/-- What a node comes to when its target matches, before its own entries: a rule judges its
condition, and any other node combines its parts. -/
inductive Judges (ctx : Context) : Node → Result → Prop where
  | rule {r : Rule} {q : Result} : r.judge ctx = .ok q → Judges ctx (.rule r) q
  | combined {n : Node} {f : Frame} {a : Algorithm} {q : Result} : n.frame? = some f →
      n.algorithm? = some a →
      (a.combine (n.parts.map (asChild (n.scope ctx) n.partParameters)) f.parameters
        (n.scope ctx)).outcome = .ok q →
      Judges ctx n q

/-- The result with the node listed, if it is final and policy identifiers are wanted. -/
def signed (ctx : Context) (n : Node) (r : Result) : Result :=
  if r.decision.isFinal && ctx.returnPolicyIds then n.sign r else r

theorem decision_signed (ctx : Context) (n : Node) (r : Result) :
    (n.signed ctx r).decision = r.decision := by
  rw [signed]
  split
  · exact n.decision_sign r
  · rfl

theorem signed_of_final {ctx : Context} {n : Node} {r : Result} (hr : r.decision.isFinal = true)
    (hi : ctx.returnPolicyIds = true) : n.signed ctx r = n.sign r := by
  rw [signed, hr, hi]
  rfl

theorem signed_of_not_final {ctx : Context} {n : Node} {r : Result}
    (hr : r.decision.isFinal = false) : n.signed ctx r = r := by
  rw [signed, hr]
  rfl

theorem entries_signed (ctx : Context) (k : Attachment) (n : Node) (r : Result) :
    k.entries.read (n.signed ctx r) = k.entries.read r := by
  rw [signed]
  split
  · exact k.entries_sign n r
  · rfl

/-- The ways in which the evaluation of a node comes to a result. -/
inductive Ended (ctx : Context) (n : Node) : Result → Prop where
  /-- The node is not well formed. -/
  | invalid : n.validate.isOk = false → Ended ctx n (.indeterminate n.validate)
  /-- The target alone tells. -/
  | early {a : Applicability} {r : Result} : n.target.evaluate ctx = .ok a →
      a.early? n.undecided = some r → Ended ctx n r
  | decided {q attached : Result} : n.validate.isOk = true → n.target.evaluate ctx = .ok .matched →
      n.Judges ctx q → q.Attached (n.scope ctx) n.obligations n.advice attached →
      Ended ctx n (n.signed ctx attached)

theorem ended_of_rule {ctx : Context} {rule : Rule} {a : Applicability} {r : Result}
    (hv : rule.validate.isOk = true) (ha : rule.target.evaluate ctx = .ok a)
    (h : (rule.answer ctx a).outcome = .ok r) : (Node.rule rule).Ended ctx r := by
  rw [Rule.answer] at h
  cases he : a.early? rule.effect.indeterminate with
  | some early =>
      rw [he] at h
      obtain ⟨judged, hj, hat⟩ := Run.bind_eq_ok h
      obtain rfl : early = judged := Except.ok.inj hj
      have hf := Applicability.early?_not_final (by cases rule.effect <;> rfl) he
      -- nothing is attached to the target's answer, since it is not final
      cases Result.attached_of_attach hat with
      | skipped => exact .early ha he
      | added hd => rw [hd, Effect.isFinal_decision] at hf; cases hf
      | failed hd => rw [hd, Effect.isFinal_decision] at hf; cases hf
  | none =>
      rw [he] at h
      obtain ⟨judged, hj, hat⟩ := Run.bind_eq_ok h
      rw [Applicability.early?_eq_none_iff.mp he] at ha
      have hs : (Node.rule rule).signed ctx r = r := by
        rw [signed]
        split <;> rfl
      exact hs ▸ .decided hv ha (.rule hj) (Result.attached_of_attach hat)

theorem ended_of_frame {ctx : Context} {n : Node} {f : Frame} (hf : n.frame? = some f)
    {a : Applicability} {r : Result} (hv : n.validate.isOk = true)
    (ha : n.target.evaluate ctx = .ok a) (h : (n.answer ctx a).outcome = .ok r) :
    n.Ended ctx r := by
  rw [answer_of_frame hf, Frame.answer, ← undecided_of_frame hf] at h
  cases he : a.early? n.undecided with
  | some early =>
      rw [he] at h
      obtain rfl : early = r := Except.ok.inj h
      exact .early ha he
  | none =>
      rw [he] at h
      rw [Applicability.early?_eq_none_iff.mp he] at ha
      dsimp only at h
      rw [Frame.combine] at h
      cases hal : f.algorithm with
      | none => rw [hal] at h; cases h
      | some algorithm =>
          rw [hal] at h
          obtain ⟨q, hq, h⟩ := Run.bind_eq_ok h
          obtain ⟨attached, hat, h⟩ := Run.bind_eq_ok h
          rw [← obligations_of_frame hf, ← advice_of_frame hf] at hat
          have hn : n.algorithm? = some algorithm := (algorithm?_of_frame hf).trans hal
          have hs : n.signed ctx attached = r := by
            rw [signed, ← returnPolicyIds_scope ctx n]
            exact Except.ok.inj h
          exact hs ▸ .decided hv ha (.combined hf hn hq) (Result.attached_of_attach hat)

/-- **There are no other ways.** -/
theorem ended {ctx : Context} {n : Node} {r : Result} (h : (n.evaluate ctx).outcome = .ok r) :
    n.Ended ctx r := by
  rw [outcome_evaluate] at h
  split at h
  · rename_i hv
    cases ha : n.target.evaluate ctx with
    | error f => rw [ha] at h; cases h
    | ok a =>
        rw [ha] at h
        cases n with
        | rule rule => exact ended_of_rule hv ha h
        | policy p => exact ended_of_frame rfl hv ha h
        | policySet s => exact ended_of_frame rfl hv ha h
  · rename_i hv
    obtain rfl : _ = r := Except.ok.inj h
    exact .invalid (Bool.eq_false_iff.mpr hv)

/-- A final result: the node is well formed and applies, and has added its own entries to what it
judged. -/
theorem Ended.of_final {ctx : Context} {n : Node} {r : Result} {e : Effect} (h : n.Ended ctx r)
    (hr : r.decision = e.decision) :
    n.validate.isOk = true ∧ n.target.evaluate ctx = .ok .matched ∧
    ∃ q os as, n.Judges ctx q ∧ q.decision = e.decision ∧
      evalObligations (n.scope ctx) e n.obligations = .ok os ∧
      evalObligations (n.scope ctx) e n.advice = .ok as ∧
      r = n.signed ctx { q with obligations := q.obligations ++ os, advice := q.advice ++ as } := by
  cases h with
  | invalid => cases e <;> cases hr
  | early _ he =>
      have hf := Applicability.early?_not_final
        (Decision.not_isFinal_of_isIndeterminate n.undecided_isIndeterminate) he
      rw [hr, e.isFinal_decision] at hf
      cases hf
  | decided hv ht hj hat =>
      rw [decision_signed] at hr
      obtain ⟨hq, os, as, ho, ha, rfl⟩ := hat.of_final hr
      exact ⟨hv, ht, _, os, as, hj, hq, ho, ha, rfl⟩

end Node

/-! ## Rules -/

/-- A rule does what it is for: it is well formed, its target matches, its condition is true if it
has one, and all of its obligations and advice have values. -/
structure Rule.Fires (ctx : Context) (r : Rule) : Prop where
  valid : r.validate.isOk = true
  matched : r.target.evaluate ctx = .ok .matched
  holds : ∀ c, r.condition = some c → c.eval ctx = .ok (.bool true)
  attached : ∀ k : Attachment, ∃ xs,
    evalObligations ctx r.effect (k.expressions (.rule r)) = .ok xs

namespace Rule

variable {ctx : Context} {r : Rule} {q : Result} {e : Effect}

theorem judge_final (h : r.judge ctx = .ok q) (hq : q.decision = e.decision) :
    q = .of r.effect.decision ∧ ∀ c, r.condition = some c → c.eval ctx = .ok (.bool true) := by
  have hn := r.effect.indeterminate_ne_decision e
  rw [judge] at h
  split at h
  · rename_i hc
    exact ⟨(Except.ok.inj h).symm, fun c he => by rw [hc] at he; cases he⟩
  rename_i c hc
  split at h
  · rename_i hv
    refine ⟨(Except.ok.inj h).symm, fun c' he => ?_⟩
    obtain rfl := Option.some.inj (hc.symm.trans he)
    exact hv
  · obtain rfl := Except.ok.inj h
    exact absurd hq e.notApplicable_ne_decision
  · obtain rfl := Except.ok.inj h
    exact absurd hq hn
  · obtain rfl := Except.ok.inj h
    exact absurd hq hn
  · cases h

/-- A rule that judges an effect, and whose entries have values, fires. -/
theorem fires_of_judge (hv : r.validate.isOk = true) (ht : r.target.evaluate ctx = .ok .matched)
    (hj : r.judge ctx = .ok q) (hq : q.decision = e.decision)
    (hx : ∀ k : Attachment, ∃ xs, evalObligations ctx e (k.expressions (.rule r)) = .ok xs) :
    r.effect = e ∧ r.Fires ctx := by
  obtain ⟨rfl, hc⟩ := judge_final hj hq
  obtain rfl : r.effect = e := Effect.decision_inj.mp hq
  exact ⟨rfl, hv, ht, hc, hx⟩

end Rule

/-! ## Accounts -/

namespace Node

/-- A node that need not have a contributor for an effect: a rule that fires, or a node whose
algorithm presumes the effect. -/
def Originates (ctx : Context) (e : Effect) (n : Node) : Prop :=
  (∃ r, n = .rule r ∧ r.effect = e ∧ r.Fires ctx) ∨
    ∃ a, n.algorithm? = some a ∧ a.method.presumes e = true

/-- How a node came to a result of an effect: it is well formed and applies, its contributors came
to results of the same effect, and what they carry and the node's own entries are in the result. -/
structure Account (ctx : Context) (n : Node) (e : Effect) (r : Result) (rs : List Result) :
    Prop where
  valid : n.validate.isOk = true
  matched : n.target.evaluate ctx = .ok .matched
  /-- The contributors came to these results, and decided the same. -/
  results : List.Forall₂
    (fun c s => (c.evaluate (n.scope ctx)).outcome = .ok s ∧ s.decision = e.decision)
    (n.contributors ctx e.decision) rs
  entries : ∀ k : Attachment, ∃ own, evalObligations (n.scope ctx) e (k.expressions n) = .ok own ∧
    k.entries.read r = rs.flatMap k.entries.read ++ own
  originates : rs = [] → n.Originates ctx e

/-- What a node judges is gathered from its contributors, which came to the same decision. -/
theorem Judges.gathers {ctx : Context} {n : Node} {e : Effect} {q : Result} (hj : n.Judges ctx q)
    (hm : ∀ a, n.algorithm? = some a → a.method.isStandard = true)
    (hv : n.validate.isOk = true) (ht : n.target.evaluate ctx = .ok .matched)
    (hq : q.decision = e.decision)
    (hx : ∀ k : Attachment, ∃ xs, evalObligations (n.scope ctx) e (k.expressions n) = .ok xs) :
    ∃ rs, q.Gathers rs ∧ List.Forall₂
      (fun c s => (c.evaluate (n.scope ctx)).outcome = .ok s ∧ s.decision = e.decision)
      (n.contributors ctx e.decision) rs ∧ (rs = [] → n.Originates ctx e) := by
  cases hj with
  | @rule rule _ hj =>
      obtain ⟨rfl, hf⟩ := Rule.fires_of_judge hv ht hj hq hx
      obtain ⟨rfl, -⟩ := Rule.judge_final hj hq
      exact ⟨[], .none _, .nil, fun _ => Or.inl ⟨rule, rfl, rfl, hf⟩⟩
  | @combined _ f a _ hf ha hc =>
      obtain ⟨rs, hrs, hg, hp⟩ := Method.contribution (hm a ha) hc hq
      refine ⟨rs, hg, ?_, fun hn => Or.inr ⟨a, ha, hp hn⟩⟩
      rw [Method.contributors_map, Survey.outcomes, List.map_map] at hrs
      rw [contributors, ha]
      exact related_of_map_eq_map hrs fun s hs => (hg.decision s hs).trans hq

/-- How a final result comes about, with all that it carries. -/
theorem gathers_of_final {ctx : Context} {n : Node} {e : Effect} {r : Result}
    (hm : ∀ a, n.algorithm? = some a → a.method.isStandard = true)
    (h : (n.evaluate ctx).outcome = .ok r) (hr : r.decision = e.decision) :
    ∃ (rs : List Result) (q : Result) (os as : List Obligation),
      q.Gathers rs ∧ q.decision = e.decision ∧
      r = n.signed ctx { q with obligations := q.obligations ++ os, advice := q.advice ++ as } ∧
      n.Account ctx e r rs := by
  obtain ⟨hv, ht, q, os, as, hj, hq, ho, ha, rfl⟩ := (ended h).of_final hr
  have hx : ∀ k : Attachment, ∃ own, evalObligations (n.scope ctx) e (k.expressions n) = .ok own ∧
      k.entries.read (n.signed ctx
        { q with obligations := q.obligations ++ os, advice := q.advice ++ as }) =
      k.entries.read q ++ own := by
    intro k
    rw [entries_signed]
    cases k with
    | obligation => exact ⟨os, ho, rfl⟩
    | advice => exact ⟨as, ha, rfl⟩
  obtain ⟨rs, hg, hrs, hn⟩ := hj.gathers hm hv ht hq fun k => (hx k).imp fun _ h => h.1
  refine ⟨rs, q, os, as, hg, hq, rfl, hv, ht, hrs, fun k => ?_, hn⟩
  obtain ⟨own, ho, hk⟩ := hx k
  exact ⟨own, ho, by rw [hk, hg.carried]⟩

/-- Every final result of a node has an account. -/
theorem exists_account {ctx : Context} {n : Node} {e : Effect} {r : Result}
    (hm : ∀ a, n.algorithm? = some a → a.method.isStandard = true)
    (h : (n.evaluate ctx).outcome = .ok r) (hr : r.decision = e.decision) :
    ∃ rs, n.Account ctx e r rs := by
  obtain ⟨rs, _, _, _, _, _, _, ha⟩ := gathers_of_final hm h hr
  exact ⟨rs, ha⟩

end Node

end Abac
