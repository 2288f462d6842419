import Mathlib.Data.List.Induction
import Abac.Proofs.Coherence
import Abac.Proofs.Variables

/-!
# Evaluation does not crash

A breach stands where a function relies on what was checked before: that there is
an argument to take, that a value is of the type of a bag, that calls do not nest
too deeply. It is a fault like any other as far as the evaluation of a tree is
concerned, and would abandon it. None is ever reached. Functions have none to
begin with, whatever they are applied to (`StandardFunction.ends_apply`);
expressions add failures of lookups, and circles of variables, which are left out
here; and above expressions every fault is that of a part, since targets, entries
and methods only hand on those that they meet (`FaultsOnly`).
-/

namespace Abac

/-- The program would not have come to an end in an orderly way. -/
def Fault.IsCrash : Fault → Prop
  | .breach _ => True
  | .circularVariable _ => True
  | _ => False

/-- A computation faults as `F` says, if it does. -/
def FaultsOnly {α : Type} (F : Fault → Prop) (x : Except Fault α) : Prop := ∀ f, x = .error f → F f

namespace FaultsOnly

variable {α β : Type} {F : Fault → Prop}

theorem ok (a : α) : FaultsOnly F (.ok a) := fun _ h => nomatch h

theorem error {f : Fault} (h : F f) : FaultsOnly F (.error f : Except Fault α) :=
  fun _ he => Except.error.inj he ▸ h

theorem bind {r : Run α} {next : α → Run β} (hr : FaultsOnly F r.outcome)
    (hn : ∀ a, FaultsOnly F (next a).outcome) : FaultsOnly F (r >>= next).outcome := by
  intro f h
  cases ho : r.outcome with
  | error g =>
      rw [Run.bind_of_error ho] at h
      obtain rfl := Except.error.inj h
      exact hr g ho
  | ok a =>
      rw [Run.bind_of_ok ho] at h
      exact hn a f h

end FaultsOnly

variable {F : Fault → Prop} {ctx : Context}

/-! ## Targets, conditions and entries -/

namespace Applicability

variable {α : Type} {test : α → Except Fault Applicability} {parts : List α}

theorem faultsOnly_allFrom (h : ∀ x ∈ parts, FaultsOnly F (test x)) (first : Option Status) :
    FaultsOnly F (allFrom test first parts) := by
  induction parts generalizing first with
  | nil => exact .ok _
  | cons x rest ih =>
      obtain ⟨hx, hr⟩ := List.forall_mem_cons.mp h
      rw [allFrom]
      split
      · exact .error (hx _ ‹_›)
      · exact ih hr first
      · exact .ok _
      · exact ih hr _

theorem faultsOnly_anyFrom (h : ∀ x ∈ parts, FaultsOnly F (test x)) (first : Option Status) :
    FaultsOnly F (anyFrom test first parts) := by
  induction parts generalizing first with
  | nil => exact .ok _
  | cons x rest ih =>
      obtain ⟨hx, hr⟩ := List.forall_mem_cons.mp h
      rw [anyFrom]
      split
      · exact .error (hx _ ‹_›)
      · exact .ok _
      · exact ih hr first
      · exact ih hr _

end Applicability

/-- Expressions made of standard functions come to well typed outcomes, and fault as `F` says. -/
def Context.Bears (ctx : Context) (F : Fault → Prop) : Prop :=
  ∀ e : Expression, e.IsStandard → Ends (Halt.ReportsOr F) Outcome.WellTyped (e.eval ctx)

/-- Applying a function to a literal and a value does not fault at all. -/
theorem Match.faultsOnly_holdsOf {m : Match} (hm : m.function.IsStandard) (env : Surroundings)
    (v : Value) : FaultsOnly F (m.holdsOf env v) := by
  intro f h
  rw [holdsOf] at h
  split at h
  · cases h
  · cases h
  · cases h
  · cases h
  · exact ((ends_apply hm env v).of_fault ‹_›).elim

theorem Match.faultsOnly_evaluate (hc : ctx.Bears F) {m : Match} (hf : m.function.IsStandard)
    (he : m.expression.IsStandard) : FaultsOnly F (m.evaluate ctx) := by
  rw [evaluate]
  split
  · exact Applicability.faultsOnly_anyFrom (fun v _ => faultsOnly_holdsOf hf _ v) none
  · exact .ok _
  · exact .error ((hc _ he).of_fault ‹_›)

theorem Target.IsStandard.faultsOnly (hc : ctx.Bears F) {t : Target} (ht : t.IsStandard) :
    FaultsOnly F (t.evaluate ctx) := by
  refine Applicability.faultsOnly_allFrom (fun y hy => ?_) none
  refine Applicability.faultsOnly_anyFrom (fun x hx => ?_) none
  refine Applicability.faultsOnly_allFrom (fun m hm => ?_) none
  obtain ⟨hf, he⟩ := ht m (List.mem_flatMap.mpr ⟨y, hy, List.mem_flatMap.mpr ⟨x, hx, hm⟩⟩)
  exact Match.faultsOnly_evaluate hc hf he

theorem Rule.faultsOnly_judge (hc : ctx.Bears F) {r : Rule}
    (hr : ∀ c, r.condition = some c → c.IsStandard) : FaultsOnly F (r.judge ctx) := by
  rw [judge]
  split
  · exact .ok _
  rename_i c hcond
  split
  · exact .ok _
  · exact .ok _
  · exact .ok _
  · exact .ok _
  · exact .error ((hc c (hr c hcond)).of_fault ‹_›)

theorem Result.faultsOnly_attach (hc : ctx.Bears F) {os as : List ObligationExpression}
    (ho : ∀ o ∈ os, o.IsStandard) (ha : ∀ o ∈ as, o.IsStandard) (r : Result) :
    FaultsOnly F (r.attach ctx os as) := by
  have hx : ∀ xs : List ObligationExpression, (∀ o ∈ xs, o.IsStandard) → ∀ e,
      Ends (Halt.ReportsOr F) (fun _ => True) (evalObligations ctx e xs) := fun xs hx e =>
    ends_evalObligations e fun o hm a ha => hc _ (hx o hm a ha)
  rw [attach]
  split
  · exact .ok _
  rename_i e _
  have hv : Ends (Halt.ReportsOr F) (fun _ => True) (do
      let os ← evalObligations ctx e os
      let as ← evalObligations ctx e as
      return (os, as)) :=
    (hx os ho e).bind fun _ _ => (hx as ha e).bind fun _ _ => True.intro
  dsimp only
  split
  · exact .ok _
  · exact .ok _
  · exact .error (hv.of_fault ‹_›)

/-! ## Methods -/

/-- Whatever an algorithm asks of a child, the child faults as `F` says. -/
structure Child.FaultsOnly (F : Fault → Prop) (c : Child) : Prop where
  target : Abac.FaultsOnly F (c.matchTarget ()).outcome
  result : Abac.FaultsOnly F (c.evaluate ()).outcome

/-- A combination faults as its children do. -/
def Method.Passes (F : Fault → Prop) (m : Method) : Prop :=
  ∀ children ps ctx, (∀ c ∈ children, c.FaultsOnly F) →
    FaultsOnly F (m.combine children ps ctx).outcome

theorem Survey.faultsOnly_run {σ : Type} (s : Survey σ) {children : List Child}
    (h : ∀ c ∈ children, c.FaultsOnly F) : FaultsOnly F (s.run children).outcome := by
  rw [run]
  generalize s.start = summary
  induction children generalizing summary with
  | nil => exact .ok _
  | cons c rest ih =>
      obtain ⟨hc, hr⟩ := List.forall_mem_cons.mp h
      refine hc.result.bind fun r => ?_
      cases s.react summary r with
      | settle r => exact .ok _
      | proceed next => exact ih hr next

theorem faultsOnly_onlyApplicableFrom {chosen : Option Child} {children : List Child}
    (hc : ∀ c, chosen = some c → c.FaultsOnly F) (h : ∀ c ∈ children, c.FaultsOnly F) :
    FaultsOnly F (onlyApplicableFrom chosen children).outcome := by
  induction children generalizing chosen with
  | nil =>
      cases chosen with
      | none => exact .ok _
      | some c => exact (hc c rfl).result
  | cons c rest ih =>
      obtain ⟨hx, hr⟩ := List.forall_mem_cons.mp h
      refine hx.target.bind fun a => ?_
      split
      · exact ih hc hr
      · exact .ok _
      · exact .ok _
      · exact ih (fun _ he => Option.some.inj he ▸ hx) hr

/-- **A built-in method adds no faults.** -/
theorem Method.passes_of_isStandard {m : Method} (hm : m.isStandard = true) : m.Passes F := by
  intro children ps ctx h
  cases m with
  | custom combine => cases hm
  | onlyOneApplicable => exact faultsOnly_onlyApplicableFrom (fun _ hc => nomatch hc) h
  | _ => exact Survey.faultsOnly_run _ h

/-! ## Trees -/

namespace Node

/-- Variables do not refer to themselves in a circle, neither in the context nor in the scope of any
node of the tree. -/
structure Acyclic (ctx : Context) (n : Node) : Prop where
  outside : ctx.definitions.Acyclic
  inside : ∀ m, n.Within m → Definitions.Acyclic (m.definitions ++ ctx.definitions)

variable {n : Node}

theorem Acyclic.scope (h : n.Acyclic ctx) : (n.scope ctx).definitions.Acyclic := by
  have hn := h.inside n .root
  cases n <;> exact hn

theorem Acyclic.part {c : Node} (h : n.Acyclic ctx) (hc : c ∈ n.parts) :
    c.Acyclic (n.scope ctx) := by
  refine ⟨h.scope, ?_⟩
  cases n with
  | rule r => cases hc
  | policySet s => exact fun m hm => h.inside m (within_iff.mpr (Or.inr ⟨c, hc, hm⟩))
  | policy p =>
      -- the parts of a policy are rules, which define nothing and have no parts
      obtain ⟨r, -, rfl⟩ := mem_parts_policy hc
      intro m hm
      rcases within_iff.mp hm with rfl | ⟨c, hc, -⟩
      · exact h.inside (policy p) .root
      · cases hc

/-- Without circles of variables, only lookups make standard expressions fault. -/
theorem bears_of_acyclic (hF : ∀ f, f.FromLookup → F f) (hd : ctx.IsStandard)
    (ha : ctx.definitions.Acyclic) : ctx.Bears F := fun _ he =>
  Expression.ends_eval_of_acyclic (Expression.sound_of_isStandard hF) hd ha he

/-- Checking and announcing add no faults. -/
theorem faultsOnly_reported {status : Status} {label : String} {t : Target}
    {answer : Applicability → Run Result} (ht : FaultsOnly F (t.evaluate ctx))
    (ha : ∀ a, FaultsOnly F (answer a).outcome) :
    FaultsOnly F (reported ctx status label t answer).outcome := by
  rw [reported]
  split
  · rw [← Target.outcome_check ctx label] at ht
    exact .bind ht fun a => .bind (ha a) fun r => .ok r
  · exact .ok _

theorem faultsOnly_of_rule (hc : ctx.Bears F) {r : Rule} (hn : (rule r).NamesStandard)
    (a : Applicability) : FaultsOnly F (r.answer ctx a).outcome := by
  have hat : ∀ judged : Result,
      FaultsOnly F (Run.lift (judged.attach ctx r.obligations r.advice)).outcome :=
    fun judged => Result.faultsOnly_attach hc (hn.entries .obligation) (hn.entries .advice) judged
  rw [Rule.answer]
  split
  · exact .bind (.ok _) hat
  · exact .bind (Rule.faultsOnly_judge hc hn.condition) hat

/-- A policy or policy set faults where it has no algorithm, and else as its parts do. -/
theorem faultsOnly_of_frame {f : Frame} (hf : n.frame? = some f) (hs : (n.scope ctx).Bears F)
    (hn : n.NamesStandard) (hl : ∀ label, F (.noAlgorithm label))
    (hm : ∀ a, n.algorithm? = some a → a.method.Passes F)
    (hp : ∀ c ∈ n.parts, (c.asChild (n.scope ctx) n.partParameters).FaultsOnly F)
    (a : Applicability) : FaultsOnly F (n.answer ctx a).outcome := by
  have ho : ∀ o ∈ f.obligations, o.IsStandard := obligations_of_frame hf ▸ hn.entries .obligation
  have ha : ∀ o ∈ f.advice, o.IsStandard := advice_of_frame hf ▸ hn.entries .advice
  rw [answer_of_frame hf, Frame.answer]
  split
  · exact .ok _
  rw [Frame.combine]
  split
  · exact .error (hl _)
  rename_i algorithm hal
  have hna : n.algorithm? = some algorithm := (algorithm?_of_frame hf).trans hal
  refine FaultsOnly.bind (hm _ hna _ _ _ (List.forall_mem_map.mpr hp)) fun combined => ?_
  exact .bind (Result.faultsOnly_attach hs ho ha combined) fun attached => .ok _

/-- **Every fault of a tree is one of its parts**: a missing algorithm, or a fault of lookups,
unless an algorithm that is not built in adds others. -/
theorem faultsOnly_evaluate (hF : ∀ f, f.FromLookup → F f) (hl : ∀ label, F (.noAlgorithm label))
    (hm : ∀ a, n.Uses a → a.method.Passes F) (hf : n.HasStandardFunctions) (hd : ctx.IsStandard)
    (ha : n.Acyclic ctx) : FaultsOnly F (n.evaluate ctx).outcome := by
  induction n using induct generalizing ctx with
  | h n ih =>
      have hn := hf n .root
      have hs := hn.scope hd
      have hc := bears_of_acyclic hF hd ha.outside
      have hb := bears_of_acyclic hF hs ha.scope
      have hp : ∀ c ∈ n.parts, (c.asChild (n.scope ctx) n.partParameters).FaultsOnly F :=
        fun c hc =>
          ⟨(hf c (.part .root hc)).target.faultsOnly hb,
            ih c hc ((forall_uses_iff.mp hm).2 c hc) (hf.part hc) hs (ha.part hc)⟩
      have hm := (forall_uses_iff.mp hm).1
      have hans : ∀ a, FaultsOnly F (n.answer ctx a).outcome := by
        cases n with
        | rule r => exact faultsOnly_of_rule hc hn
        | policy p => exact faultsOnly_of_frame rfl hb hn hl hm hp
        | policySet s => exact faultsOnly_of_frame rfl hb hn hl hm hp
      rw [evaluate_eq_reported]
      exact faultsOnly_reported (hn.target.faultsOnly hc) hans

end Node

/-! ## Bags -/

/-- The bags that can be made: empty ones, and those to which a value was added. -/
inductive Bag.Built : Bag → Prop where
  | empty (t : DataType) : Built (.empty t)
  | add {b c : Bag} {v : Value} : Built b → b.add v = .ok c → Built c

/-- The bags that can be made are the well typed ones. -/
theorem Bag.built_iff_wellTyped {b : Bag} : b.Built ↔ b.WellTyped := by
  constructor
  · intro h
    induction h with
    | empty t => exact wellTyped_empty t
    | add _ ha ih => exact ih.add ha
  · obtain ⟨t, vs⟩ := b
    intro h
    induction vs using List.reverseRecOn with
    | nil => exact .empty t
    | append_singleton vs v ih =>
        obtain ⟨hvs, hv⟩ := List.forall_mem_append.mp h
        have ha : Bag.add ⟨t, vs⟩ v = .ok ⟨t, vs ++ [v]⟩ :=
          if_pos (List.forall_mem_singleton.mp hv)
        exact .add (ih hvs) ha

/-! ## Safety -/

/-- **Evaluation does not crash.** A tree whose functions are standard and whose variables do not go
round in a circle comes to a result or to a fault that is no crash, in every context, unless a
method that is not built in brings in a crash of its own. Standard functions do not fault at all,
whatever the number and the types of their arguments, and come to what they declare. Every bag that
is made, be it by an expression, a function or by hand, is well typed. -/
theorem Node.evaluate_never_crashes :
    (∀ {n : Node} {ctx : Context}, n.HasStandardFunctions →
      (∀ a, n.Uses a → a.method.Passes fun f => ¬ f.IsCrash) → ctx.IsStandard → n.Acyclic ctx →
      FaultsOnly (fun f => ¬ f.IsCrash) (n.evaluate ctx).outcome) ∧
    (∀ m : Method, m.isStandard = true → m.Passes fun f => ¬ f.IsCrash) ∧
    (∀ (f : StandardFunction) (args : List Argument) (env : Surroundings),
      (∀ a ∈ args, a.Acceptable Function.IsStandard) →
      Ends Halt.Reports (Outcome.Fits f) ((Function.standard f).apply args env)) ∧
    (∀ {e : Expression} {ctx : Context}, e.IsStandard → ctx.IsStandard → ∀ o, e.eval ctx = .ok o →
      o.WellTyped) ∧
    ∀ b : Bag, b.Built ↔ b.WellTyped := by
  refine ⟨fun hf hm hd ha => ?trees, fun m hm => Method.passes_of_isStandard hm,
    fun f args env ha => (f.ends_apply ha).allow fun _ h => h.reports,
    fun he hd o ho => (he.ends_eval hd).of_ok ho, fun b => Bag.built_iff_wellTyped⟩
  case trees =>
    have hF : ∀ f : Fault, f.FromLookup → ¬ f.IsCrash := by
      rintro f ⟨message, rfl⟩
      exact id
    exact faultsOnly_evaluate hF (fun _ => id) hm hf hd ha

/-- A condition that leads through two variables to a source of attributes that fails. -/
theorem Node.evaluate_never_crashes_failed_lookup :
    let role : Designator := ⟨⟨"subject"⟩, ⟨"role"⟩, .string, none, true⟩
    let condition : Expression := .apply (.standard (.quantified .anyOf))
      [.function (.standard (.equal .string)), .literal (.string "a"), .variable "names"]
    let p : Policy :=
      { Policy.new ⟨"p"⟩ with
        algorithm := some ⟨⟨"deny-overrides"⟩, .overrides .deny⟩
        definitions := [⟨"names", .variable "roles"⟩, ⟨"roles", .designator role⟩]
        rules := [(Rule.new "r" .permit).withCondition condition] }
    let ctx : Context := { Context.bare with lookup := fun _ => .error "down" }
    (policy p).HasStandardFunctions ∧
      (∀ a, (policy p).Uses a → a.method.Passes fun f => ¬ f.IsCrash) ∧ ctx.IsStandard ∧
      (policy p).Acyclic ctx ∧ ((policy p).evaluate ctx).outcome = .error (.lookup "down") ∧
      ¬ (Fault.lookup "down").IsCrash := by
  intro role condition p ctx
  have hnt : Target.everything.IsStandard := fun _ hm => nomatch hm
  have hr : (rule ((Rule.new "r" .permit).withCondition condition)).HasStandardFunctions := by
    refine hasStandardFunctions_iff.mpr ⟨⟨hnt, ?_, List.forall_mem_nil _, fun k => ?_⟩, ?_⟩
    · rintro c ⟨⟩
      exact ⟨True.intro, True.intro, True.intro, True.intro, True.intro⟩
    · cases k <;> exact fun _ ho => nomatch ho
    · exact fun _ hc => nomatch hc
  have hf : (policy p).HasStandardFunctions := by
    refine hasStandardFunctions_iff.mpr ⟨⟨hnt, fun _ hc => (nomatch hc), ?_, fun k => ?_⟩, ?_⟩
    · exact List.forall_mem_cons.mpr ⟨True.intro, List.forall_mem_singleton.mpr True.intro⟩
    · cases k <;> exact fun _ ho => nomatch ho
    · exact List.forall_mem_singleton.mpr hr
  have hs : (policy p).IsStandard := isStandard_policy rfl rfl
  have hd : ctx.IsStandard := fun _ hd => nomatch hd
  have hm : ∀ a, (policy p).Uses a → a.method.Passes fun f => ¬ f.IsCrash := fun a ha =>
    Method.passes_of_isStandard (hs a ha)
  have hv : Definitions.Acyclic p.definitions := by
    -- the first variable refers to the second, which refers to none
    refine Definitions.acyclic_of_rank (fun id => if id = "names" then 1 else 0) fun a b hab => ?_
    obtain ⟨e, he, hb⟩ := hab
    obtain ⟨d, hd, rfl⟩ := Option.map_eq_some_iff.mp he
    have hi : d.id = a := by simpa using List.find?_some hd
    rcases List.mem_cons.mp (List.mem_of_find?_eq_some hd) with rfl | hd
    · obtain rfl := List.mem_singleton.mp hb
      rw [← hi]
      decide
    · obtain rfl := List.mem_singleton.mp hd
      cases hb
  have ha : (policy p).Acyclic ctx := by
    refine ⟨Definitions.acyclic_nil, fun m hw => ?_⟩
    rcases within_iff.mp hw with rfl | ⟨c, hc, hw⟩
    · exact hv
    · obtain rfl := List.mem_singleton.mp hc
      rcases within_iff.mp hw with rfl | ⟨_, hc, _⟩
      · exact Definitions.acyclic_nil
      · cases hc
  have ho : ((policy p).evaluate ctx).outcome = .error (.lookup "down") := rfl
  exact ⟨hf, hm, hd, ha, ho, Node.evaluate_never_crashes.1 hf hm hd ha _ ho⟩

end Abac
