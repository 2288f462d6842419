import Abac.Proofs.Agreement
import Abac.Proofs.Grounds

/-!
# Attributes without influence

A tree reads a request by looking up the designators that occur in it, and by
whatever the functions and algorithms consult that are not built in. If these look
up nothing but some keys (`Reading.Confined`, `Method.Confined`), two contexts that
differ in other lookups alone are the same to the tree (`Node.evaluate_congr`).

A lookup in turn sees only the attributes of its category and name, whatever their
issuer, and asks the finders where these have no value of its type. So attributes
that no designator of the roots names can be dropped from a request or added to
it, and neither the result nor the recorded events change
(`Engine.decideTraced_eq_of_relevant`).
-/

namespace Abac

/-! ## Readings of a tree -/

/-- The designators and functions that occur in a policy or policy set outside its children. -/
def Frame.readings (f : Frame) : List Reading :=
  f.target.readings ++ f.obligations.flatMap ObligationExpression.readings ++
    f.advice.flatMap ObligationExpression.readings

/-- The designators and functions that occur in a rule. -/
def Rule.readings (r : Rule) : List Reading :=
  r.target.readings ++ r.condition.elim [] Expression.readings ++
    r.obligations.flatMap ObligationExpression.readings ++
    r.advice.flatMap ObligationExpression.readings

/-- The designators and functions that occur in a policy, in its rules and definitions as well. -/
def Policy.readings (p : Policy) : List Reading :=
  p.toFrame.readings ++ p.definitions.readings ++ p.rules.flatMap Rule.readings

mutual

/-- The designators and functions that occur in a policy or policy set, at any depth. -/
def PolicyNode.readings : PolicyNode → List Reading
  | .policy p => p.readings
  | .policySet s => s.readings

/-- The designators and functions that occur in a policy set, at any depth. -/
def PolicySet.readings : PolicySet → List Reading
  | ⟨f, children⟩ => f.readings ++ PolicyNode.readingsOfAll children

/-- The designators and functions that occur in policies and policy sets, at any depth. -/
def PolicyNode.readingsOfAll : List PolicyNode → List Reading
  | [] => []
  | n :: rest => n.readings ++ PolicyNode.readingsOfAll rest

end

theorem PolicySet.readings_eq (s : PolicySet) :
    s.readings = s.toFrame.readings ++ PolicyNode.readingsOfAll s.children := by
  cases s
  rfl

theorem PolicyNode.mem_readingsOfAll {ns : List PolicyNode} {x : Reading} :
    x ∈ PolicyNode.readingsOfAll ns ↔ ∃ n ∈ ns, x ∈ n.readings := by
  induction ns with
  | nil => simp [PolicyNode.readingsOfAll]
  | cons n rest ih => simp [PolicyNode.readingsOfAll, ih]

namespace Node

/-- The designators and functions that occur in a node, at any depth. -/
def readings : Node → List Reading
  | .rule r => r.readings
  | .policy p => p.readings
  | .policySet s => s.readings

/-- The designators and functions that occur in a node outside its parts. -/
def ownReadings (n : Node) : List Reading :=
  n.target.readings ++ n.obligations.flatMap ObligationExpression.readings ++
    n.advice.flatMap ObligationExpression.readings

theorem ownReadings_subset (n : Node) : n.ownReadings ⊆ n.readings := by
  intro x hx
  cases n with
  | rule r =>
      simp only [ownReadings, target, obligations, advice, List.mem_append] at hx
      simp only [readings, Rule.readings, List.mem_append]
      tauto
  | policy p => exact List.mem_append_left _ (List.mem_append_left _ hx)
  | policySet s =>
      rw [readings, PolicySet.readings_eq]
      exact List.mem_append_left _ hx

theorem readings_subset_of_mem_parts {n c : Node} (hc : c ∈ n.parts) :
    c.readings ⊆ n.readings := by
  intro x hx
  cases n with
  | rule r => cases hc
  | policy p =>
      obtain ⟨r, hr, rfl⟩ := mem_parts_policy hc
      exact List.mem_append_right _ (List.mem_flatMap.mpr ⟨r, hr, hx⟩)
  | policySet s =>
      obtain ⟨m, hm, rfl⟩ := mem_parts_policySet hc
      have hx : x ∈ m.readings := by cases m <;> exact hx
      rw [readings, PolicySet.readings_eq]
      exact List.mem_append_right _ (PolicyNode.mem_readingsOfAll.mpr ⟨m, hm, hx⟩)

end Node

/-! ## Nodes in two contexts -/

section

variable {ctx ctx' : Context}

theorem reported_congr (h : ctx.Agree ctx') (ht : ctx.tracing = ctx'.tracing) {t : Target}
    (hr : ∀ x ∈ t.readings, x.Same ctx ctx') {answer answer' : Applicability → Run Result}
    (ha : ∀ a, answer a = answer' a) (status : Status) (label : String) :
    reported ctx status label t answer = reported ctx' status label t answer' := by
  simp only [reported, Target.check, announce, Run.record, Target.evaluate_congr h hr, ht, ha]

namespace Node

variable {n : Node}

theorem toSurroundings_scope (ctx : Context) (n : Node) :
    (n.scope ctx).toSurroundings = ctx.toSurroundings := by
  cases n <;> rfl

/-- How the surroundings of two contexts are related does not change inside a node. -/
theorem scope_surroundings {R : Surroundings → Surroundings → Prop} (n : Node)
    (h : R ctx.toSurroundings ctx'.toSurroundings) :
    R (n.scope ctx).toSurroundings (n.scope ctx').toSurroundings := by
  rwa [toSurroundings_scope, toSurroundings_scope]

/-- What holds of all readings of a node holds of those outside its parts. -/
theorem forall_ownReadings {P : Reading → Prop} (hr : ∀ x ∈ n.readings, P x) :
    (∀ x ∈ n.target.readings, P x) ∧ (∀ o ∈ n.obligations, ∀ x ∈ o.readings, P x) ∧
      ∀ o ∈ n.advice, ∀ x ∈ o.readings, P x := by
  have hown := fun x hm => hr x (n.ownReadings_subset hm)
  simpa only [ownReadings, List.forall_mem_append, List.forall_mem_flatMap, and_assoc] using hown

theorem same_scope_iff {x : Reading} :
    x.Same (n.scope ctx) (n.scope ctx') ↔ x.Same ctx ctx' := by
  cases n with
  | policy p => exact Reading.same_within_iff
  | _ => exact Iff.rfl

theorem scope_agree (h : ctx.Agree ctx') (hr : ∀ x ∈ n.readings, x.Same ctx ctx') :
    (n.scope ctx).Agree (n.scope ctx') := by
  cases n with
  | policy p =>
      exact h.within fun x hm => hr x (List.mem_append_left _ (List.mem_append_right _ hm))
  | _ => exact h

/-- A node that is the same to two contexts looks the same to an algorithm. -/
theorem asChild_congr (h : ctx.Agree ctx') (hr : ∀ x ∈ n.readings, x.Same ctx ctx')
    (he : n.evaluate ctx = n.evaluate ctx') (ps : List TargetedParameter) :
    n.asChild ctx ps = n.asChild ctx' ps := by
  rw [asChild, asChild, Target.evaluate_congr h (forall_ownReadings hr).1, he]

end Node

theorem Rule.answer_congr (h : ctx.Agree ctx') {r : Rule} (hr : ∀ x ∈ r.readings, x.Same ctx ctx')
    (a : Applicability) : r.answer ctx a = r.answer ctx' a := by
  obtain ⟨-, ho, ha⟩ := Node.forall_ownReadings (n := .rule r) hr
  have hc : ∀ c, r.condition = some c → ∀ x ∈ c.readings, x.Same ctx ctx' := by
    intro c hc x hm
    refine hr x ?_
    rw [readings, hc]
    exact List.mem_append_left _ (List.mem_append_left _ (List.mem_append_right _ hm))
  have hat : ∀ q : Result, q.attach ctx r.obligations r.advice =
      q.attach ctx' r.obligations r.advice := Result.attach_congr h ho ha
  simp only [answer, judge_congr h hc, hat]

/-- The entries of a node are the same in both contexts. -/
theorem Node.attach_scope_congr (h : ctx.Agree ctx') {n : Node} {f : Frame}
    (hf : n.frame? = some f) (hr : ∀ x ∈ n.readings, x.Same ctx ctx') (q : Result) :
    q.attach (n.scope ctx) f.obligations f.advice =
      q.attach (n.scope ctx') f.obligations f.advice := by
  have hs : ∀ x ∈ n.readings, x.Same (n.scope ctx) (n.scope ctx') := fun x hx =>
    same_scope_iff.mpr (hr x hx)
  obtain ⟨-, ho, ha⟩ := forall_ownReadings hs
  rw [obligations_of_frame hf] at ho
  rw [advice_of_frame hf] at ha
  exact Result.attach_congr (scope_agree h hr) ho ha q

end

/-! ## What is consulted -/

/-- Two surroundings differ in nothing but lookups, and not in those of some keys. -/
structure Surroundings.Agree (K : LookupKey → Prop) (env env' : Surroundings) : Prop where
  lookup : ∀ k, K k → env.lookup k = env'.lookup k
  select : env.select = env'.select
  returnPolicyIds : env.returnPolicyIds = env'.returnPolicyIds
  tracing : env.tracing = env'.tracing
  patterns : env.patterns = env'.patterns

/-- Of lookups, a function consults no others than those of some keys. No standard function consults
any. -/
def Function.Confined (K : LookupKey → Prop) : Function → Prop
  | .standard _ => True
  | .extension e => ∀ env env', env.Agree K env' → ∀ args, e.apply args env = e.apply args env'

/-- A designator has one of some keys, or a function consults no others. -/
def Reading.Confined (K : LookupKey → Prop) : Reading → Prop
  | .designator d => K d.key
  | .function f => f.Confined K

/-- Of lookups, a method consults no others than those of some keys. No built-in method consults
any. -/
def Method.Confined (K : LookupKey → Prop) : Method → Prop
  | .custom combine => ∀ ctx ctx' : Context, ctx.toSurroundings.Agree K ctx'.toSurroundings →
      ctx.definitions = ctx'.definitions → ∀ children ps,
      combine children ps ctx = combine children ps ctx'
  | _ => True

theorem Method.confined_of_isStandard {K : LookupKey → Prop} {m : Method}
    (hm : m.isStandard = true) : m.Confined K := by
  cases m with
  | custom combine => cases hm
  | _ => exact True.intro

section

variable {K : LookupKey → Prop} {ctx ctx' : Context}
  (hk : ctx.toSurroundings.Agree K ctx'.toSurroundings)

include hk

theorem Reading.Confined.same {x : Reading} (hx : x.Confined K) : x.Same ctx ctx' := by
  match x, hx with
  | .designator d, hx => exact hk.lookup d.key hx
  | .function (.standard _), _ => exact hk.patterns
  | .function (.extension _), hx => exact hx _ _ hk

theorem Method.Confined.combine_eq {m : Method} (hm : m.Confined K)
    (hd : ctx.definitions = ctx'.definitions) (children : List Child) (ps : List Parameter) :
    m.combine children ps ctx = m.combine children ps ctx' := by
  cases m with
  | custom combine => exact hm ctx ctx' hk hd children ps
  | _ => rfl

namespace Node

theorem answer_congr (h : ctx.Agree ctx') {n : Node} (hr : ∀ x ∈ n.readings, x.Same ctx ctx')
    (hm : ∀ a, n.algorithm? = some a → a.method.Confined K)
    (hc : n.children ctx = n.children ctx') (a : Applicability) :
    n.answer ctx a = n.answer ctx' a := by
  cases hf : n.frame? with
  | none => cases n with
    | rule r => exact Rule.answer_congr h hr a
    | _ => cases hf
  | some f =>
      have hs := n.scope_surroundings hk
      have hcombine : f.combine (n.scope ctx) (n.children ctx) n.sign =
          f.combine (n.scope ctx') (n.children ctx') n.sign := by
        rw [Frame.combine, Frame.combine, hc]
        cases ha : f.algorithm with
        | none => rfl
        | some algorithm =>
            have hused : n.algorithm? = some algorithm := (algorithm?_of_frame hf).trans ha
            simp only [Algorithm.combine, attach_scope_congr h hf hr, hs.returnPolicyIds,
              (hm algorithm hused).combine_eq hs (scope_agree h hr).definitions]
      rw [answer_of_frame hf, answer_of_frame hf, Frame.answer, Frame.answer, hcombine]

/-- **Two contexts that differ in lookups alone are the same to a node**, if what it looks up is the
same in both, and its algorithms consult nothing else. -/
theorem evaluate_congr (h : ctx.Agree ctx') {n : Node} (hr : ∀ x ∈ n.readings, x.Same ctx ctx')
    (hm : ∀ a, n.Uses a → a.method.Confined K) : n.evaluate ctx = n.evaluate ctx' := by
  induction n using Node.induct generalizing ctx ctx' with
  | h n ih =>
      obtain ⟨hmn, hmp⟩ := forall_uses_iff.mp hm
      -- the parts are evaluated in the scope of the node, where the contexts agree as well
      have hs := n.scope_surroundings hk
      have hc : n.children ctx = n.children ctx' := by
        refine List.map_congr_left fun c hc => ?_
        have hcr : ∀ x ∈ c.readings, x.Same (n.scope ctx) (n.scope ctx') := fun x hx =>
          same_scope_iff.mpr (hr x (readings_subset_of_mem_parts hc hx))
        have hcs := scope_agree h hr
        exact asChild_congr hcs hcr (ih c hc hs hcs hcr (hmp c hc)) n.partParameters
      rw [evaluate_eq_reported, evaluate_eq_reported]
      exact reported_congr h hk.tracing (forall_ownReadings hr).1 (answer_congr hk h hr hmn hc) _ _

end Node

end

/-! ## Requests -/

/-- Equality of attributes. Equal values may be written differently. -/
def Attribute.equal (a b : Attribute) : Bool :=
  a.category == b.category && a.attributeId == b.attributeId && a.issuer == b.issuer &&
    a.values == b.values

/-- Whether an attribute has the category and the name that a designator looks up. -/
def Designator.names (d : Designator) (a : Attribute) : Bool :=
  a.category == d.category && a.attributeId == d.attributeId

/-- The designator of a reading, if it is one. -/
def Reading.designator? : Reading → Option Designator
  | .designator d => some d
  | .function _ => none

namespace Engine

/-- The designators and functions that occur in the roots, at any depth. -/
def readings (en : Engine) : List Reading := PolicyNode.readingsOfAll en.roots

/-- The designators that occur in the roots, at any depth. -/
def designators (en : Engine) : List Designator := en.readings.filterMap Reading.designator?

/-- The attributes of a request without those that no designator names. -/
def relevant (en : Engine) (r : Request) : List Attribute :=
  r.attributes.filter fun a => en.designators.any fun d => d.names a

/-- Some designator looks up the category and the name of a key. -/
def Names (en : Engine) (k : LookupKey) : Prop :=
  ∃ d ∈ en.designators, d.category = k.category ∧ d.attributeId = k.attributeId

/-- Of lookups, the functions that occur in the roots and the algorithms of the engine consult no
others than those of names that designators look up. No standard function and no built-in method
consults any. -/
structure Confined (en : Engine) : Prop where
  functions : ∀ f, .function f ∈ en.readings → f.Confined en.Names
  algorithms : ∀ a, en.Uses a → a.method.Confined en.Names

variable {en : Engine} {r r' : Request}

/-- What is looked up by a name that designators look up is relevant. -/
theorem matching_relevant {k : LookupKey} (hk : en.Names k) :
    (en.relevant r).filter (fun a => a.isFor k) = r.matching k := by
  obtain ⟨d, hd, hc, hi⟩ := hk
  rw [relevant, List.filter_filter, Request.matching]
  refine List.filter_congr fun a _ => ?_
  cases ha : a.isFor k with
  | false => rfl
  | true =>
      have hn : d.names a = true := by
        rw [Designator.names, hc, hi]
        exact (Bool.and_eq_true_iff.mp ha).1
      exact List.any_eq_true.mpr ⟨d, hd, hn⟩

/-- Requests with the same relevant attributes are answered alike where designators look up names.
-/
theorem lookup_eq_of_relevant (ha : en.relevant r = en.relevant r') (finders : List Finder)
    {k : LookupKey} (hk : en.Names k) : r.lookup finders k = r'.lookup finders k := by
  have hm : r.matching k = r'.matching k := by
    rw [← matching_relevant hk, ha, matching_relevant hk]
  rw [Request.lookup, Request.lookup, hm]

/-- The contexts of such requests differ in other lookups alone. -/
theorem surroundings_agree (hi : r.returnPolicyIds = r'.returnPolicyIds)
    (ha : en.relevant r = en.relevant r') :
    (en.context r).toSurroundings.Agree en.Names (en.context r').toSurroundings where
  lookup _ hk := lookup_eq_of_relevant ha en.finders hk
  select := rfl
  returnPolicyIds := congrArg (·.getD en.config.returnPolicyIds) hi
  tracing := rfl
  patterns := rfl

theorem Confined.readings (hen : en.Confined) : ∀ x ∈ en.readings, x.Confined en.Names := by
  intro x hx
  cases x with
  | designator d => exact ⟨d, List.mem_filterMap.mpr ⟨_, hx, rfl⟩, rfl, rfl⟩
  | function f => exact hen.functions f hx

/-- Contexts that differ in lookups alone are the same to an engine, if what it looks up is the same
in both. -/
theorem evaluateRoots_congr {K : LookupKey → Prop} {ctx ctx' : Context}
    (hk : ctx.toSurroundings.Agree K ctx'.toSurroundings) (h : ctx.Agree ctx')
    (hr : ∀ x ∈ en.readings, x.Same ctx ctx') (hm : ∀ a, en.Uses a → a.method.Confined K) :
    en.evaluateRoots ctx = en.evaluateRoots ctx' := by
  have hn : ∀ n ∈ en.roots, ∀ x ∈ (Node.ofPolicyNode n).readings, x.Same ctx ctx' := by
    intro n hm x hx
    exact hr x (PolicyNode.mem_readingsOfAll.mpr ⟨n, hm, by cases n <;> exact hx⟩)
  have he : ∀ n ∈ en.roots,
      (Node.ofPolicyNode n).evaluate ctx = (Node.ofPolicyNode n).evaluate ctx' := fun n hroot =>
    Node.evaluate_congr hk h (hn n hroot) fun a ha => hm a (Or.inr ⟨n, hroot, ha⟩)
  have hc : (en.roots.map Node.ofPolicyNode).map (Node.asChild ctx []) =
      (en.roots.map Node.ofPolicyNode).map (Node.asChild ctx' []) := by
    refine List.map_congr_left fun c hc => ?_
    obtain ⟨n, hroot, rfl⟩ := List.mem_map.mp hc
    exact Node.asChild_congr h (hn n hroot) (he n hroot) []
  match hroots : en.roots with
  | [] => rw [evaluateRoots, evaluateRoots, hroots]
  | [root] =>
      rw [evaluateRoots_single hroots, evaluateRoots_single hroots]
      exact he root (hroots ▸ List.mem_singleton_self root)
  | _ :: _ :: _ =>
      rw [evaluateRoots_several hroots, evaluateRoots_several hroots, hc]
      exact (hm _ (Or.inl rfl)).combine_eq hk h.definitions _ _

/-- **Attributes that no designator of the roots names have no influence**, unless a function or an
algorithm that is not built in looks them up: two requests that differ in nothing else are decided
alike, with the same events. -/
theorem decideTraced_eq_of_relevant (hen : en.Confined)
    (hi : r.returnPolicyIds = r'.returnPolicyIds) (ha : en.relevant r = en.relevant r') :
    en.decideTraced r = en.decideTraced r' := by
  have hk := surroundings_agree hi ha
  have h : (en.context r).Agree (en.context r') := ⟨rfl, rfl, fun _ hx => nomatch hx⟩
  have hr : ∀ x ∈ en.readings, x.Same (en.context r) (en.context r') := fun x hx =>
    (hen.readings x hx).same hk
  simp only [decideTraced, Engine.evaluate, evaluateRoots_congr hk h hr hen.algorithms]

/-- A condition asks for a role, which it looks up through a variable, and whether the registry
vouches for one, which an extension looks up. The age does not matter. -/
theorem decideTraced_eq_of_relevant_age :
    let role : Designator := ⟨⟨"subject"⟩, ⟨"role"⟩, .string, none, false⟩
    let vouched : LookupKey := ⟨⟨"subject"⟩, ⟨"role"⟩, .string, some "registry"⟩
    let isVouchedFor : Function := .extension ⟨⟨"is-vouched-for"⟩, some .boolean, false, none,
      .exactly 0, fun _ env => .ok (.bool (match env.lookup vouched with
        | .ok answer => !answer.attributes.isEmpty
        | .error _ => false))⟩
    let condition : Expression := .apply (.standard (.logical .and))
      [.apply (.standard (.bag .string .isIn)) [.literal (.string "doctor"), .variable "roles"],
        .apply isVouchedFor []]
    let p : Policy :=
      { Policy.new ⟨"p"⟩ with
        algorithm := some ⟨⟨"deny-overrides"⟩, .overrides .deny⟩
        definitions := [⟨"roles", .designator role⟩]
        rules := [(Rule.new "r" .permit).withCondition condition] }
    let en : Engine :=
      ⟨{ EngineConfig.default with traceEvaluation := true }, .standard, .standard,
        ⟨⟨"deny-overrides"⟩, .overrides .deny⟩, [.policy p], []⟩
    let doctor : Attribute := ⟨⟨"subject"⟩, ⟨"role"⟩, some "registry", [.string "doctor"]⟩
    let age : Attribute := ⟨⟨"subject"⟩, ⟨"age"⟩, none, [.integer 40]⟩
    en.Confined ∧ en.relevant ⟨[doctor], none⟩ = en.relevant ⟨[age, doctor], none⟩ ∧
      (en.decide ⟨[doctor], none⟩).decision = .permit ∧
      en.decideTraced ⟨[doctor], none⟩ = en.decideTraced ⟨[age, doctor], none⟩ := by
  intro role vouched isVouchedFor condition p en doctor age
  have hreadings : en.readings = [.designator role, .function (.standard (.logical .and)),
    .function (.standard (.bag .string .isIn)), .function isVouchedFor] := rfl
  have hvouched : en.Names vouched := ⟨role, List.mem_singleton_self role, rfl, rfl⟩
  have hen : en.Confined := by
    constructor
    · rw [hreadings]
      rintro f (_ | ⟨_, _ | ⟨_, _ | ⟨_, _ | ⟨_, ⟨⟩⟩⟩⟩⟩)
      · exact True.intro
      · exact True.intro
      · intro env env' h args
        simp only [h.lookup vouched hvouched]
    · rintro a (rfl | ⟨root, hroot, ha⟩)
      · exact True.intro
      · obtain rfl := List.mem_singleton.mp hroot
        exact Method.confined_of_isStandard (Node.isStandard_policy rfl rfl a ha)
  have hr : en.relevant ⟨[doctor], none⟩ = en.relevant ⟨[age, doctor], none⟩ := rfl
  exact ⟨hen, hr, rfl, decideTraced_eq_of_relevant hen rfl hr⟩

/-- A function or an algorithm that is not built in can decide by an age that no designator names.
And attributes that are equal are not the same yet: a pattern tells two texts of one mailbox apart.
-/
theorem decides_by_unnamed_attributes :
    let age : LookupKey := ⟨⟨"subject"⟩, ⟨"age"⟩, .integer, none⟩
    let hasAge (env : Surroundings) : Bool :=
      match env.lookup age with
      | .ok answer => !answer.attributes.isEmpty
      | .error _ => false
    let isOfAge : Function := .extension ⟨⟨"is-of-age"⟩, some .boolean, false, none, .exactly 0,
      fun _ env => .ok (.bool (hasAge env))⟩
    let ifOfAge : Algorithm := ⟨⟨"if-of-age"⟩, .custom fun _ _ ctx =>
      pure (.of (if hasAge ctx.toSurroundings then .permit else .deny))⟩
    let mail : Designator := ⟨⟨"subject"⟩, ⟨"mail"⟩, .rfc822Name, none, false⟩
    let isShouted : Expression := .apply (.standard (.patternMatch .rfc822Name))
      [.literal (.string "EXAMPLE"),
        .apply (.standard (.bag .rfc822Name .oneAndOnly)) [.designator mail]]
    let overrides : Algorithm := ⟨⟨"deny-overrides"⟩, .overrides .deny⟩
    let engine (a : Algorithm) (condition : Expression) : Engine :=
      let p : Policy :=
        { Policy.new ⟨"p"⟩ with
          algorithm := some a
          rules := [(Rule.new "r" .permit).withCondition condition] }
      ⟨.default, .standard, .standard, overrides, [.policy p], []⟩
    let byFunction : Engine := engine overrides (.apply isOfAge [])
    let byAlgorithm : Engine := engine ifOfAge (.literal (.boolean true))
    let byText : Engine := engine overrides isShouted
    let adult : Request := ⟨[⟨⟨"subject"⟩, ⟨"age"⟩, none, [.integer 40]⟩], none⟩
    let nobody : Request := ⟨[], none⟩
    let ann (domain : String) : Request :=
      ⟨[⟨⟨"subject"⟩, ⟨"mail"⟩, none, [.rfc822Name ⟨"ann".toList, domain.toList⟩]⟩], none⟩
    (byFunction.relevant adult = byFunction.relevant nobody ∧
        (byFunction.decide adult).decision = .permit ∧
        (byFunction.decide nobody).decision = .notApplicable) ∧
      (byAlgorithm.relevant adult = byAlgorithm.relevant nobody ∧
        (byAlgorithm.decide adult).decision = .permit ∧
        (byAlgorithm.decide nobody).decision = .deny) ∧
      List.Forall₂ (fun a b => a.equal b = true) (byText.relevant (ann "EXAMPLE.org"))
        (byText.relevant (ann "example.org")) ∧
      (byText.decide (ann "EXAMPLE.org")).decision = .permit ∧
      (byText.decide (ann "example.org")).decision = .notApplicable := by
  intro age hasAge isOfAge ifOfAge mail isShouted overrides engine byFunction byAlgorithm byText
    adult nobody ann
  exact ⟨⟨rfl, rfl, rfl⟩, ⟨rfl, rfl, rfl⟩, .cons (by decide) .nil, by rfl, by rfl⟩

end Engine

end Abac
