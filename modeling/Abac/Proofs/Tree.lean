import Abac.Policy.Node
import Abac.Proofs.Contribution

/-!
# Nodes as one tree

Rules, policies and policy sets are evaluated by three functions over three
types, because policies hold rules and policy sets hold the other two. Nothing
that is proved of a whole tree depends on this. Here each node has parts, and it
sees them through `Node.asChild`: a policy its rules, a policy set its policies
and policy sets, and a rule nothing.

A part is smaller than the node (`sizeOf_lt_of_mem_parts`), so functions and
proofs over trees recurse on parts.
-/

namespace Abac

namespace Node

/-- A policy or policy set as a node. -/
def ofPolicyNode : PolicyNode → Node
  | .policy p => .policy p
  | .policySet s => .policySet s

/-- The identifier that parameters name. -/
def name : Node → String
  | .rule r => r.id
  | .policy p => p.id.text
  | .policySet s => s.id.text

/-- The context that the parts, the obligations and the advice of a node see. -/
def scope (ctx : Context) : Node → Context
  | .policy p => ctx.within p.definitions
  | _ => ctx

/-- The nodes that a node combines, in their order. -/
def parts : Node → List Node
  | .rule _ => []
  | .policy p => (p.visible p.rules).map .rule
  | .policySet s => (s.visible s.children).map ofPolicyNode

/-- What a node has besides its parts; a rule has no frame. -/
def frame? : Node → Option Frame
  | .rule _ => none
  | .policy p => some p.toFrame
  | .policySet s => some s.toFrame

/-- How the results of the parts are combined. -/
def algorithm? (n : Node) : Option Algorithm := n.frame?.bind Frame.algorithm

/-- The parameters that concern some of the parts. -/
def partParameters (n : Node) : List TargetedParameter := n.frame?.elim [] Frame.childParameters

def obligations : Node → List ObligationExpression
  | .rule r => r.obligations
  | .policy p => p.obligations
  | .policySet s => s.obligations

def advice : Node → List ObligationExpression
  | .rule r => r.advice
  | .policy p => p.advice
  | .policySet s => s.advice

/-- The result with the node listed; rules are not listed. -/
def sign : Node → Result → Result
  | .rule _ => id
  | .policy p => p.sign
  | .policySet s => s.sign

@[simp] theorem decision_sign (n : Node) (r : Result) : (n.sign r).decision = r.decision := by
  cases n <;> rfl

/-- A node as the algorithm sees it. -/
def asChild (ctx : Context) (ps : List TargetedParameter) (n : Node) : Child where
  id := n.name
  parameters := parametersFor n.name ps
  matchTarget _ := Run.lift (n.target.evaluate ctx)
  evaluate _ := n.evaluate ctx

/-! ## Children are parts -/

theorem visible_map {α β : Type} (f : Frame) (g : α → β) (xs : List α) :
    f.visible (xs.map g) = (f.visible xs).map g := by
  rw [Frame.visible, Frame.visible]
  cases f.seen with
  | none => rfl
  | some n => exact List.map_take.symm

theorem visible_subset {α : Type} (f : Frame) (xs : List α) : f.visible xs ⊆ xs := by
  rw [Frame.visible]
  cases f.seen with
  | none => exact List.Subset.refl xs
  | some n => exact List.take_subset n xs

theorem children_policy (ctx : Context) (p : Policy) :
    p.children ctx = (policy p).parts.map (asChild ctx p.childParameters) := by
  rw [parts, List.map_map]
  rfl

theorem asChildren_eq (ctx : Context) (ps : List TargetedParameter) (ns : List PolicyNode) :
    PolicyNode.asChildren ctx ps ns = (ns.map ofPolicyNode).map (asChild ctx ps) := by
  induction ns with
  | nil => rfl
  | cons n ns ih =>
      rw [PolicyNode.asChildren, ih]
      cases n <;> rfl

theorem children_policySet (ctx : Context) (s : PolicySet) :
    s.visible (PolicyNode.asChildren ctx s.childParameters s.children) =
      (policySet s).parts.map (asChild ctx s.childParameters) := by
  rw [asChildren_eq, visible_map, visible_map]
  rfl

theorem algorithm?_of_frame {n : Node} {f : Frame} (h : n.frame? = some f) :
    n.algorithm? = f.algorithm := by
  rw [algorithm?, h]
  rfl

theorem obligations_of_frame {n : Node} {f : Frame} (h : n.frame? = some f) :
    n.obligations = f.obligations := by
  cases n <;> cases h <;> rfl

theorem advice_of_frame {n : Node} {f : Frame} (h : n.frame? = some f) :
    n.advice = f.advice := by
  cases n <;> cases h <;> rfl

theorem returnPolicyIds_scope (ctx : Context) (n : Node) :
    (n.scope ctx).returnPolicyIds = ctx.returnPolicyIds := by
  cases n <;> rfl

theorem tracing_scope (ctx : Context) (n : Node) : (n.scope ctx).tracing = ctx.tracing := by
  cases n <;> rfl

/-- Policies and policy sets are evaluated alike: they combine their parts. -/
theorem evaluate_of_frame {ctx : Context} {n : Node} {f : Frame} (h : n.frame? = some f) :
    n.evaluate ctx = f.evaluate ctx (n.scope ctx) n.validate
      (n.parts.map (asChild (n.scope ctx) n.partParameters)) n.sign := by
  cases n with
  | rule r => cases h
  | policy p =>
      obtain rfl := Option.some.inj h
      rw [evaluate, Policy.evaluate, children_policy]
      rfl
  | policySet s =>
      obtain rfl := Option.some.inj h
      -- the evaluation of a policy set recurses on its constructor
      obtain ⟨f, cs⟩ := s
      have hc := children_policySet ctx ⟨f, cs⟩
      rw [evaluate, PolicySet.evaluate]
      dsimp only at hc ⊢
      rw [hc]
      rfl

/-! ## Recursion on parts -/

theorem mem_parts_policy {p : Policy} {c : Node} (h : c ∈ (policy p).parts) :
    ∃ r ∈ p.rules, c = rule r := by
  obtain ⟨r, hr, rfl⟩ := List.mem_map.mp h
  exact ⟨r, visible_subset p.toFrame p.rules hr, rfl⟩

theorem mem_parts_policySet {s : PolicySet} {c : Node} (h : c ∈ (policySet s).parts) :
    ∃ n ∈ s.children, c = ofPolicyNode n := by
  obtain ⟨n, hn, rfl⟩ := List.mem_map.mp h
  exact ⟨n, visible_subset s.toFrame s.children hn, rfl⟩

theorem sizeOf_lt_of_mem_parts {n c : Node} (h : c ∈ n.parts) : sizeOf c < sizeOf n := by
  cases n with
  | rule r => cases h
  | policy p =>
      obtain ⟨r, hr, rfl⟩ := mem_parts_policy h
      have hl := List.sizeOf_lt_of_mem hr
      obtain ⟨f, ds, rs⟩ := p
      simp only [rule.sizeOf_spec, policy.sizeOf_spec, Policy.mk.sizeOf_spec] at hl ⊢
      omega
  | policySet s =>
      obtain ⟨n, hn, rfl⟩ := mem_parts_policySet h
      have hl := List.sizeOf_lt_of_mem hn
      obtain ⟨f, cs⟩ := s
      -- a child is wrapped as a policy node in the set and as a node here
      cases n with
      | policy p =>
          simp only [ofPolicyNode, policy.sizeOf_spec, policySet.sizeOf_spec,
            PolicySet.mk.sizeOf_spec, PolicyNode.policy.sizeOf_spec] at hl ⊢
          omega
      | policySet t =>
          simp only [ofPolicyNode, policySet.sizeOf_spec, PolicySet.mk.sizeOf_spec,
            PolicyNode.policySet.sizeOf_spec] at hl ⊢
          omega

/-- A property of all nodes follows for a node from its parts. -/
theorem induct {P : Node → Prop} (h : ∀ n, (∀ c ∈ n.parts, P c) → P n) (n : Node) : P n :=
  h n fun c _ => induct h c
termination_by sizeOf n
decreasing_by exact sizeOf_lt_of_mem_parts ‹_›

/-! ## Algorithms of a tree -/

/-- A node is in the tree of another. -/
inductive Within (root : Node) : Node → Prop where
  | root : Within root root
  | part {n c : Node} : Within root n → c ∈ n.parts → Within root c

/-- Some node of the tree combines its parts by the algorithm. -/
def Uses (n : Node) (a : Algorithm) : Prop := ∃ m, n.Within m ∧ m.algorithm? = some a

/-- Whether all algorithms of the tree are built in. -/
def IsStandard (n : Node) : Prop := ∀ a, n.Uses a → a.method.isStandard = true

theorem within_iff {n m : Node} : n.Within m ↔ m = n ∨ ∃ c ∈ n.parts, c.Within m := by
  constructor
  · intro h
    induction h with
    | root => exact Or.inl rfl
    | @part m c _ hc ih =>
        rcases ih with rfl | ⟨c', hc', hm⟩
        · exact Or.inr ⟨c, hc, .root⟩
        · exact Or.inr ⟨c', hc', .part hm hc⟩
  · intro h
    rcases h with rfl | ⟨c, hc, h⟩
    · exact .root
    · induction h with
      | root => exact .part .root hc
      | part _ hm ih => exact .part ih hm

/-- What holds of all algorithms of a tree holds of the node's own and of those of its parts. -/
theorem forall_uses_iff {n : Node} {P : Algorithm → Prop} :
    (∀ a, n.Uses a → P a) ↔
      (∀ a, n.algorithm? = some a → P a) ∧ ∀ c ∈ n.parts, ∀ a, c.Uses a → P a := by
  constructor
  · intro h
    refine ⟨fun a ha => h a ⟨n, .root, ha⟩, fun c hc a ⟨m, hm, ha⟩ => h a ⟨m, ?_, ha⟩⟩
    exact within_iff.mpr (Or.inr ⟨c, hc, hm⟩)
  · intro h a ha
    obtain ⟨hn, hp⟩ := h
    obtain ⟨m, hm, ha⟩ := ha
    rcases within_iff.mp hm with rfl | ⟨c, hc, hm⟩
    · exact hn a ha
    · exact hp c hc a ⟨m, hm, ha⟩

/-- A rule combines nothing. -/
theorem not_uses_rule {r : Rule} {a : Algorithm} : ¬ (rule r).Uses a := by
  intro h
  obtain ⟨m, hm, ha⟩ := h
  rcases within_iff.mp hm with rfl | ⟨c, hc, -⟩
  · cases ha
  · cases hc

theorem IsStandard.algorithm {n : Node} (h : n.IsStandard) :
    ∀ a, n.algorithm? = some a → a.method.isStandard = true :=
  (forall_uses_iff.mp h).1

theorem IsStandard.part {n c : Node} (h : n.IsStandard) (hc : c ∈ n.parts) : c.IsStandard :=
  (forall_uses_iff.mp h).2 c hc

theorem isStandard_rule (r : Rule) : (rule r).IsStandard := fun _ ha => absurd ha not_uses_rule

theorem isStandard_policy {p : Policy} {a : Algorithm} (h : p.algorithm = some a)
    (ha : a.method.isStandard = true) : (policy p).IsStandard := by
  refine forall_uses_iff.mpr ⟨fun b hb => ?_, fun c hc => ?_⟩
  · exact Option.some.inj (h.symm.trans hb) ▸ ha
  · obtain ⟨r, -, rfl⟩ := mem_parts_policy hc
    exact isStandard_rule r

theorem isStandard_policySet {s : PolicySet} {a : Algorithm} (h : s.algorithm = some a)
    (ha : a.method.isStandard = true) (hc : ∀ c ∈ s.children, (ofPolicyNode c).IsStandard) :
    (policySet s).IsStandard := by
  refine forall_uses_iff.mpr ⟨fun b hb => ?_, fun c hp => ?_⟩
  · exact Option.some.inj (h.symm.trans hb) ▸ ha
  · obtain ⟨m, hm, rfl⟩ := mem_parts_policySet hp
    exact hc m hm

/-! ## Contributors -/

/-- The parts from which a node has its final decision. -/
def contributors (ctx : Context) (d : Decision) (n : Node) : List Node :=
  match n.algorithm? with
  | none => []
  | some a => a.method.contributors (asChild (n.scope ctx) n.partParameters) d n.parts

theorem contributors_sublist (ctx : Context) (d : Decision) (n : Node) :
    (n.contributors ctx d).Sublist n.parts := by
  rw [contributors]
  split
  · exact List.nil_sublist n.parts
  · exact Method.contributors_sublist _ _ _ _

theorem mem_parts_of_mem_contributors {ctx : Context} {d : Decision} {n c : Node}
    (h : c ∈ n.contributors ctx d) : c ∈ n.parts :=
  (contributors_sublist ctx d n).subset h

end Node

end Abac
