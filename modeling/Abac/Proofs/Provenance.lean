import Abac.Proofs.Evaluation

/-!
# Where obligations and advice come from

Every obligation and every piece of advice in a final result was made by an
expression of some node in the tree, and it was handed up from that node through
nodes that all decided the same (`Lineage`).

`Node.origins` lists these expressions, contributors before the node itself. It
never looks at the result, only at which parts contribute. The theorem below
says that the entries of the result are the values of the listed expressions,
one for one and in this order: none is lost, none comes twice, and none comes
from anywhere else.
-/

namespace Abac

namespace Node

/-- The evaluation of a node ends in a decision. -/
def Decides (ctx : Context) (d : Decision) (n : Node) : Prop :=
  ∃ r, (n.evaluate ctx).outcome = .ok r ∧ r.decision = d

end Node

/-- A node, with the context it is evaluated in, and one that its decision comes from: itself, or
one that the decision of a contributor comes from. All nodes on the way decide the same. -/
inductive Lineage (d : Decision) : Context → Node → Context → Node → Prop where
  | self {ctx : Context} {n : Node} : n.Decides ctx d → Lineage d ctx n ctx n
  | part {ctx ctx' : Context} {n c m : Node} : n.Decides ctx d → c ∈ n.contributors ctx d →
      Lineage d (n.scope ctx) c ctx' m → Lineage d ctx n ctx' m

/-- An expression for an obligation or advice, where it stands. -/
structure Origin where
  /-- The context that the node is evaluated in. -/
  ctx : Context
  node : Node
  expression : ObligationExpression

/-- What the expression makes there. -/
def Origin.Yields (o : Origin) (entry : Obligation) : Prop :=
  o.expression.eval (o.node.scope o.ctx) = .ok entry

namespace Node

/-- The expressions of a node for an effect. -/
def ownOrigins (k : Attachment) (e : Effect) (ctx : Context) (n : Node) : List Origin :=
  ((k.expressions n).filter (·.effect = e)).map fun o => ⟨ctx, n, o⟩

/-- The expressions from which a node has its entries: those of its contributors, in their order,
and then its own. -/
def origins (k : Attachment) (e : Effect) (ctx : Context) (n : Node) : List Origin :=
  ((n.contributors ctx e.decision).attach.flatMap fun c => c.1.origins k e (n.scope ctx)) ++
    n.ownOrigins k e ctx
termination_by sizeOf n
decreasing_by exact sizeOf_lt_of_mem_parts (mem_parts_of_mem_contributors c.2)

theorem origins_eq (k : Attachment) (e : Effect) (ctx : Context) (n : Node) :
    n.origins k e ctx =
      (n.contributors ctx e.decision).flatMap (origins k e (n.scope ctx)) ++
        n.ownOrigins k e ctx := by
  rw [origins]
  simp

/-! ## Own entries -/

theorem forall₂_evalObligations {ctx : Context} {e : Effect} {xs : List ObligationExpression}
    {own : List Obligation} (h : evalObligations ctx e xs = .ok own) :
    List.Forall₂ (fun x entry => x.eval ctx = .ok entry) (xs.filter (·.effect = e)) own := by
  induction xs generalizing own with
  | nil =>
      obtain rfl := Except.ok.inj h
      exact .nil
  | cons x xs ih =>
      rw [evalObligations] at h
      split at h
      · rename_i hx
        rw [List.filter_cons_of_pos (by simpa using hx)]
        cases hv : x.eval ctx with
        | error halt => rw [hv] at h; cases h
        | ok here =>
            cases hr : evalObligations ctx e xs with
            | error halt => rw [hv, hr] at h; cases h
            | ok later =>
                rw [hv, hr] at h
                obtain rfl := Except.ok.inj h
                exact .cons hv (ih hr)
      · rename_i hx
        rw [List.filter_cons_of_neg (by simpa using hx)]
        exact ih h

theorem ownOrigins_yield {k : Attachment} {e : Effect} {ctx : Context} {n : Node}
    {own : List Obligation} (h : evalObligations (n.scope ctx) e (k.expressions n) = .ok own) :
    List.Forall₂ Origin.Yields (n.ownOrigins k e ctx) own :=
  List.forall₂_map_left_iff.mpr (forall₂_evalObligations h)

/-! ## Entries of the whole tree -/

theorem entries_yield {k : Attachment} {e : Effect} (n : Node) :
    ∀ {ctx : Context} {r : Result}, n.IsStandard → (n.evaluate ctx).outcome = .ok r →
      r.decision = e.decision →
        List.Forall₂ Origin.Yields (n.origins k e ctx) (k.entries.read r) := by
  induction n using induct with
  | h n ih =>
      intro ctx r hs h hr
      obtain ⟨rs, ha⟩ := exists_account hs.algorithm h hr
      obtain ⟨own, ho, he⟩ := ha.entries k
      rw [origins_eq, he]
      refine List.rel_append (related_flatMap ha.results ?_) (ownOrigins_yield ho)
      intro c hc s hcs
      obtain ⟨hv, hd⟩ := hcs
      have hp := mem_parts_of_mem_contributors hc
      exact ih c hp (hs.part hp) hv hd

theorem lineage_of_mem_origins {k : Attachment} {e : Effect} (n : Node) :
    ∀ {ctx : Context} {o : Origin}, n.IsStandard → n.Decides ctx e.decision →
      o ∈ n.origins k e ctx → o.expression ∈ k.expressions o.node ∧ o.expression.effect = e ∧
        Lineage e.decision ctx n o.ctx o.node := by
  induction n using induct with
  | h n ih =>
      intro ctx o hs hn ho
      obtain ⟨r, h, hr⟩ := hn
      obtain ⟨rs, ha⟩ := exists_account hs.algorithm h hr
      rw [origins_eq] at ho
      rcases List.mem_append.mp ho with ho | ho
      · -- below a contributor, one step further up
        obtain ⟨c, hc, hoc⟩ := List.mem_flatMap.mp ho
        have hp := mem_parts_of_mem_contributors hc
        obtain ⟨s, -, hv, hd⟩ := exists_related ha.results c hc
        obtain ⟨hx, he, hl⟩ := ih c hp (hs.part hp) ⟨s, hv, hd⟩ hoc
        exact ⟨hx, he, .part ⟨r, h, hr⟩ hc hl⟩
      · -- at the node itself
        obtain ⟨x, hx, rfl⟩ := List.mem_map.mp ho
        obtain ⟨hx, he⟩ := List.mem_filter.mp hx
        exact ⟨hx, of_decide_eq_true he, .self ⟨r, h, hr⟩⟩

/-- **Provenance of obligations and advice.** A final result carries what the contributors' results
carry and then the node's own entries. Over the whole tree these are what the origins yield, and
each origin is an expression for the effect, at a node from which the decision comes. -/
theorem entries_provenance {n : Node} (hs : n.IsStandard) {ctx : Context} {r : Result} {e : Effect}
    (h : (n.evaluate ctx).outcome = .ok r) (hr : r.decision = e.decision) :
    (∃ rs, n.Account ctx e r rs) ∧
      List.Forall₂ Origin.Yields (n.origins .obligation e ctx) r.obligations ∧
      List.Forall₂ Origin.Yields (n.origins .advice e ctx) r.advice ∧
      ∀ k, ∀ o ∈ n.origins k e ctx, o.expression ∈ k.expressions o.node ∧
        o.expression.effect = e ∧ Lineage e.decision ctx n o.ctx o.node :=
  ⟨exists_account hs.algorithm h hr, entries_yield (k := .obligation) n hs h hr,
    entries_yield (k := .advice) n hs h hr,
    fun _ _ ho => lineage_of_mem_origins n hs ⟨r, h, hr⟩ ho⟩

theorem entries_provenance_two_rules :
    let duty (id : String) (e : Effect) : ObligationExpression := ⟨⟨id⟩, e, []⟩
    let rule (id : String) : Rule :=
      { Rule.new id .permit with obligations := [duty id .permit, duty id .deny] }
    let p : Policy :=
      { Policy.new ⟨"p"⟩ with
        algorithm := some ⟨⟨"permit-unless-deny"⟩, .defaulting .deny⟩
        obligations := [duty "p" .permit]
        rules := [rule "first", rule "second"] }
    let s : PolicySet :=
      { PolicySet.new ⟨"s"⟩ with
        algorithm := some ⟨⟨"first-applicable"⟩, .firstApplicable⟩
        advice := [duty "s" .permit]
        children := [.policy p] }
    let ctx : Context := .bare
    let r : Result :=
      { Result.of .permit with
        obligations := [⟨⟨"first"⟩, []⟩, ⟨⟨"second"⟩, []⟩, ⟨⟨"p"⟩, []⟩]
        advice := [⟨⟨"s"⟩, []⟩] }
    (policySet s).IsStandard ∧ ((policySet s).evaluate ctx).outcome = .ok r ∧
      List.Forall₂ Origin.Yields ((policySet s).origins .obligation .permit ctx) r.obligations := by
  intro duty rule p s ctx r
  have hp : (Node.policy p).IsStandard := by
    refine forall_uses_iff.mpr ⟨?_, ?_⟩
    · intro a ha
      obtain rfl := Option.some.inj ha
      rfl
    · intro c hc a ha
      obtain ⟨r', -, rfl⟩ := mem_parts_policy hc
      exact absurd ha not_uses_rule
  have hs : (policySet s).IsStandard := by
    refine forall_uses_iff.mpr ⟨?_, ?_⟩
    · intro a ha
      obtain rfl := Option.some.inj ha
      rfl
    · intro c hc
      obtain rfl : c = .policy p := List.mem_singleton.mp hc
      exact hp
  have h : ((policySet s).evaluate ctx).outcome = .ok r := rfl
  exact ⟨hs, h, (entries_provenance hs h (e := .permit) rfl).2.1⟩

end Node

end Abac
