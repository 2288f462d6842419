import Abac.Proofs.Combination
import Abac.Proofs.Provenance

/-!
# Which policies a result lists

Where identifiers are wanted, a final result lists the policies and policy sets
that its decision comes from. These are the deciders of the evaluated node
(`Node.deciders`): the deciders of its contributors, one contributor after the
other, and then the node itself. They are some of the nodes of the tree in
postorder, so that each comes after those below it.

An undecided result should list nothing, and mostly does. But a node that has
combined its parts and then fails over an obligation of its own drops what it
carries only in part: the identifiers stay (`Node.Spoils`). Where no node of the
tree does so, there are none.
-/

namespace Abac

/-! ## The two lists -/

/-- The two lists of identifiers in a result. -/
inductive Listing where
  | policies
  | policySets
  deriving DecidableEq, Repr

namespace Listing

/-- What a result has listed. -/
def entries : Listing → Carried PolicyReference
  | .policies => .policies
  | .policySets => .policySets

/-- The entry of a node, if it is one that the list is for. -/
def reference? : Listing → Node → Option PolicyReference
  | .policies, .policy p => some p.reference
  | .policySets, .policySet s => some s.reference
  | _, _ => none

theorem read_sign (k : Listing) (n : Node) (r : Result) :
    k.entries.read (n.sign r) = k.entries.read r ++ (k.reference? n).toList := by
  cases k <;> cases n <;> first | rfl | exact (List.append_nil _).symm

/-- Entries attached to a result list nothing. -/
theorem read_attached (k : Listing) (r : Result) (os as : List Obligation) :
    k.entries.read { r with obligations := r.obligations ++ os, advice := r.advice ++ as } =
      k.entries.read r := by
  cases k <;> rfl

theorem read_fail (k : Listing) (r : Result) (d : Decision) (s : Status) :
    k.entries.read (r.fail d s) = k.entries.read r := by
  cases k <;> rfl

end Listing

/-! ## Deciders -/

namespace Node

/-- The nodes of a tree with the contexts they are evaluated in, each after those below it. -/
def postorder (ctx : Context) (n : Node) : List (Context × Node) :=
  (n.parts.attach.flatMap fun c => c.1.postorder (n.scope ctx)) ++ [(ctx, n)]
termination_by sizeOf n
decreasing_by exact sizeOf_lt_of_mem_parts c.2

theorem postorder_eq (ctx : Context) (n : Node) :
    n.postorder ctx = n.parts.flatMap (postorder (n.scope ctx)) ++ [(ctx, n)] := by
  rw [postorder]
  simp

/-- The nodes that a final decision comes from: those that the contributors' decisions come from, in
their order, and then the node itself. -/
def deciders (e : Effect) (ctx : Context) (n : Node) : List (Context × Node) :=
  ((n.contributors ctx e.decision).attach.flatMap fun c => c.1.deciders e (n.scope ctx)) ++
    [(ctx, n)]
termination_by sizeOf n
decreasing_by exact sizeOf_lt_of_mem_parts (mem_parts_of_mem_contributors c.2)

theorem deciders_eq (e : Effect) (ctx : Context) (n : Node) :
    n.deciders e ctx =
      (n.contributors ctx e.decision).flatMap (deciders e (n.scope ctx)) ++ [(ctx, n)] := by
  rw [deciders]
  simp

end Node

theorem sublist_flatMap {α β : Type} {as bs : List α} {f g : α → List β} (h : as.Sublist bs)
    (hfg : ∀ a ∈ as, (f a).Sublist (g a)) : (as.flatMap f).Sublist (bs.flatMap g) := by
  induction h with
  | slnil => exact .slnil
  | cons a _ ih => exact (ih hfg).trans (List.sublist_append_right _ _)
  | cons_cons a _ ih =>
      obtain ⟨ha, hr⟩ := List.forall_mem_cons.mp hfg
      exact ha.append (ih hr)

namespace Node

theorem deciders_sublist (e : Effect) (ctx : Context) (n : Node) :
    (n.deciders e ctx).Sublist (n.postorder ctx) := by
  induction n using induct generalizing ctx with
  | h n ih =>
      rw [deciders_eq, postorder_eq]
      refine (sublist_flatMap (contributors_sublist ctx e.decision n) fun c hc => ?_).append
        (List.Sublist.refl _)
      exact ih c (mem_parts_of_mem_contributors hc) (n.scope ctx)

theorem within_of_mem_postorder {ctx : Context} {n : Node} {d : Context × Node}
    (h : d ∈ n.postorder ctx) : n.Within d.2 := by
  induction n using induct generalizing ctx with
  | h n ih =>
      rw [postorder_eq] at h
      rcases List.mem_append.mp h with h | h
      · obtain ⟨c, hc, hd⟩ := List.mem_flatMap.mp h
        exact within_iff.mpr (Or.inr ⟨c, hc, ih c hc hd⟩)
      · rw [List.mem_singleton.mp h]
        exact .root

/-- The decision of the node comes from each decider. -/
theorem lineage_of_mem_deciders {e : Effect} {ctx : Context} {n : Node} {d : Context × Node}
    (hs : n.IsStandard) (hn : n.Decides ctx e.decision) (hd : d ∈ n.deciders e ctx) :
    Lineage e.decision ctx n d.1 d.2 := by
  induction n using induct generalizing ctx with
  | h n ih =>
      obtain ⟨r, h, hr⟩ := hn
      obtain ⟨rs, ha⟩ := exists_account hs.algorithm h hr
      rw [deciders_eq] at hd
      rcases List.mem_append.mp hd with hd | hd
      · obtain ⟨c, hc, hd⟩ := List.mem_flatMap.mp hd
        have hp := mem_parts_of_mem_contributors hc
        obtain ⟨s, -, hv, hsd⟩ := exists_related ha.results c hc
        exact .part ⟨r, h, hr⟩ hc (ih c hp (hs.part hp) ⟨s, hv, hsd⟩ hd)
      · rw [List.mem_singleton.mp hd]
        exact .self ⟨r, h, hr⟩

end Node

theorem Lineage.decides {d : Decision} {ctx ctx' : Context} {n m : Node}
    (h : Lineage d ctx n ctx' m) : m.Decides ctx' d := by
  induction h with
  | self hd => exact hd
  | part _ _ _ ih => exact ih

namespace Node

/-! ## What a final result lists -/

theorem listed_eq {k : Listing} {e : Effect} {ctx : Context} {n : Node} (hs : n.IsStandard)
    (hi : ctx.returnPolicyIds = true) {r : Result} (h : (n.evaluate ctx).outcome = .ok r)
    (hr : r.decision = e.decision) :
    k.entries.read r = (n.deciders e ctx).filterMap fun d => k.reference? d.2 := by
  induction n using induct generalizing ctx r with
  | h n ih =>
      obtain ⟨rs, q, os, as, hg, hq, hrq, ha⟩ := gathers_of_final hs.algorithm h hr
      have hf : q.decision.isFinal = true := hq ▸ e.isFinal_decision
      have hsg : k.entries.read r = k.entries.read q ++ (k.reference? n).toList := by
        rw [hrq, signed_of_final ?_ hi, k.read_sign, k.read_attached]
        exact hf
      -- the contributors' lists stand one after the other, in the order of the parts
      have hrs : ((n.contributors ctx e.decision).flatMap fun c =>
          (c.deciders e (n.scope ctx)).filterMap fun d => k.reference? d.2) =
          rs.flatMap k.entries.read := by
        rw [← List.forall₂_eq_eq_eq]
        refine related_flatMap ha.results fun c hc s hcs => ?_
        obtain ⟨hv, hd⟩ := hcs
        have hp := mem_parts_of_mem_contributors hc
        rw [ih c hp (hs.part hp) ((returnPolicyIds_scope ctx n).trans hi) hv hd]
        exact List.forall₂_refl _
      rw [hsg, hg.carried, ← hrs, deciders_eq, List.filterMap_append, List.filterMap_flatMap]
      cases h : k.reference? n <;> simp [h]

/-! ## What an undecided result lists -/

/-- The own entries of a node fail after its parts have come to a result that lists something. -/
def Spoils (ctx : Context) (n : Node) : Prop :=
  ∃ (q r : Result) (k : Listing), n.Judges ctx q ∧
    q.Attached (n.scope ctx) n.obligations n.advice r ∧ q.decision.isFinal = true ∧
    r.decision.isFinal = false ∧ k.entries.read q ≠ []

/-- A rule judges without listing anything. -/
theorem read_judge {k : Listing} {ctx : Context} {r : Rule} {q : Result}
    (h : r.judge ctx = .ok q) : k.entries.read q = [] := by
  rw [Rule.judge] at h
  split at h
  · exact Except.ok.inj h ▸ k.entries.read_withStatus _ _
  split at h
  · exact Except.ok.inj h ▸ k.entries.read_withStatus _ _
  · exact Except.ok.inj h ▸ k.entries.read_withStatus _ _
  · exact Except.ok.inj h ▸ k.entries.read_withStatus _ _
  · exact Except.ok.inj h ▸ k.entries.read_withStatus _ _
  · cases h

theorem read_eq_nil {k : Listing} {ctx : Context} {n : Node} (hs : n.IsStandard) {r : Result}
    (h : (n.evaluate ctx).outcome = .ok r) (hr : r.decision.isFinal = false)
    (hn : ∀ d ∈ n.postorder ctx, ¬ d.2.Spoils d.1) : k.entries.read r = [] := by
  induction n using induct generalizing ctx r with
  | h n ih =>
      rw [postorder_eq, List.forall_mem_append] at hn
      obtain ⟨hp, hn⟩ := hn
      cases ended h with
      | invalid => exact k.entries.read_withStatus _ _
      | @early a _ _ he =>
          cases a with
          | matched => cases he
          | unmatched => exact Option.some.inj he ▸ k.entries.read_withStatus _ _
          | unclear s => exact Option.some.inj he ▸ k.entries.read_withStatus _ _
      | @decided q attached _ _ hj hat =>
          rw [decision_signed] at hr
          rw [signed_of_not_final hr]
          -- what stays after a failure was listed before it
          have hq : k.entries.read attached = k.entries.read q := by
            cases hat with
            | skipped => rfl
            | added => exact k.read_attached q _ _
            | failed => exact k.read_fail q _ _
          rw [hq]
          by_cases hf : q.decision.isFinal = true
          -- the node has lost a final decision, and spoils if anything was listed with it
          · exact by_contra fun he =>
              List.forall_mem_singleton.mp hn ⟨q, attached, k, hj, hat, hf, hr, he⟩
          cases hj with
          | rule hj => exact read_judge hj
          | combined _ ha hc =>
              refine (Method.combined (hs.algorithm _ ha) hc).read_eq_nil (fun x hx hxf => ?_)
                (Bool.eq_false_iff.mpr hf)
              obtain ⟨_, hm, hx⟩ := hx
              obtain ⟨c, hc, rfl⟩ := List.mem_map.mp hm
              exact ih c hc (hs.part hc) hx hxf fun d hd => hp d (List.mem_flatMap.mpr ⟨c, hc, hd⟩)

/-! ## Both -/

/-- **What a result lists.** A final result lists the deciders, which decided the same in the tree
and stand in postorder with the node itself last. Any other result lists nothing, unless the own
entries of some node failed after its parts had come to a result that lists something. -/
theorem listed_identifiers {n : Node} (hs : n.IsStandard) {ctx : Context}
    (hi : ctx.returnPolicyIds = true) {r : Result} (h : (n.evaluate ctx).outcome = .ok r) :
    (r.decision.isFinal = false → (∀ d ∈ n.postorder ctx, ¬ d.2.Spoils d.1) →
      r.policies = [] ∧ r.policySets = []) ∧
    ∀ e : Effect, r.decision = e.decision →
      r.policies = (n.deciders e ctx).filterMap (fun d => Listing.policies.reference? d.2) ∧
      r.policySets = (n.deciders e ctx).filterMap (fun d => Listing.policySets.reference? d.2) ∧
      (n.deciders e ctx).Sublist (n.postorder ctx) ∧
      (n.deciders e ctx).getLast? = some (ctx, n) ∧
      ∀ d ∈ n.deciders e ctx,
        n.Within d.2 ∧ d.2.Decides d.1 e.decision ∧ Lineage e.decision ctx n d.1 d.2 := by
  refine ⟨fun hr hn => ?_, fun e hr => ?_⟩
  · exact ⟨read_eq_nil (k := .policies) hs h hr hn, read_eq_nil (k := .policySets) hs h hr hn⟩
  · have hl : (n.deciders e ctx).getLast? = some (ctx, n) := by
      rw [deciders_eq, List.getLast?_append]
      rfl
    refine ⟨listed_eq (k := .policies) hs hi h hr, listed_eq (k := .policySets) hs hi h hr,
      deciders_sublist e ctx n, hl, fun d hd => ?_⟩
    have hd' := lineage_of_mem_deciders hs ⟨r, h, hr⟩ hd
    exact ⟨within_of_mem_postorder ((deciders_sublist e ctx n).subset hd), hd'.decides, hd'⟩

theorem listed_identifiers_two_policies :
    let p (id : String) : Policy :=
      { Policy.new ⟨id⟩ with
        algorithm := some ⟨⟨"permit-overrides"⟩, .overrides .permit⟩
        rules := [Rule.new "r" .permit] }
    let s : PolicySet :=
      { PolicySet.new ⟨"s"⟩ with
        algorithm := some ⟨⟨"deny-overrides"⟩, .overrides .deny⟩
        children := [.policy (p "first"), .policy (p "second")] }
    let ctx : Context := { Context.bare with returnPolicyIds := true }
    let r : Result :=
      { Result.of .permit with
        policies := [(p "first").reference, (p "second").reference]
        policySets := [s.reference] }
    (policySet s).IsStandard ∧ ctx.returnPolicyIds = true ∧
      ((policySet s).evaluate ctx).outcome = .ok r ∧
      r.policies = ((policySet s).deciders .permit ctx).filterMap
        fun d => Listing.policies.reference? d.2 := by
  intro p s ctx r
  have hp : ∀ id, (policy (p id)).IsStandard := fun _ => isStandard_policy rfl rfl
  have hs : (policySet s).IsStandard := by
    refine isStandard_policySet rfl rfl (List.forall_mem_cons.mpr ⟨hp "first", ?_⟩)
    exact List.forall_mem_singleton.mpr (hp "second")
  have h : ((policySet s).evaluate ctx).outcome = .ok r := rfl
  exact ⟨hs, rfl, h, ((listed_identifiers hs rfl h).2 .permit rfl).1⟩

/-- A policy set whose own obligation fails is undecided, and goes on listing the policy that had
permitted. -/
theorem listed_after_failure :
    let role : Designator := ⟨⟨"subject"⟩, ⟨"role"⟩, .string, none, true⟩
    let duty : ObligationExpression := ⟨⟨"log"⟩, .permit, [⟨⟨"who"⟩, none, none, .designator role⟩]⟩
    let p : Policy :=
      { Policy.new ⟨"p"⟩ with
        algorithm := some ⟨⟨"permit-overrides"⟩, .overrides .permit⟩
        rules := [Rule.new "r" .permit] }
    let s : PolicySet :=
      { PolicySet.new ⟨"s"⟩ with
        algorithm := some ⟨⟨"first-applicable"⟩, .firstApplicable⟩
        obligations := [duty]
        children := [.policy p] }
    let ctx : Context := { Context.bare with returnPolicyIds := true }
    (policySet s).IsStandard ∧ ctx.returnPolicyIds = true ∧
      ((policySet s).evaluate ctx).outcome =
        .ok { Result.withStatus .indeterminatePermit role.missing with
          policies := [p.reference] } := by
  intro role duty p s ctx
  have hs : (policySet s).IsStandard :=
    isStandard_policySet rfl rfl (List.forall_mem_singleton.mpr (isStandard_policy rfl rfl))
  exact ⟨hs, rfl, rfl⟩

end Node

end Abac
