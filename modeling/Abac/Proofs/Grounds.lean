import Abac.Engine
import Abac.Proofs.Provenance

/-!
# What a decision rests on

An engine does not permit or deny out of thin air. Following the contributors of
a final decision down the tree ends at a node that has none, and such a node is a
rule that fires, unless its algorithm may come to the effect without any child
that decides it.

Few algorithms may. Permit-unless-deny starts from a permit, and
deny-unless-permit from a deny; the earlier deny-overrides of policies denies
when a child is undecided. Without them in the trees, a permit rests on a rule
that permits, and a deny on one that denies.
-/

namespace Abac

namespace Algorithms

/-- All algorithms that an engine has from the start. -/
def builtIn : List Algorithm := standard.rules.entries ++ standard.policies.entries

end Algorithms

namespace Method

/-- Only permit-unless-deny presumes a permit. -/
theorem not_presumes_permit {m : Method} (h : m ≠ .defaulting .deny) :
    m.presumes .permit = false := by
  cases m with
  | defaulting e =>
      cases e with
      | permit => rfl
      | deny => exact absurd rfl h
  | _ => rfl

example : (Algorithms.builtIn.filter fun a => a.method.presumes .permit).map Algorithm.id =
    [.ruleAlgorithm "3.0" "permit-unless-deny", .policyAlgorithm "3.0" "permit-unless-deny"] := rfl

/-- Only deny-unless-permit and the earlier deny-overrides of policies presume a deny. -/
theorem not_presumes_deny {m : Method} (h : m ≠ .defaulting .permit)
    (hp : m ≠ .earlierDenyOverrides) : m.presumes .deny = false := by
  cases m with
  | defaulting e =>
      cases e with
      | permit => exact absurd rfl h
      | deny => rfl
  | earlierDenyOverrides => exact absurd rfl hp
  | _ => rfl

example : (Algorithms.builtIn.filter fun a => a.method.presumes .deny).map Algorithm.id =
    [.ruleAlgorithm "3.0" "deny-unless-permit", .policyAlgorithm "3.0" "deny-unless-permit",
      .policyAlgorithm "1.0" "deny-overrides", .policyAlgorithm "1.1" "ordered-deny-overrides"] :=
  rfl

end Method

/-! ## Below a node -/

namespace Node

/-- The decision of a node comes from a rule that fires. -/
def RestsOnRule (ctx : Context) (e : Effect) (n : Node) : Prop :=
  ∃ ctx' r, Lineage e.decision ctx n ctx' (.rule r) ∧ r.effect = e ∧ r.Fires ctx'

theorem restsOnRule_of_decides {e : Effect} (n : Node) :
    ∀ {ctx : Context}, n.IsStandard → (∀ a, n.Uses a → a.method.presumes e = false) →
      n.Decides ctx e.decision → n.RestsOnRule ctx e := by
  induction n using induct with
  | h n ih =>
      intro ctx hs hp hn
      obtain ⟨r, h, hr⟩ := hn
      obtain ⟨rs, ha⟩ := exists_account hs.algorithm h hr
      -- the descent ends here if the node has no contributor, and else goes on below one
      cases rs with
      | nil =>
          rcases ha.originates rfl with ⟨rule, rfl, he, hf⟩ | ⟨a, hna, hpa⟩
          · exact ⟨ctx, rule, .self ⟨r, h, hr⟩, he, hf⟩
          · rw [(forall_uses_iff.mp hp).1 a hna] at hpa
            cases hpa
      | cons s rs =>
          obtain ⟨c, hc, hv, hd⟩ := exists_related ha.results.flip s List.mem_cons_self
          have hcp := mem_parts_of_mem_contributors hc
          have hpc := (forall_uses_iff.mp hp).2 c hcp
          obtain ⟨ctx', rule, hl, hrule⟩ := ih c hcp (hs.part hcp) hpc ⟨s, hv, hd⟩
          exact ⟨ctx', rule, .part ⟨r, h, hr⟩ hc hl, hrule⟩

end Node

/-! ## Below the roots -/

namespace Engine

/-- The algorithm combines the roots, or the parts of a node in one of their trees. -/
def Uses (en : Engine) (a : Algorithm) : Prop :=
  a = en.rootAlgorithm ∨ ∃ root ∈ en.roots, (Node.ofPolicyNode root).Uses a

theorem evaluateRoots_single {en : Engine} {root : PolicyNode}
    (h : en.roots = [root]) (ctx : Context) :
    en.evaluateRoots ctx = (Node.ofPolicyNode root).evaluate ctx := by
  rw [evaluateRoots, h]
  cases root <;> rfl

theorem evaluateRoots_several {en : Engine} {root next : PolicyNode}
    {rest : List PolicyNode} (h : en.roots = root :: next :: rest) (ctx : Context) :
    en.evaluateRoots ctx = en.rootAlgorithm.combine
      ((en.roots.map Node.ofPolicyNode).map (Node.asChild ctx [])) [] ctx := by
  rw [evaluateRoots, h]
  exact congrArg (fun cs => en.rootAlgorithm.combine cs [] ctx) (Node.asChildren_eq ctx [] _)

theorem evaluateRoots_of_decide {en : Engine} {req : Request} {e : Effect}
    (h : (en.decide req).decision = e.decision) :
    ∃ r, (en.evaluateRoots (en.context req)).outcome = .ok r ∧ r.decision = e.decision := by
  rw [decide, decideTraced, evaluate] at h
  cases ho : (en.evaluateRoots (en.context req)).outcome with
  | ok r => rw [ho] at h; exact ⟨r, rfl, h⟩
  | error f => rw [ho] at h; cases e <;> cases h

/-- A final decision of the engine is that of some root. -/
theorem exists_root_of_decide {en : Engine} {req : Request} {e : Effect}
    (hs : en.rootAlgorithm.method.isStandard = true)
    (hp : en.rootAlgorithm.method.presumes e = false)
    (h : (en.decide req).decision = e.decision) :
    ∃ root ∈ en.roots, (Node.ofPolicyNode root).Decides (en.context req) e.decision := by
  obtain ⟨r, h, hr⟩ := evaluateRoots_of_decide h
  cases hroots : en.roots with
  | nil =>
      rw [evaluateRoots, hroots] at h
      obtain rfl := Except.ok.inj h
      exact absurd hr e.notApplicable_ne_decision
  | cons root rest => cases rest with
    | nil =>
        rw [evaluateRoots_single hroots] at h
        exact ⟨root, List.mem_singleton_self root, r, h, hr⟩
    | cons next rest =>
        rw [evaluateRoots_several hroots] at h
        obtain ⟨rs, ho, hg, hn⟩ := Method.contribution hs h hr
        have hc := (Method.contributors_sublist id en.rootAlgorithm.method e.decision
          ((en.roots.map Node.ofPolicyNode).map (Node.asChild (en.context req) []))).subset
        cases rs with
        | nil => rw [hn rfl] at hp; cases hp
        | cons s rs =>
            -- the first contributor's result is that of some root
            have hm : Except.ok s ∈ (s :: rs).map (.ok : Result → Except Fault Result) :=
              List.mem_map_of_mem List.mem_cons_self
            rw [← ho] at hm
            obtain ⟨c, hcm, hv⟩ := List.mem_map.mp hm
            obtain ⟨n, hn, rfl⟩ := List.mem_map.mp (hc hcm)
            obtain ⟨root, hroot, rfl⟩ := List.mem_map.mp hn
            exact ⟨root, hroots ▸ hroot, s, hv, (hg.decision s List.mem_cons_self).trans hr⟩

theorem restsOnRule_of_decide {en : Engine} {req : Request} {e : Effect}
    (hs : ∀ a, en.Uses a → a.method.isStandard = true)
    (hp : ∀ a, en.Uses a → a.method.presumes e = false)
    (h : (en.decide req).decision = e.decision) :
    ∃ root ∈ en.roots, (Node.ofPolicyNode root).RestsOnRule (en.context req) e := by
  have hr : en.Uses en.rootAlgorithm := Or.inl rfl
  obtain ⟨root, hroot, hd⟩ := exists_root_of_decide (hs _ hr) (hp _ hr) h
  have hu : ∀ a, (Node.ofPolicyNode root).Uses a → en.Uses a := fun a ha =>
    Or.inr ⟨root, hroot, ha⟩
  exact ⟨root, hroot, Node.restsOnRule_of_decides _ (fun a ha => hs a (hu a ha))
    (fun a ha => hp a (hu a ha)) hd⟩

/-- **No decision out of thin air.** A permit rests on a rule that permits, unless some algorithm
is permit-unless-deny. A deny rests on a rule that denies, unless some algorithm is
deny-unless-permit or the earlier deny-overrides of policies. -/
theorem final_decision_rests_on_rule {en : Engine}
    (hs : ∀ a, en.Uses a → a.method.isStandard = true) (req : Request) :
    ((∀ a, en.Uses a → a.method ≠ .defaulting .deny) → (en.decide req).decision = .permit →
      ∃ root ∈ en.roots, (Node.ofPolicyNode root).RestsOnRule (en.context req) .permit) ∧
    ((∀ a, en.Uses a → a.method ≠ .defaulting .permit ∧ a.method ≠ .earlierDenyOverrides) →
      (en.decide req).decision = .deny →
      ∃ root ∈ en.roots, (Node.ofPolicyNode root).RestsOnRule (en.context req) .deny) := by
  constructor
  · intro hp h
    exact restsOnRule_of_decide hs (fun a ha => Method.not_presumes_permit (hp a ha)) h
  · intro hp h
    exact restsOnRule_of_decide hs
      (fun a ha => Method.not_presumes_deny (hp a ha).1 (hp a ha).2) h

theorem final_decision_rests_on_rule_two_roots :
    let s : PolicySet :=
      { PolicySet.new ⟨"s"⟩ with
        algorithm := some ⟨⟨"deny-overrides"⟩, .overrides .deny⟩ }
    let p (x : Effect) : Policy :=
      { Policy.new ⟨"p"⟩ with
        algorithm := some ⟨⟨"first-applicable"⟩, .firstApplicable⟩
        rules := [Rule.new "r" x] }
    let en (x : Effect) : Engine :=
      ⟨.default, .standard, .standard, ⟨⟨"deny-overrides"⟩, .overrides .deny⟩,
        [.policySet s, .policy (p x)], []⟩
    let req : Request := ⟨[], none⟩
    (∀ x a, (en x).Uses a → a.method.isStandard = true ∧ a.method ≠ .defaulting .deny ∧
        a.method ≠ .defaulting .permit ∧ a.method ≠ .earlierDenyOverrides) ∧
      (((en .permit).decide req).decision = .permit ∧ ∃ root ∈ (en .permit).roots,
        (Node.ofPolicyNode root).RestsOnRule ((en .permit).context req) .permit) ∧
      (((en .deny).decide req).decision = .deny ∧ ∃ root ∈ (en .deny).roots,
        (Node.ofPolicyNode root).RestsOnRule ((en .deny).context req) .deny) := by
  intro s p en req
  have hu : ∀ x a, (en x).Uses a → a.method = .overrides .deny ∨ a.method = .firstApplicable := by
    intro x a ha
    rcases ha with rfl | ⟨root, hroot, ha⟩
    · exact Or.inl rfl
    revert a
    refine Node.forall_uses_iff.mpr ?_
    rcases List.mem_cons.mp hroot with rfl | hroot
    · refine ⟨fun a ha => ?_, fun c hc => absurd hc List.not_mem_nil⟩
      obtain rfl := Option.some.inj ha
      exact Or.inl rfl
    obtain rfl := List.mem_singleton.mp hroot
    constructor
    · intro a ha
      obtain rfl := Option.some.inj ha
      exact Or.inr rfl
    · intro c hc a ha
      obtain ⟨r, -, rfl⟩ := Node.mem_parts_policy hc
      exact absurd ha Node.not_uses_rule
  have hm : ∀ x a, (en x).Uses a → a.method.isStandard = true ∧ a.method ≠ .defaulting .deny ∧
      a.method ≠ .defaulting .permit ∧ a.method ≠ .earlierDenyOverrides := by
    intro x a ha
    rcases hu x a ha with h | h <;> rw [h] <;> exact ⟨rfl, nofun, nofun, nofun⟩
  have hs : ∀ x a, (en x).Uses a → a.method.isStandard = true := fun x a ha => (hm x a ha).1
  refine ⟨hm, ⟨rfl, ?_⟩, rfl, ?_⟩
  · exact (final_decision_rests_on_rule (hs .permit) req).1 (fun a ha => (hm _ a ha).2.1) rfl
  · exact (final_decision_rests_on_rule (hs .deny) req).2 (fun a ha => (hm _ a ha).2.2) rfl

end Engine

end Abac
