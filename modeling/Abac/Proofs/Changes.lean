import Abac.Proofs.Likeness

/-!
# What calls do to memory

A change drops the status that is kept where the check looks at what it changes:
in all other cases the check comes to the same as before. This is shown once for
rules and once for frames, and then for nodes (`Node.check_change?`).

What a change or an addition makes of the fields of a node depends on the fields
alone, so two nodes with the same fields can be changed alike and keep them the
same (`Node.fresh_change?`, `Node.fresh_add?`).
-/

namespace Abac

/-! ## Changes of rules and frames -/

namespace Change

/-- What a change makes of the status that is kept; nothing if it leaves the status alone. -/
def verdict? (onRule : Bool) : Change → Option (Option Status)
  | .setStatus s => some (some s)
  | .resetStatus => some none
  | c => if c.resets onRule then some none else none

/-- A change that leaves the status alone does not drop it. -/
theorem resets_of_verdict? {onRule : Bool} {c : Change} (h : c.verdict? onRule = none) :
    c.resets onRule = false := by
  cases c <;> cases onRule <;> first | rfl | cases h

section

variable {c : Change} {g : Rule → Rule} (h : c.ofRule? = some g) (r : Rule)

include h

theorem checked_ofRule? : (g r).checked = (c.verdict? true).getD r.checked := by
  cases c <;> cases h <;> rfl

theorem check_ofRule? (hc : c.resets true = false) : (g r).check = r.check := by
  cases c <;> cases h <;> first | rfl | cases hc

theorem recheck_ofRule? : (g r).recheck = (g r.recheck).recheck := by
  cases c <;> cases h <;> rfl

end

section

variable {c : Change} {g : Frame → Frame} (h : c.ofFrame? = some g) (f : Frame)

include h

theorem checked_ofFrame? : (g f).checked = (c.verdict? false).getD f.checked := by
  cases c <;> cases h <;> rfl

theorem seen_ofFrame? : (g f).seen = if c.resets false then none else f.seen := by
  cases c <;> cases h <;> rfl

theorem id_ofFrame? : (g f).id = f.id := by
  cases c <;> cases h <;> rfl

theorem algorithm_ofFrame? (hc : c.resets false = false) : (g f).algorithm = f.algorithm := by
  cases c <;> cases h <;> first | rfl | cases hc

theorem childParameters_ofFrame? (hc : c.resets false = false) :
    (g f).childParameters = f.childParameters := by
  cases c <;> cases h <;> first | rfl | cases hc

theorem forget_ofFrame? : (g f).forget = (g f.forget).forget := by
  cases c <;> cases h <;> rfl

end

end Change

/-! ## Checks and fields of a changed node -/

theorem Policy.check_mapFrame {p : Policy} {g : Frame → Frame} (hid : (g p.toFrame).id = p.id)
    (ha : (g p.toFrame).algorithm = p.algorithm) : (p.mapFrame g).check = p.check := by
  simp only [check, references, mapFrame, hid, ha]

theorem PolicySet.check_mapFrame {s : PolicySet} {g : Frame → Frame}
    (ha : (g s.toFrame).algorithm = s.algorithm) : (s.mapFrame g).check = s.check := by
  simp only [check, mapFrame, ha]

/-- What a change leaves of fields depends on fields alone. -/
theorem Policy.fresh_mapFrame {g : Frame → Frame} (hg : ∀ f, (g f).forget = (g f.forget).forget)
    (p : Policy) : (p.mapFrame g).fresh = p.fresh.mapFrame fun f => (g f).forget :=
  congrArg (fun f => { p.fresh with toFrame := f }) (hg p.toFrame)

theorem PolicySet.fresh_mapFrame {g : Frame → Frame}
    (hg : ∀ f, (g f).forget = (g f.forget).forget) (s : PolicySet) :
    (s.mapFrame g).fresh = s.fresh.mapFrame fun f => (g f).forget := by
  obtain ⟨f, cs⟩ := s
  exact congrArg (fun f => PolicySet.mk f (PolicyNode.freshAll cs)) (hg f)

theorem Policy.fresh_withRule (p : Policy) (r : Rule) :
    (p.withRule r).fresh = p.fresh.withRule r.recheck :=
  congrArg (fun rs => { p.fresh with rules := rs }) List.map_append

theorem PolicySet.fresh_withShared (s : PolicySet) (c : PolicyNode) :
    (s.withShared c).fresh = s.fresh.withShared c.fresh := by
  obtain ⟨f, cs⟩ := s
  have h : PolicyNode.freshAll (cs ++ [c]) = PolicyNode.freshAll cs ++ [c.fresh] := by
    rw [PolicyNode.freshAll_eq_map, PolicyNode.freshAll_eq_map]
    exact List.map_append
  exact congrArg (PolicySet.mk f.forget) h

theorem PolicySet.fresh_withChild (s : PolicySet) (c : PolicyNode) :
    (s.withChild c).fresh = s.fresh.withChild c.fresh := by
  refine (s.fresh_withShared _).trans ?_
  rcases s with ⟨f, cs⟩
  rcases c with p | ⟨g, ds⟩ <;> rfl

/-! ## Changes of nodes -/

namespace Node

/-- A change changes a rule, defines a variable in a policy, or changes a frame. -/
inductive Changes (c : Change) : Node → Node → Prop where
  | rule {g : Rule → Rule} (hg : c.ofRule? = some g) (r : Rule) : Changes c (.rule r) (.rule (g r))
  | definition {d : Definition} (hd : c = .withVariable d) (p : Policy) :
    Changes c (.policy p) (.policy (p.withVariable d))
  | policy {g : Frame → Frame} (hg : c.ofFrame? = some g) (p : Policy) :
    Changes c (.policy p) (.policy (p.mapFrame g))
  | policySet {g : Frame → Frame} (hg : c.ofFrame? = some g) (s : PolicySet) :
    Changes c (.policySet s) (.policySet (s.mapFrame g))

section

variable {n n' : Node} {c : Change}

theorem Changes.of_change? (h : n.change? c = some n') : Changes c n n' := by
  unfold change? at h
  split at h
  · obtain ⟨g, hg, rfl⟩ := Option.map_eq_some_iff.mp h
    exact .rule hg _
  · cases h
    exact .definition rfl _
  · obtain ⟨g, hg, h⟩ := Option.bind_eq_some_iff.mp h
    cases n with
    | rule r => cases h
    | policy p =>
        cases h
        exact .policy hg p
    | policySet s =>
        cases h
        exact .policySet hg s

theorem isRule_change? (h : n.change? c = some n') : n'.isRule = n.isRule := by
  cases Changes.of_change? h <;> rfl

theorem members_change? (h : n.change? c = some n') : n'.members = n.members := by
  cases Changes.of_change? h <;> rfl

theorem kept_change? (h : n.change? c = some n') :
    n'.kept = (c.verdict? n.isRule).getD n.kept := by
  cases Changes.of_change? h with
  | rule hg r => exact Change.checked_ofRule? hg r
  | definition hd p =>
      rw [hd]
      rfl
  | policy hg p => exact Change.checked_ofFrame? hg p.toFrame
  | policySet hg s => exact Change.checked_ofFrame? hg s.toFrame

theorem seen_change? (h : n.change? c = some n') :
    n'.seen = if c.resets n.isRule then none else n.seen := by
  cases Changes.of_change? h with
  | rule hg r => exact (ite_self none).symm
  | definition hd p =>
      rw [hd]
      rfl
  | policy hg p => exact Change.seen_ofFrame? hg p.toFrame
  | policySet hg s => exact Change.seen_ofFrame? hg s.toFrame

section

/-! A change that does not drop the status alters neither the check nor what is picked for the
members. -/

variable (hc : c.resets n.isRule = false)

include hc

theorem check_change? (h : n.change? c = some n') : n'.check = n.check := by
  cases Changes.of_change? h with
  | rule hg r => exact Change.check_ofRule? hg r hc
  | definition hd p =>
      rw [hd] at hc
      cases hc
  | policy hg p =>
      exact Policy.check_mapFrame (Change.id_ofFrame? hg p.toFrame)
        (Change.algorithm_ofFrame? hg p.toFrame hc)
  | policySet hg s => exact PolicySet.check_mapFrame (Change.algorithm_ofFrame? hg s.toFrame hc)

theorem partParameters_change? (h : n.change? c = some n') :
    n'.partParameters = n.partParameters := by
  cases Changes.of_change? h with
  | rule hg r => rfl
  | definition hd p => rfl
  | policy hg p => exact Change.childParameters_ofFrame? hg p.toFrame hc
  | policySet hg s => exact Change.childParameters_ofFrame? hg s.toFrame hc

end

theorem Changes.change? (h : Changes c n n') : n.change? c = some n' := by
  cases h with
  | rule hg r =>
      rw [Node.change?, hg]
      rfl
  | definition hd p =>
      rw [hd]
      rfl
  | policy hg p => cases c <;> cases hg <;> rfl
  | policySet hg s => exact Option.bind_eq_some_iff.mpr ⟨_, hg, rfl⟩

/-- Nodes with the same fields are changed to nodes with the same fields. -/
theorem fresh_change? {m : Node} (h : n.change? c = some n') (hf : n.fresh = m.fresh) :
    ∃ m', m.change? c = some m' ∧ n'.fresh = m'.fresh := by
  cases Changes.of_change? h with
  | @rule g hg r =>
      obtain ⟨s, rfl, hs⟩ := eq_rule_of_fresh hf
      refine ⟨_, (Changes.rule hg s).change?, congrArg Node.rule ?_⟩
      rw [Change.recheck_ofRule? hg, hs, ← Change.recheck_ofRule? hg]
  | @definition d hd p =>
      obtain ⟨q, rfl, hq⟩ := eq_policy_of_fresh hf
      exact ⟨_, (Changes.definition hd q).change?,
        congrArg (fun p : Policy => Node.policy (p.withVariable d)) hq⟩
  | @policy g hg p =>
      obtain ⟨q, rfl, hq⟩ := eq_policy_of_fresh hf
      refine ⟨_, (Changes.policy hg q).change?, congrArg Node.policy ?_⟩
      rw [Policy.fresh_mapFrame (Change.forget_ofFrame? hg), hq,
        ← Policy.fresh_mapFrame (Change.forget_ofFrame? hg)]
  | @policySet g hg s =>
      obtain ⟨t, rfl, ht⟩ := eq_policySet_of_fresh hf
      refine ⟨_, (Changes.policySet hg t).change?, congrArg Node.policySet ?_⟩
      rw [PolicySet.fresh_mapFrame (Change.forget_ofFrame? hg), ht,
        ← PolicySet.fresh_mapFrame (Change.forget_ofFrame? hg)]

end

/-! ## Additions -/

/-- The node under a parent. -/
def adopted (parent : String) : Node → Node
  | .rule r => .rule { r with parentId := some parent }
  | .policy p => .policy (p.mapFrame fun f => { f with parentId := some parent })
  | .policySet s => .policySet (s.mapFrame fun f => { f with parentId := some parent })

section

variable (parent : String) (c : Node)

theorem fresh_adopted : (c.adopted parent).fresh = c.fresh.adopted parent := by
  rcases c with r | p | ⟨f, cs⟩ <;> rfl

theorem kept_adopted : (c.adopted parent).kept = c.kept := by
  cases c <;> rfl

theorem check_adopted : (c.adopted parent).check = c.check := by
  cases c <;> rfl

theorem seen_adopted : (c.adopted parent).seen = c.seen := by
  cases c <;> rfl

theorem members_adopted : (c.adopted parent).members = c.members := by
  cases c <;> rfl

end

/-- A policy adds a rule of its own; a policy set adds a policy or policy set, or shares it. -/
inductive Adds : Bool → Node → Node → Node → Prop where
  | rule (p : Policy) (r : Rule) : Adds false (.rule r) (.policy p) (.policy (p.withRule r))
  | own (s : PolicySet) (c : PolicyNode) :
    Adds false (ofPolicyNode c) (.policySet s) (.policySet (s.withChild c))
  | shared (s : PolicySet) (c : PolicyNode) :
    Adds true (ofPolicyNode c) (.policySet s) (.policySet (s.withShared c))

section

variable {n n' c : Node} {shared : Bool}

theorem Adds.of_add? (h : n.add? shared c = some n') : Adds shared c n n' := by
  unfold add? at h
  split at h
  · cases shared <;> cases h
    exact .rule _ _
  · obtain ⟨d, hd, rfl⟩ := Option.map_eq_some_iff.mp h
    obtain rfl := toPolicyNode?_eq_some_iff.mp hd
    cases shared with
    | false => exact .own _ d
    | true => exact .shared _ d
  · cases h

theorem Adds.add? (h : Adds shared c n n') : n.add? shared c = some n' := by
  cases h with
  | rule p r => rfl
  | own s c => cases c <;> rfl
  | shared s c => cases c <;> rfl

theorem members_add? (h : n.add? shared c = some n') :
    n'.members = n.members ++ [if shared then c else c.adopted n.name] := by
  cases Adds.of_add? h with
  | rule p r => exact List.map_append
  | own s c =>
      refine List.map_append.trans ?_
      cases c <;> rfl
  | shared s c => exact List.map_append

theorem kept_add? (h : n.add? shared c = some n') : n'.kept = none := by
  cases Adds.of_add? h <;> rfl

theorem seen_add? (h : n.add? shared c = some n') : n'.seen = none := by
  cases Adds.of_add? h <;> rfl

theorem fresh_add? {m d : Node} (h : n.add? shared c = some n') (hf : n.fresh = m.fresh)
    (hc : c.fresh = d.fresh) : ∃ m', m.add? shared d = some m' ∧ n'.fresh = m'.fresh := by
  cases Adds.of_add? h with
  | rule p r =>
      obtain ⟨q, rfl, hq⟩ := eq_policy_of_fresh hf
      obtain ⟨s, rfl, hs⟩ := eq_rule_of_fresh hc
      refine ⟨_, (Adds.rule q s).add?, congrArg Node.policy ?_⟩
      rw [Policy.fresh_withRule, Policy.fresh_withRule, hq, hs]
  | own s c =>
      obtain ⟨t, rfl, ht⟩ := eq_policySet_of_fresh hf
      obtain ⟨d, rfl, hd⟩ := eq_ofPolicyNode_of_fresh hc
      refine ⟨_, (Adds.own t d).add?, congrArg Node.policySet ?_⟩
      rw [PolicySet.fresh_withChild, PolicySet.fresh_withChild, ht, hd]
  | shared s c =>
      obtain ⟨t, rfl, ht⟩ := eq_policySet_of_fresh hf
      obtain ⟨d, rfl, hd⟩ := eq_ofPolicyNode_of_fresh hc
      refine ⟨_, (Adds.shared t d).add?, congrArg Node.policySet ?_⟩
      rw [PolicySet.fresh_withShared, PolicySet.fresh_withShared, ht, hd]

end

end Node

end Abac
