import Abac.Policy.Call
import Abac.Proofs.Reports

/-!
# Nodes that differ in what they remember

A node remembers a status and how many of its members take part in combinations,
and so does every node below it. Two nodes have the same fields if they are equal
when all this is forgotten (`Node.fresh`). What a node shows to the one that
holds it is its fields and what it comes to (`Node.face`).

What a node comes to depends on its own fields, its status and the faces of its
parts (`Node.evaluate_eq_of_faces`). So members may be exchanged for others with the
same faces, and trees are compared one level at a time.
-/

namespace Abac

/-! ## Fields -/

/-- The policy with nothing remembered. -/
def Policy.fresh (p : Policy) : Policy :=
  { p.mapFrame .forget with rules := p.rules.map .recheck }

mutual

/-- The policy or policy set with nothing remembered. -/
def PolicyNode.fresh : PolicyNode → PolicyNode
  | .policy p => .policy p.fresh
  | .policySet s => .policySet s.fresh

/-- The policy set with nothing remembered. -/
def PolicySet.fresh : PolicySet → PolicySet
  | ⟨f, children⟩ => ⟨f.forget, PolicyNode.freshAll children⟩

/-- Several policies and policy sets with nothing remembered. -/
def PolicyNode.freshAll : List PolicyNode → List PolicyNode
  | [] => []
  | n :: rest => n.fresh :: PolicyNode.freshAll rest

end

theorem PolicyNode.freshAll_eq_map (ns : List PolicyNode) : freshAll ns = ns.map fresh := by
  induction ns with
  | nil => rfl
  | cons n ns ih => rw [freshAll, ih, List.map_cons]

theorem Policy.references_fresh (p : Policy) : p.fresh.references = p.references := by
  rw [references, references]
  exact congrArg (· ++ _) (List.flatMap_map Rule.recheck Rule.references p.rules)

theorem Policy.check_fresh (p : Policy) : p.fresh.check = p.check := by
  rw [check, check, references_fresh]
  rfl

namespace Node

/-- The node with nothing remembered, in it and below it. -/
def fresh : Node → Node
  | .rule r => .rule r.recheck
  | .policy p => .policy p.fresh
  | .policySet s => .policySet s.fresh

/-- The nodes that a node holds. -/
def members : Node → List Node
  | .rule _ => []
  | .policy p => p.rules.map .rule
  | .policySet s => s.children.map ofPolicyNode

/-- The status of a check. -/
def check : Node → Status
  | .rule r => r.check
  | .policy p => p.check
  | .policySet s => s.check

/-- The status that is kept. -/
def kept : Node → Option Status
  | .rule r => r.checked
  | .policy p => p.checked
  | .policySet s => s.checked

/-- How many of the members take part in combinations; all of them if nothing is remembered. -/
def seen (n : Node) : Option Nat := n.frame?.bind Frame.seen

theorem validate_eq (n : Node) : n.validate = n.kept.getD n.check := by
  cases n <;> rfl

theorem fresh_ofPolicyNode (c : PolicyNode) : (ofPolicyNode c).fresh = ofPolicyNode c.fresh := by
  cases c <;> rfl

theorem members_fresh (n : Node) : n.fresh.members = n.members.map fresh := by
  cases n with
  | rule r => rfl
  | policy p =>
      change (p.rules.map Rule.recheck).map rule = (p.rules.map rule).map fresh
      rw [List.map_map, List.map_map]
      rfl
  | policySet s =>
      obtain ⟨f, cs⟩ := s
      change (PolicyNode.freshAll cs).map ofPolicyNode = (cs.map ofPolicyNode).map fresh
      rw [PolicyNode.freshAll_eq_map, List.map_map, List.map_map]
      exact List.map_congr_left fun c _ => (fresh_ofPolicyNode c).symm

theorem name_fresh (n : Node) : n.fresh.name = n.name := by
  rcases n with r | p | ⟨f, cs⟩ <;> rfl

theorem label_fresh (n : Node) : n.fresh.label = n.label := by
  rcases n with r | p | ⟨f, cs⟩ <;> rfl

theorem target_fresh (n : Node) : n.fresh.target = n.target := by
  rcases n with r | p | ⟨f, cs⟩ <;> rfl

theorem scope_fresh (ctx : Context) (n : Node) : n.fresh.scope ctx = n.scope ctx := by
  rcases n with r | p | ⟨f, cs⟩ <;> rfl

theorem sign_fresh (n : Node) : n.fresh.sign = n.sign := by
  rcases n with r | p | ⟨f, cs⟩ <;> rfl

theorem isRule_fresh (n : Node) : n.fresh.isRule = n.isRule := by
  rcases n with r | p | ⟨f, cs⟩ <;> rfl

theorem partParameters_fresh (n : Node) : n.fresh.partParameters = n.partParameters := by
  rcases n with r | p | ⟨f, cs⟩ <;> rfl

theorem frame?_fresh (n : Node) : n.fresh.frame? = n.frame?.map .forget := by
  rcases n with r | p | ⟨f, cs⟩ <;> rfl

theorem check_fresh (n : Node) : n.fresh.check = n.check := by
  rcases n with r | p | ⟨f, cs⟩
  · rfl
  · exact p.check_fresh
  · rfl

/-! ## What fields tell -/

/-- What does not depend on memory is the same for nodes with the same fields. -/
theorem congr_fresh {α : Type} {g : Node → α} (hg : ∀ n : Node, g n.fresh = g n) {n m : Node}
    (h : n.fresh = m.fresh) : g n = g m := by
  rw [← hg n, h, hg m]

section

variable {m : Node}

theorem eq_rule_of_fresh {r : Rule} (h : (rule r).fresh = m.fresh) :
    ∃ s, m = rule s ∧ r.recheck = s.recheck := by
  cases m with
  | rule s => exact ⟨s, rfl, rule.inj h⟩
  | policy q => cases h
  | policySet t => cases h

theorem eq_policy_of_fresh {p : Policy} (h : (policy p).fresh = m.fresh) :
    ∃ q, m = policy q ∧ p.fresh = q.fresh := by
  cases m with
  | rule s => cases h
  | policy q => exact ⟨q, rfl, policy.inj h⟩
  | policySet t => cases h

theorem eq_policySet_of_fresh {s : PolicySet} (h : (policySet s).fresh = m.fresh) :
    ∃ t, m = policySet t ∧ s.fresh = t.fresh := by
  cases m with
  | rule s => cases h
  | policy q => cases h
  | policySet t => exact ⟨t, rfl, policySet.inj h⟩

theorem eq_ofPolicyNode_of_fresh {c : PolicyNode} (h : (ofPolicyNode c).fresh = m.fresh) :
    ∃ d, m = ofPolicyNode d ∧ c.fresh = d.fresh := by
  cases c with
  | policy p =>
      obtain ⟨q, rfl, hq⟩ := eq_policy_of_fresh h
      exact ⟨.policy q, rfl, congrArg PolicyNode.policy hq⟩
  | policySet s =>
      obtain ⟨t, rfl, ht⟩ := eq_policySet_of_fresh h
      exact ⟨.policySet t, rfl, congrArg PolicyNode.policySet ht⟩

end

/-! ## Faces -/

/-- What shows of a node in the one that holds it: its fields, and what it comes to. -/
def face (n : Node) : Node × (Context → Run Result) := (n.fresh, fun ctx => n.evaluate ctx)

theorem face_eq_iff {n m : Node} :
    n.face = m.face ↔ n.fresh = m.fresh ∧ ∀ ctx, n.evaluate ctx = m.evaluate ctx := by
  rw [face, face, Prod.mk.injEq, funext_iff]

/-- Algorithms see no more of a node than its face. -/
theorem asChild_eq_comp_face (ctx : Context) (ps : List TargetedParameter) :
    asChild ctx ps =
      (fun x =>
        { id := x.1.name
          parameters := parametersFor x.1.name ps
          matchTarget := fun _ => Run.lift (x.1.target.evaluate ctx)
          evaluate := fun _ => x.2 ctx }) ∘ face := by
  funext n
  rw [asChild, Function.comp, face, name_fresh, target_fresh]

theorem map_asChild_congr {ns ms : List Node} (h : ns.map face = ms.map face) (ctx : Context)
    (ps : List TargetedParameter) : ns.map (asChild ctx ps) = ms.map (asChild ctx ps) := by
  rw [asChild_eq_comp_face, ← List.map_map, h, List.map_map]

section

variable {n m : Node} (fields : n.fresh = m.fresh) (parts : n.parts.map face = m.parts.map face)

include fields parts

theorem children_eq_of_faces (ctx : Context) : n.children ctx = m.children ctx := by
  rw [children, children, congr_fresh (scope_fresh ctx) fields,
    congr_fresh partParameters_fresh fields, map_asChild_congr parts]

theorem answer_eq_of_faces_of_frame {f : Frame} (hn : n.frame? = some f) (ctx : Context)
    (a : Applicability) : n.answer ctx a = m.answer ctx a := by
  obtain ⟨g, hm, hg⟩ : ∃ g, m.frame? = some g ∧ g.forget = f.forget := by
    have h : n.frame?.map Frame.forget = m.frame?.map Frame.forget := by
      rw [← frame?_fresh, fields, frame?_fresh]
    rw [hn] at h
    exact Option.map_eq_some_iff.mp h.symm
  -- what the frame remembers plays no part in its answer
  have hf : f.answer = g.answer := by
    have h : ∀ f : Frame, f.forget.answer = f.answer := fun _ => rfl
    rw [← h f, ← hg, h]
  rw [answer_of_frame hn, answer_of_frame hm, hf, congr_fresh (scope_fresh ctx) fields,
    children_eq_of_faces fields parts, congr_fresh sign_fresh fields]

theorem answer_eq_of_faces (ctx : Context) (a : Applicability) :
    n.answer ctx a = m.answer ctx a := by
  cases n with
  | rule r =>
      obtain ⟨s, rfl, hs⟩ := eq_rule_of_fresh fields
      have h : ∀ r : Rule, r.recheck.answer ctx a = r.answer ctx a := fun _ => rfl
      exact (h r).symm.trans ((congrArg (Rule.answer ctx · a) hs).trans (h s))
  | policy p => exact answer_eq_of_faces_of_frame fields parts rfl ctx a
  | policySet s => exact answer_eq_of_faces_of_frame fields parts rfl ctx a

/-- **What a node comes to depends on its fields, its status and the faces of its parts.** -/
theorem evaluate_eq_of_faces (status : n.validate = m.validate) (ctx : Context) :
    n.evaluate ctx = m.evaluate ctx := by
  rw [evaluate_eq_reported, evaluate_eq_reported, status, congr_fresh label_fresh fields,
    congr_fresh target_fresh fields, funext (answer_eq_of_faces fields parts ctx)]

end

/-! ## Exchange of a member -/

theorem map_set_eq_map {α β : Type} {f : α → β} {xs : List α} {i : Nat} {a b : α}
    (h : xs[i]? = some a) (hf : f b = f a) : (xs.set i b).map f = xs.map f := by
  obtain ⟨hi, rfl⟩ := List.getElem?_eq_some_iff.mp h
  rw [List.map_set, hf, ← List.getElem_map f (h := by rwa [List.length_map]),
    List.set_getElem_self]

/-- All members are parts unless it is remembered that there were fewer. -/
theorem parts_eq (n : Node) : n.parts = n.seen.elim n.members fun k => n.members.take k := by
  have h : ∀ (f : Frame) (ns : List Node),
      f.visible ns = f.seen.elim ns fun k => ns.take k := by
    intro f ns
    rw [Frame.visible]
    cases f.seen <;> rfl
  rcases n with r | p | s
  · rfl
  · rw [parts, ← visible_map]
    exact h p.toFrame _
  · rw [parts, ← visible_map]
    exact h s.toFrame _

theorem toPolicyNode?_eq_some_iff {c : Node} {d : PolicyNode} :
    c.toPolicyNode? = some d ↔ c = ofPolicyNode d := by
  rcases c with r | p | s <;> rcases d with q | t <;> simp [toPolicyNode?, ofPolicyNode]

theorem ofPolicyNode_injective {c d : PolicyNode} (h : ofPolicyNode c = ofPolicyNode d) :
    c = d := by
  rcases c with p | s <;> cases d <;> cases h <;> rfl

/-- The node with another member in one place, if it can hold it. -/
def setMember? (n : Node) (i : Nat) (c : Node) : Option Node :=
  match n, c with
  | .policy p, .rule r => some (.policy { p with rules := p.rules.set i r })
  | .policySet s, c => c.toPolicyNode?.map fun c =>
    .policySet { s with children := s.children.set i c }
  | _, _ => none

section

variable {n n' c d : Node} {i : Nat}

theorem setMember?_cases (h : n.setMember? i c = some n') :
    (∃ p r, n = .policy p ∧ c = .rule r ∧ n' = .policy { p with rules := p.rules.set i r }) ∨
      ∃ s d, n = .policySet s ∧ c = ofPolicyNode d ∧
        n' = .policySet { s with children := s.children.set i d } := by
  rcases n with r | p | s
  · cases h
  · rcases c with r | q | t <;> cases h
    exact Or.inl ⟨p, r, rfl, rfl, rfl⟩
  · obtain ⟨d, hd, rfl⟩ := Option.map_eq_some_iff.mp h
    exact Or.inr ⟨s, d, rfl, toPolicyNode?_eq_some_iff.mp hd, rfl⟩

theorem members_setMember? (h : n.setMember? i c = some n') : n'.members = n.members.set i c := by
  obtain ⟨p, r, rfl, rfl, rfl⟩ | ⟨s, d, rfl, rfl, rfl⟩ := setMember?_cases h <;> exact List.map_set

theorem seen_setMember? (h : n.setMember? i c = some n') : n'.seen = n.seen := by
  obtain ⟨p, r, rfl, rfl, rfl⟩ | ⟨s, d, rfl, rfl, rfl⟩ := setMember?_cases h <;> rfl

theorem kept_setMember? (h : n.setMember? i c = some n') : n'.kept = n.kept := by
  obtain ⟨p, r, rfl, rfl, rfl⟩ | ⟨s, d, rfl, rfl, rfl⟩ := setMember?_cases h <;> rfl

theorem fresh_setMember? (h : n.setMember? i c = some n') (hd : n.members[i]? = some d)
    (hc : c.fresh = d.fresh) : n'.fresh = n.fresh := by
  obtain ⟨p, r, rfl, rfl, rfl⟩ | ⟨s, d, rfl, rfl, rfl⟩ := setMember?_cases h
  · obtain ⟨r', hr, rfl⟩ := Option.map_eq_some_iff.mp (List.getElem?_map.symm.trans hd)
    have h : (p.rules.set i r).map Rule.recheck = p.rules.map Rule.recheck :=
      map_set_eq_map hr (rule.inj hc)
    exact congrArg (fun rs => policy { p.mapFrame .forget with rules := rs }) h
  · obtain ⟨f, cs⟩ := s
    obtain ⟨e, he, rfl⟩ := Option.map_eq_some_iff.mp (List.getElem?_map.symm.trans hd)
    rw [fresh_ofPolicyNode, fresh_ofPolicyNode] at hc
    have h : PolicyNode.freshAll (cs.set i d) = PolicyNode.freshAll cs := by
      rw [PolicyNode.freshAll_eq_map, PolicyNode.freshAll_eq_map]
      exact map_set_eq_map he (ofPolicyNode_injective hc)
    exact congrArg (fun cs => policySet ⟨f.forget, cs⟩) h

end

end Node

end Abac
