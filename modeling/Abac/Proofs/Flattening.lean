import Mathlib.Data.Fintype.Sets
import Abac.Proofs.Evaluation
import Abac.Proofs.Resolution

/-!
# Nesting and flattening

What deny-overrides and permit-overrides decide depends only on which kinds of
decisions are among the children's (`Kinds`). The kinds of two lists together
are those of either, and a combination puts as many kinds into a list as the
children that it stands for, as far as any further combination can tell
(`Kinds.verdict_both`). So a part of the children may be combined on its own
first, and its decision put in its place.

A policy set that uses the same algorithm and adds nothing of its own is such a
part. Taking it out of a tree and leaving its children in its place, or the
other way round, at any depth and in any order, does not change what the tree
decides (`decides_of_flattens`).
-/

namespace Abac

/-! ## Kinds of decisions -/

/-- Which kinds of decisions there are, from the side of an overriding effect. -/
structure Kinds where
  decides : Bool
  opposes : Bool
  mayDecide : Bool
  mayOppose : Bool
  unclear : Bool

namespace Kinds

/-- The kinds in a list of decisions. -/
def of (e : Effect) (ds : List Decision) : Kinds where
  decides := e.decision ∈ ds
  opposes := e.opposite.decision ∈ ds
  mayDecide := e.indeterminate ∈ ds
  mayOppose := e.opposite.indeterminate ∈ ds
  unclear := .indeterminateDenyPermit ∈ ds ∨ .indeterminate ∈ ds

/-- The kinds of two lists together. -/
def both (k l : Kinds) : Kinds where
  decides := k.decides || l.decides
  opposes := k.opposes || l.opposes
  mayDecide := k.mayDecide || l.mayDecide
  mayOppose := k.mayOppose || l.mayOppose
  unclear := k.unclear || l.unclear

/-- What is decided where there are these kinds. -/
def verdict (e : Effect) (k : Kinds) : Decision :=
  if k.decides then e.decision
  else if k.unclear || (k.mayDecide && (k.opposes || k.mayOppose)) then .indeterminateDenyPermit
  else if k.mayDecide then e.indeterminate
  else if k.opposes then e.opposite.decision
  else if k.mayOppose then e.opposite.indeterminate
  else .notApplicable

theorem of_append (e : Effect) (ds es : List Decision) :
    of e (ds ++ es) = (of e ds).both (of e es) := by
  simp [of, both, or_or_or_comm]

/-- A verdict stands for the kinds that it was reached from: next to any others, it leads to the
same. -/
theorem verdict_both (e : Effect) (k l : Kinds) :
    ((of e [k.verdict e]).both l).verdict e = (k.both l).verdict e := by
  obtain ⟨d, o, md, mo, u⟩ := k
  obtain ⟨d', o', md', mo', u'⟩ := l
  cases e <;> revert d o md mo u d' o' md' mo' u' <;> decide +kernel

end Kinds

namespace Effect

theorem overriding_eq_verdict (e : Effect) (ds : List Decision) :
    e.overriding ds = (Kinds.of e ds).verdict e := by
  have hc : e.Clashes ds ↔ ((Kinds.of e ds).unclear || ((Kinds.of e ds).mayDecide &&
      ((Kinds.of e ds).opposes || (Kinds.of e ds).mayOppose))) = true := by
    simp [Clashes, Kinds.of, or_assoc]
  rw [overriding, Kinds.verdict]
  refine if_congr ?_ rfl (if_congr hc rfl (if_congr ?_ rfl (if_congr ?_ rfl (if_congr ?_ rfl rfl))))
  all_goals exact decide_eq_true_iff.symm

/-- Only which decisions there are counts, not their order or how often each comes. -/
theorem overriding_congr {e : Effect} {ds es : List Decision} (h : ∀ d, d ∈ ds ↔ d ∈ es) :
    e.overriding ds = e.overriding es := by
  have hc : e.Clashes ds ↔ e.Clashes es := by simp only [Clashes, h]
  simp only [overriding, hc, h]

/-- The decisions of a part of the children may be combined first. -/
theorem overriding_overriding_append (e : Effect) (ds es : List Decision) :
    e.overriding (e.overriding ds :: es) = e.overriding (ds ++ es) := by
  rw [← List.singleton_append, overriding_eq_verdict, overriding_eq_verdict e ds,
    overriding_eq_verdict, Kinds.of_append, Kinds.of_append, Kinds.verdict_both]

theorem overriding_append (e : Effect) (ds es : List Decision) :
    e.overriding (ds ++ es) = e.overriding [e.overriding ds, e.overriding es] := by
  have hs : ∀ a b : List Decision, e.overriding (a ++ b) = e.overriding (b ++ a) := fun a b =>
    overriding_congr fun d => List.perm_append_comm.mem_iff
  calc e.overriding (ds ++ es) = e.overriding ([e.overriding ds] ++ es) :=
        (overriding_overriding_append e ds es).symm
    _ = e.overriding (es ++ [e.overriding ds]) := hs _ _
    _ = e.overriding ([e.overriding es] ++ [e.overriding ds]) :=
        (overriding_overriding_append e es _).symm
    _ = e.overriding [e.overriding ds, e.overriding es] := hs _ _

end Effect

/-! ## The join -/

instance : Fintype Decision :=
  .ofList [.permit, .deny, .notApplicable, .indeterminate, .indeterminatePermit, .indeterminateDeny,
    .indeterminateDenyPermit] fun d => by cases d <;> decide

namespace Effect

/-- What two children decide together; two that decide the same count as one. -/
def join (e : Effect) (a b : Decision) : Decision := if a = b then a else e.overriding [a, b]

theorem join_comm (e : Effect) (a b : Decision) : e.join a b = e.join b a := by
  cases e <;> revert a b <;> decide +kernel

theorem join_assoc (e : Effect) (a b c : Decision) :
    e.join (e.join a b) c = e.join a (e.join b c) := by
  cases e <;> revert a b c <;> decide +kernel

theorem join_self (e : Effect) (a : Decision) : e.join a a = a := if_pos rfl

/-- One more decision is joined to what the others come to. -/
theorem overriding_cons (e : Effect) (d : Decision) (ds : List Decision) :
    e.overriding (d :: ds) = e.join d (e.overriding ds) := by
  have key : ∀ d o : Decision, o ≠ .indeterminate →
      e.overriding [e.overriding [d], o] = e.join d o := by
    cases e <;> decide +kernel
  rw [← key d _ (e.overriding_ne_indeterminate ds)]
  exact overriding_append e [d] ds

theorem overriding_eq_foldr_join (e : Effect) (ds : List Decision) :
    e.overriding ds = ds.foldr e.join .notApplicable := by
  induction ds with
  | nil => cases e <;> rfl
  | cons d ds ih => rw [overriding_cons, ih, List.foldr_cons]

end Effect

/-! ## Nodes that add nothing -/

/-- A node without obligations and advice leaves a result as it is. -/
theorem Result.attach_nil (ctx : Context) (r : Result) : r.attach ctx [] [] = .ok r := by
  cases he : Effect.ofDecision? r.decision with
  | none => rw [attach, he]
  | some e =>
      have hd : r.decision = e.decision := Effect.ofDecision?_eq_some_iff.mp he
      rw [attach_of_values hd rfl rfl, List.append_nil, List.append_nil]

namespace Node

/-- The decision of a node. -/
def decides (ctx : Context) (n : Node) : Except Fault Decision :=
  (n.evaluate ctx).outcome.map Result.decision

/-- A policy set that leaves everything to an overriding algorithm: it is well formed, applies to
every request and has neither obligations nor advice. -/
structure Transparent (e : Effect) (s : PolicySet) : Prop where
  valid : s.validate.isOk = true
  target : s.target = .everything
  method : ∃ a, s.algorithm = some a ∧ a.method = .overrides e
  obligations : s.obligations = []
  advice : s.advice = []

/-- Such a policy set decides what its algorithm makes of its parts' decisions. -/
theorem Transparent.decides {e : Effect} {s : PolicySet} (h : Transparent e s) {ctx : Context}
    {ds : List Decision} (hd : (policySet s).parts.map (Node.decides ctx) = ds.map .ok) :
    (policySet s).decides ctx = .ok (e.overriding ds) := by
  obtain ⟨a, ha, hm⟩ := h.method
  have hs : Survey.decisions ((policySet s).parts.map (asChild ctx s.childParameters)) =
      ds.map .ok := by
    rw [← hd, Survey.decisions, Survey.outcomes, List.map_map, List.map_map]
    rfl
  obtain ⟨rs, ho, rfl⟩ := Survey.exists_results hs
  have hc : (a.combine ((policySet s).parts.map (asChild ctx s.childParameters))
      s.parameters ctx).outcome = .ok (e.overridden rs) := by
    rw [Algorithm.combine, hm]
    exact Method.outcome_overrides ho s.parameters ctx
  have hr : (s.toFrame.combine ctx ((policySet s).parts.map (asChild ctx s.childParameters))
      s.sign).outcome = .ok ((policySet s).signed ctx (e.overridden rs)) := by
    rw [Frame.combine, ha]
    dsimp only
    rw [Run.bind_of_ok hc, h.obligations, h.advice, Result.attach_nil]
    rfl
  have ht : (policySet s).target.evaluate ctx = .ok .matched := by
    rw [Node.target, h.target]
    rfl
  have hv : (policySet s).validate.isOk = true := h.valid
  rw [Node.decides, outcome_evaluate, if_pos hv, ht]
  refine (congrArg (Except.map Result.decision) hr).trans (congrArg Except.ok ?_)
  rw [← e.decision_overridden]
  exact decision_signed ctx (policySet s) (e.overridden rs)

/-! ## Trees -/

mutual

/-- The nodes `ls` are what is left of a node when some of the transparent policy sets in it are
replaced by their parts, the node itself perhaps among them. -/
inductive Flattens (e : Effect) : Node → List Node → Prop where
  | kept {n : Node} : Flattens e n [n]
  | opened {s : PolicySet} {ls : List Node} : Transparent e s →
      FlattensAll e (policySet s).parts ls → Flattens e (policySet s) ls

/-- The same of a list of nodes; what is left of each stands in its place. -/
inductive FlattensAll (e : Effect) : List Node → List Node → Prop where
  | nil : FlattensAll e [] []
  | cons {n : Node} {ns ls rest : List Node} : Flattens e n ls → FlattensAll e ns rest →
      FlattensAll e (n :: ns) (ls ++ rest)

end

section

variable {e : Effect} {ctx : Context}

theorem exists_decisions_append {ls rest : List Node} {ds : List Decision}
    (h : (ls ++ rest).map (Node.decides ctx) = ds.map .ok) :
    ∃ es fs, ds = es ++ fs ∧ ls.map (Node.decides ctx) = es.map .ok ∧
      rest.map (Node.decides ctx) = fs.map .ok := by
  rw [List.map_append] at h
  obtain ⟨es, fs, rfl, he, hf⟩ := List.map_eq_append_iff.mp h.symm
  exact ⟨es, fs, rfl, he.symm, hf.symm⟩

mutual

/-- To the combination that it is part of, a node is worth as much as what is left of it. -/
theorem Flattens.overriding : ∀ {n : Node} {ls : List Node}, Flattens e n ls →
    ∀ {ds : List Decision}, ls.map (Node.decides ctx) = ds.map .ok →
      ∃ d, n.decides ctx = .ok d ∧ e.overriding [d] = e.overriding ds
  | n, _, .kept, ds, hd => by
      cases ds with
      | nil => exact absurd hd (List.cons_ne_nil _ _)
      | cons d rest =>
          obtain ⟨hn, hr⟩ := List.cons.inj hd
          obtain rfl : rest = [] := List.map_eq_nil_iff.mp hr.symm
          exact ⟨d, hn, rfl⟩
  | _, _, .opened ht hp, ds, hd => by
      obtain ⟨es, he, ho⟩ := FlattensAll.overriding hp hd
      refine ⟨_, ht.decides he, ?_⟩
      rw [Effect.overriding_overriding_append, List.append_nil, ho]

theorem FlattensAll.overriding : ∀ {ns ls : List Node}, FlattensAll e ns ls →
    ∀ {ds : List Decision}, ls.map (Node.decides ctx) = ds.map .ok →
      ∃ es, ns.map (Node.decides ctx) = es.map .ok ∧ e.overriding es = e.overriding ds
  | _, _, .nil, ds, hd => ⟨ds, hd, rfl⟩
  | _, _, .cons hn hr, ds, hd => by
      obtain ⟨fs, gs, rfl, hf, hg⟩ := exists_decisions_append hd
      obtain ⟨d, hd, ho⟩ := Flattens.overriding hn hf
      obtain ⟨es, he, hs⟩ := FlattensAll.overriding hr hg
      refine ⟨d :: es, ?_, ?_⟩
      · rw [List.map_cons, List.map_cons, hd, he]
      · rw [← List.singleton_append, e.overriding_append, ho, hs, ← e.overriding_append]

end

end

/-- A transparent policy set decides the join of what is left of it. -/
theorem Transparent.decides_of_flattens {e : Effect} {s : PolicySet} (h : Transparent e s)
    {ls : List Node} (hl : FlattensAll e (policySet s).parts ls) {ctx : Context}
    {ds : List Decision} (hd : ls.map (Node.decides ctx) = ds.map .ok) :
    (policySet s).decides ctx = .ok (e.overriding ds) := by
  obtain ⟨es, he, ho⟩ := hl.overriding hd
  rw [h.decides he, ho]

end Node

/-! ## Flattening -/

/-- Decisions in another order are still decisions, without a fault among them. -/
theorem exists_decisions_of_perm {ds : List Decision} {os : List (Except Fault Decision)}
    (h : (ds.map Except.ok).Perm os) : ∃ es, os = es.map .ok ∧ ds.Perm es := by
  have hr : os ∈ Set.range (List.map Except.ok) := by
    rw [Set.range_list_map]
    intro o ho
    obtain ⟨d, -, rfl⟩ := List.mem_map.mp (h.mem_iff.mpr ho)
    exact ⟨d, rfl⟩
  obtain ⟨es, rfl⟩ := hr
  exact ⟨es, rfl, (List.map_perm_map_iff fun _ _ => Except.ok.inj).mp h⟩

theorem Effect.overriding_perm (e : Effect) {ds es : List Decision} (h : ds.Perm es) :
    e.overriding ds = e.overriding es :=
  overriding_congr fun _ => h.mem_iff

/-- **Flattening.** A part of the children may be combined on its own and its decision put in its
place; the order of the children does not matter, and there need not be any. All of this is so
because the decisions are joined. Hence two trees of policy sets that add nothing of their own
decide the same if the same decisions are left when the policy sets in them are opened. -/
theorem Method.overrides_flatten (e : Effect) (ps : List Parameter) (ctx : Context) :
    (∀ {xs ys : List Child} {ds es : List Decision},
      Survey.decisions xs = ds.map .ok → Survey.decisions ys = es.map .ok →
      ∃ d d', (Method.overrides e).decides xs ps ctx = .ok d ∧
        (Method.overrides e).decides ys ps ctx = .ok d' ∧
        ∀ pair : List Child, Survey.decisions pair = [.ok d, .ok d'] →
          (Method.overrides e).decides (xs ++ ys) ps ctx =
            (Method.overrides e).decides pair ps ctx) ∧
    (∀ {xs ys : List Child} {ds : List Decision}, Survey.decisions xs = ds.map .ok →
      (Survey.decisions xs).Perm (Survey.decisions ys) →
      (Method.overrides e).decides xs ps ctx = (Method.overrides e).decides ys ps ctx) ∧
    (Method.overrides e).decides [] ps ctx = .ok .notApplicable ∧
    (Std.Commutative e.join ∧ Std.Associative e.join ∧ Std.IdempotentOp e.join ∧
      ∀ {xs : List Child} {ds : List Decision}, Survey.decisions xs = ds.map .ok →
        (Method.overrides e).decides xs ps ctx = .ok (ds.foldr e.join .notApplicable)) ∧
    ∀ {s t : PolicySet} {ls ms : List Node} {ds : List Decision},
      Node.Transparent e s → Node.Transparent e t →
      Node.FlattensAll e (Node.policySet s).parts ls →
      Node.FlattensAll e (Node.policySet t).parts ms →
      ls.map (Node.decides ctx) = ds.map .ok →
      (ls.map (Node.decides ctx)).Perm (ms.map (Node.decides ctx)) →
      (Node.policySet s).decides ctx = .ok (ds.foldr e.join .notApplicable) ∧
        (Node.policySet t).decides ctx = (Node.policySet s).decides ctx := by
  refine ⟨?halves, ?order, ?empty, ⟨⟨e.join_comm⟩, ⟨e.join_assoc⟩, ⟨e.join_self⟩, ?fold⟩, ?trees⟩
  case halves =>
    intro xs ys ds es hx hy
    refine ⟨_, _, decides_overrides hx ps ctx, decides_overrides hy ps ctx, fun pair hp => ?_⟩
    have hxy : Survey.decisions (xs ++ ys) = (ds ++ es).map .ok := by
      rw [List.map_append, ← hx, ← hy, Survey.decisions, Survey.outcomes, List.map_append,
        List.map_append]
      rfl
    have hp' : Survey.decisions pair = [e.overriding ds, e.overriding es].map .ok := hp
    rw [decides_overrides hxy, decides_overrides hp', e.overriding_append]
  case order =>
    intro xs ys ds hx hp
    rw [hx] at hp
    obtain ⟨es, hy, hp⟩ := exists_decisions_of_perm hp
    rw [decides_overrides hx, decides_overrides hy, e.overriding_perm hp]
  case empty =>
    have hn : Survey.decisions [] = ([] : List Decision).map .ok := rfl
    rw [decides_overrides hn, e.overriding_eq_foldr_join, List.foldr_nil]
  case fold =>
    intro xs ds hx
    rw [decides_overrides hx, e.overriding_eq_foldr_join]
  case trees =>
    intro s t ls ms ds hs ht hl hm hd hp
    rw [hd] at hp
    obtain ⟨es, he, hp⟩ := exists_decisions_of_perm hp
    rw [hs.decides_of_flattens hl hd, ht.decides_of_flattens hm he, ← e.overriding_perm hp,
      e.overriding_eq_foldr_join]
    exact ⟨rfl, rfl⟩

/-- A permit beside a policy set with a deny and a permit, and the three policies side by side in
another order. -/
theorem Method.overrides_flatten_nested :
    let p (id : String) (x : Effect) : PolicyNode := .policy
      { Policy.new ⟨id⟩ with
        algorithm := some ⟨⟨"permit-overrides"⟩, .overrides .permit⟩
        rules := [Rule.new "r" x] }
    let set (id : String) (children : List PolicyNode) : PolicySet :=
      { PolicySet.new ⟨id⟩ with
        algorithm := some ⟨⟨"deny-overrides"⟩, .overrides .deny⟩
        children }
    let inner := set "inner" [p "second" .deny, p "third" .permit]
    let nested := set "outer" [p "first" .permit, .policySet inner]
    let flat := set "outer" [p "second" .deny, p "first" .permit, p "third" .permit]
    let ctx : Context := .bare
    let left : List Node :=
      [.ofPolicyNode (p "first" .permit), .ofPolicyNode (p "second" .deny),
        .ofPolicyNode (p "third" .permit)]
    Node.Transparent .deny nested ∧ Node.Transparent .deny flat ∧
      Node.FlattensAll .deny (Node.policySet nested).parts left ∧
      left.map (Node.decides ctx) = [.ok .permit, .ok .deny, .ok .permit] ∧
      (left.map (Node.decides ctx)).Perm ((Node.policySet flat).parts.map (Node.decides ctx)) ∧
      (Node.policySet nested).decides ctx = .ok .deny ∧
      (Node.policySet flat).decides ctx = (Node.policySet nested).decides ctx := by
  intro p set inner nested flat ctx left
  have ht : ∀ id children, Node.Transparent .deny (set id children) := fun _ _ =>
    ⟨rfl, rfl, ⟨_, rfl, rfl⟩, rfl, rfl⟩
  have hi : Node.Flattens .deny (.policySet inner) (Node.policySet inner).parts :=
    .opened (ht "inner" _) (.cons .kept (.cons .kept .nil))
  have hn : Node.FlattensAll .deny (Node.policySet nested).parts left :=
    .cons .kept (.cons hi .nil)
  have hf : Node.FlattensAll .deny (Node.policySet flat).parts (Node.policySet flat).parts :=
    .cons .kept (.cons .kept (.cons .kept .nil))
  have hp : (left.map (Node.decides ctx)).Perm
      ((Node.policySet flat).parts.map (Node.decides ctx)) := .swap _ _ _
  have hd : left.map (Node.decides ctx) = [.permit, .deny, .permit].map .ok := rfl
  obtain ⟨-, -, -, -, h⟩ := Method.overrides_flatten .deny [] ctx
  obtain ⟨h1, h2⟩ := h (ht _ _) (ht _ _) hn hf hd hp
  exact ⟨ht _ _, ht _ _, hn, rfl, hp, h1, h2⟩

end Abac
