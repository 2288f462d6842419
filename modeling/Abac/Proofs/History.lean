import Abac.Proofs.Changes

/-!
# Memory never shows

A node remembers its status and the elements that its algorithm combines. Both
are filled by the first call that asks for them, and dropped by those that make
them stale. Members fill theirs too whenever the node is evaluated, and a member
that is shared may be used by others at any time.

Here a node with memory goes through any calls side by side with one that never
remembers anything (`History`). The two have the same fields and the same status,
and their members show the same faces (`Node.Mirrors`). One lemma for each kind of
call shows that this is preserved, and so it holds after every history. It is all
that evaluations depend on.

Frames only count the elements they keep. To see that what was picked for each
member is not stale either, the elements are kept in full here (`Held`).
-/

namespace Abac

namespace Node

/-! ## Validating and evaluating leave only memory behind -/

section

variable (ctx : Context) (n : Node)

/-- Whether an evaluation gets as far as combining the members. -/
def reachesMembers : Bool := n.frame?.any fun f => f.reachesChildren ctx n.check

theorem fresh_validated : n.validated.fresh = n.fresh := by
  rcases n with r | p | ⟨f, cs⟩ <;> rfl

theorem fresh_evaluated : (n.evaluated ctx).fresh = n.fresh := by
  rcases n with r | p | ⟨f, cs⟩ <;> rfl

theorem members_validated : n.validated.members = n.members := by
  cases n <;> rfl

theorem members_evaluated : (n.evaluated ctx).members = n.members := by
  cases n <;> rfl

theorem kept_validated : n.validated.kept = some n.validate := by
  cases n <;> rfl

theorem kept_evaluated : (n.evaluated ctx).kept = some n.validate := by
  cases n <;> rfl

theorem seen_validated : n.validated.seen = n.seen := by
  cases n <;> rfl

theorem seen_evaluated :
    (n.evaluated ctx).seen =
      if n.reachesMembers ctx then some (n.seen.getD n.members.length) else n.seen := by
  cases n with
  | rule r => rfl
  | policy p =>
      rw [members, List.length_map]
      rfl
  | policySet s =>
      rw [members, List.length_map]
      rfl

theorem validate_validated : n.validated.validate = n.validate := by
  rw [validate_eq, kept_validated]
  rfl

theorem validate_evaluated : (n.evaluated ctx).validate = n.validate := by
  rw [validate_eq, kept_evaluated]
  rfl

theorem parts_validated : n.validated.parts = n.parts := by
  rw [parts_eq, parts_eq, seen_validated, members_validated]

theorem parts_evaluated : (n.evaluated ctx).parts = n.parts := by
  rw [parts_eq, parts_eq, seen_evaluated, members_evaluated]
  cases n.reachesMembers ctx with
  | false => rfl
  | true =>
      cases n.seen with
      | none => exact List.take_length
      | some k => rfl

end

/-- Something in the tree of a node is validated or evaluated, and the node becomes another. -/
inductive Used : Node → Node → Prop where
  | validated (n : Node) : Used n n.validated
  | evaluated (ctx : Context) (n : Node) : Used n (n.evaluated ctx)
  | member {n n' c c' : Node} {i : Nat} (before : n.members[i]? = some c) (used : Used c c')
    (after : n.setMember? i c' = some n') : Used n n'

section

variable {n n' m m' c d : Node}

theorem face_congr (fields : n.fresh = m.fresh) (status : n.validate = m.validate)
    (parts : n.parts.map face = m.parts.map face) : n.face = m.face :=
  face_eq_iff.mpr ⟨fields, evaluate_eq_of_faces fields parts status⟩

theorem map_face_setMember? {i : Nat} (h : n.setMember? i c = some n')
    (hd : n.members[i]? = some d) (hc : c.face = d.face) :
    n'.members.map face = n.members.map face := by
  rw [members_setMember? h]
  exact map_set_eq_map hd hc

theorem validate_setMember? {i : Nat} (h : n.setMember? i c = some n')
    (hd : n.members[i]? = some d) (hc : c.face = d.face) : n'.validate = n.validate := by
  have hf : n'.fresh = n.fresh := fresh_setMember? h hd (face_eq_iff.mp hc).1
  rw [validate_eq, validate_eq, kept_setMember? h, congr_fresh check_fresh hf]

/-- **Whatever is validated or evaluated in a tree, its face stays the same.** -/
theorem Used.same_face (h : Used n n') : n'.face = n.face := by
  induction h with
  | validated n =>
      exact face_congr n.fresh_validated n.validate_validated (by rw [parts_validated])
  | evaluated ctx n =>
      exact face_congr (n.fresh_evaluated ctx) (n.validate_evaluated ctx)
        (by rw [parts_evaluated])
  | @member n n' c c' i before _ after ih =>
      refine face_congr (fresh_setMember? after before (face_eq_iff.mp ih).1)
        (validate_setMember? after before ih) ?_
      have hm : n'.members.map face = n.members.map face := map_face_setMember? after before ih
      rw [parts_eq, parts_eq, seen_setMember? after]
      cases n.seen with
      | none => exact hm
      | some k =>
          change (n'.members.take k).map face = (n.members.take k).map face
          rw [List.map_take, hm, List.map_take]

/-! ## Nodes that remember rightly -/

/-- What is remembered of the members holds for all of them. -/
def Whole (n : Node) : Prop := ∀ k, n.seen = some k → n.members.length ≤ k

theorem Whole.parts (h : n.Whole) : n.parts = n.members := by
  rw [parts_eq]
  cases hs : n.seen with
  | none => rfl
  | some k => exact List.take_of_length_le (h k hs)

theorem whole_of_unseen (h : n.seen = none) : n.Whole := by
  intro k hk
  rw [h] at hk
  cases hk

theorem Whole.change? {c : Change} (h : n.Whole) (hn : n.change? c = some n') : n'.Whole := by
  intro k hk
  rw [members_change? hn]
  rw [seen_change? hn] at hk
  split at hk
  · cases hk
  · exact h k hk

/-- Two nodes have the same fields and the same status, their members show the same faces, and
neither has forgotten any of them. -/
structure Mirrors (n m : Node) : Prop where
  fields : n.fresh = m.fresh
  status : n.validate = m.validate
  members : n.members.map Node.face = m.members.map Node.face
  whole : n.Whole
  other : m.Whole

namespace Mirrors

theorem face (h : n.Mirrors m) : n.face = m.face := by
  refine face_congr h.fields h.status ?_
  rw [h.whole.parts, h.other.parts, h.members]

theorem refl (h : n.Whole) : n.Mirrors n := ⟨rfl, rfl, rfl, h, h⟩

theorem adopted (h : c.Mirrors d) (parent : String) :
    (c.adopted parent).Mirrors (d.adopted parent) where
  fields := by rw [fresh_adopted, h.fields, fresh_adopted]
  status := by
    have hs := h.status
    rw [validate_eq, validate_eq] at hs ⊢
    rw [kept_adopted, kept_adopted, check_adopted, check_adopted, hs]
  members := by rw [members_adopted, members_adopted, h.members]
  whole := by
    intro k hk
    rw [members_adopted]
    exact h.whole k (seen_adopted parent c ▸ hk)
  other := by
    intro k hk
    rw [members_adopted]
    exact h.other k (seen_adopted parent d ▸ hk)

theorem change? {c : Change} (h : n.Mirrors m) (hn : n.change? c = some n')
    (hm : m.change? c = some m') : n'.Mirrors m' := by
  have hr : m.isRule = n.isRule := (congr_fresh isRule_fresh h.fields).symm
  have hf : n'.fresh = m'.fresh := by
    obtain ⟨l, hl, hf⟩ := fresh_change? hn h.fields
    rwa [Option.some.inj (hl.symm.trans hm)] at hf
  refine ⟨hf, ?_, ?_, h.whole.change? hn, h.other.change? hm⟩
  · rw [validate_eq, validate_eq, kept_change? hn, kept_change? hm, hr]
    cases hv : c.verdict? n.isRule with
    | none =>
        have hc : c.resets n.isRule = false := Change.resets_of_verdict? hv
        have hs := h.status
        rw [validate_eq, validate_eq] at hs
        rwa [check_change? hc hn, check_change? (hr.symm ▸ hc) hm]
    | some v => exact congrArg v.getD (congr_fresh check_fresh hf)
  · rw [members_change? hn, members_change? hm, h.members]

theorem add? {shared : Bool} (h : n.Mirrors m) (hc : c.Mirrors d) (hn : n.add? shared c = some n')
    (hm : m.add? shared d = some m') : n'.Mirrors m' := by
  have hf : n'.fresh = m'.fresh := by
    obtain ⟨l, hl, hf⟩ := fresh_add? hn h.fields hc.fields
    rwa [Option.some.inj (hl.symm.trans hm)] at hf
  refine ⟨hf, ?_, ?_, whole_of_unseen (seen_add? hn), whole_of_unseen (seen_add? hm)⟩
  · rw [validate_eq, validate_eq, kept_add? hn, kept_add? hm]
    exact congr_fresh check_fresh hf
  · rw [members_add? hn, members_add? hm, congr_fresh name_fresh h.fields, List.map_append,
      List.map_append, h.members]
    cases shared with
    | false => exact congrArg (_ ++ [·]) (hc.adopted m.name).face
    | true => exact congrArg (_ ++ [·]) hc.face

theorem validated (h : n.Mirrors m) : n.validated.Mirrors m where
  fields := n.fresh_validated.trans h.fields
  status := n.validate_validated.trans h.status
  members := by rw [members_validated, h.members]
  whole := by
    intro k hk
    rw [members_validated]
    exact h.whole k (n.seen_validated.symm.trans hk)
  other := h.other

theorem evaluated (h : n.Mirrors m) (ctx : Context) : (n.evaluated ctx).Mirrors m where
  fields := (n.fresh_evaluated ctx).trans h.fields
  status := (n.validate_evaluated ctx).trans h.status
  members := by rw [members_evaluated, h.members]
  whole := by
    intro k hk
    rw [members_evaluated]
    rw [seen_evaluated] at hk
    split at hk
    · obtain rfl := Option.some.inj hk
      cases hs : n.seen with
      | none => exact Nat.le_refl _
      | some k => exact h.whole k hs
    · exact h.whole k hk
  other := h.other

theorem setMember? {i : Nat} (h : n.Mirrors m) (hn : n.setMember? i c = some n')
    (hd : n.members[i]? = some d) (hc : c.face = d.face) : n'.Mirrors m where
  fields := (fresh_setMember? hn hd (face_eq_iff.mp hc).1).trans h.fields
  status := (validate_setMember? hn hd hc).trans h.status
  members := (map_face_setMember? hn hd hc).trans h.members
  whole := by
    intro k hk
    rw [members_setMember? hn, List.length_set]
    exact h.whole k ((seen_setMember? hn).symm.trans hk)
  other := h.other

end Mirrors

end

/-- The parameters that concern each member, in order. -/
def picks (n : Node) : List (List Parameter) :=
  n.members.map fun c => parametersFor c.name n.partParameters

theorem picks_fresh (n : Node) : n.fresh.picks = n.picks := by
  rw [picks, picks, members_fresh, List.map_map, partParameters_fresh]
  exact List.map_congr_left fun c _ => by rw [Function.comp, name_fresh]

theorem kept_of_fresh {n : Node} (h : n.fresh = n) : n.kept = none := by
  rw [← h]
  rcases n with r | p | ⟨f, cs⟩ <;> rfl

theorem seen_of_fresh {n : Node} (h : n.fresh = n) : n.seen = none := by
  rw [← h]
  rcases n with r | p | ⟨f, cs⟩ <;> rfl

end Node

/-- A change settles the status in force, or leaves the one in force before. -/
theorem Call.forced_change (onRule : Bool) (c : Change) (cs : List Call) :
    forced onRule (.change c :: cs) = (c.verdict? onRule).getD (forced onRule cs) := by
  cases c <;> cases onRule <;> rfl

/-! ## Elements -/

/-- A node with the elements that it keeps for its algorithm. An element stands for the member in
the same place, and holds the parameters that were picked for it. -/
structure Held where
  node : Node
  /-- What was picked for each member when elements were last made, if they are kept. -/
  elements : Option (List (List Parameter))

namespace Held

/-- What is picked for the members: what is kept, or else what would be picked now. -/
def picked (h : Held) : List (List Parameter) := h.elements.getD h.node.picks

/-- The elements that an evaluation combines. -/
def combined (h : Held) : List (Node × List Parameter) := h.node.members.zip h.picked

/-- The elements as the algorithm sees them. -/
def children (scope : Context) (h : Held) : List Child :=
  h.combined.map fun x => { x.1.asChild scope [] with parameters := x.2 }

/-- Evaluate a node by its elements. -/
def evaluate (ctx : Context) (h : Held) : Run Result :=
  match h.node.frame? with
  | none => h.node.evaluate ctx
  | some f =>
    let scope := h.node.scope ctx
    f.evaluate ctx scope h.node.validate (h.children scope) h.node.sign

/-- The node after a change, if it has what is changed. A change that drops the status that is kept
drops the elements too; rules have none. -/
def change? (h : Held) (c : Change) : Option Held :=
  (h.node.change? c).map fun n => ⟨n, if c.resets h.node.isRule then none else h.elements⟩

/-- The node with another one added, if it can hold it. -/
def add? (h : Held) (shared : Bool) (c : Node) : Option Held :=
  (h.node.add? shared c).map fun n => ⟨n, none⟩

/-- The node after its status was asked for. -/
def validated (h : Held) : Held := { h with node := h.node.validated }

/-- The node after it was evaluated. -/
def evaluated (ctx : Context) (h : Held) : Held where
  node := h.node.evaluated ctx
  elements := if h.node.reachesMembers ctx then some h.picked else h.elements

end Held

/-! ## Histories -/

/-- How a node came about. Calls were made on a node that remembered nothing, the latest first, and
in between anything below it may have been validated and evaluated: members are shared, and are
evaluated with the node. The last node is what would have come about by the same calls if validating
and evaluating left nothing behind, in the node and in what was added to it. -/
inductive History : List Call → Held → Node → Prop where
  | start {n : Node} (fresh : n.fresh = n) : History [] ⟨n, none⟩ n
  | change {cs : List Call} {h h' : Held} {m : Node} {c : Change} (past : History cs h m)
    (now : h.change? c = some h') : History (.change c :: cs) h' ((m.change? c).getD m)
  | add {cs ds : List Call} {h h' k : Held} {m d : Node} {shared : Bool} (past : History cs h m)
    (other : History ds k d) (now : h.add? shared k.node = some h') :
    History (.add shared k.node :: cs) h' ((m.add? shared d).getD m)
  | validate {cs : List Call} {h : Held} {m : Node} (past : History cs h m) :
    History (.validate :: cs) h.validated m
  | evaluate {cs : List Call} {h : Held} {m : Node} (ctx : Context) (past : History cs h m) :
    History (.evaluate ctx :: cs) (h.evaluated ctx) m
  | meanwhile {cs : List Call} {h : Held} {m n c c' : Node} {i : Nat} (past : History cs h m)
    (before : h.node.members[i]? = some c) (used : c.Used c')
    (after : h.node.setMember? i c' = some n) : History cs { h with node := n } m

namespace History

/-- What holds after calls. -/
structure Faithful (cs : List Call) (h : Held) (m : Node) : Prop where
  mirrors : h.node.Mirrors m
  elements : ∀ ps, h.elements = some ps → ps = h.node.picks
  forced : m.kept = Call.forced m.isRule cs
  unseen : m.seen = none

namespace Faithful

variable {cs ds : List Call} {h h' k : Held} {m d n c c' : Node}

theorem start (fresh : n.fresh = n) : Faithful [] ⟨n, none⟩ n where
  mirrors := .refl (Node.whole_of_unseen (Node.seen_of_fresh fresh))
  elements := fun _ hp => nomatch hp
  forced := Node.kept_of_fresh fresh
  unseen := Node.seen_of_fresh fresh

theorem change {a : Change} (hh : Faithful cs h m) (now : h.change? a = some h') :
    Faithful (.change a :: cs) h' ((m.change? a).getD m) := by
  obtain ⟨n, hn, rfl⟩ := Option.map_eq_some_iff.mp now
  obtain ⟨m', hm, -⟩ := Node.fresh_change? hn hh.mirrors.fields
  rw [hm, Option.getD_some]
  refine ⟨hh.mirrors.change? hn hm, ?_, ?_, ?_⟩
  · intro ps hp
    dsimp only at hp ⊢
    split at hp
    · cases hp
    · rename_i hc
      rw [Node.picks, Node.members_change? hn,
        Node.partParameters_change? (Bool.eq_false_iff.mpr hc) hn]
      exact hh.elements ps hp
  · rw [Node.kept_change? hm, Node.isRule_change? hm, hh.forced, Call.forced_change]
  · rw [Node.seen_change? hm, hh.unseen, ite_self]

theorem add {shared : Bool} (hh : Faithful cs h m) (hk : Faithful ds k d)
    (now : h.add? shared k.node = some h') :
    Faithful (.add shared k.node :: cs) h' ((m.add? shared d).getD m) := by
  obtain ⟨n, hn, rfl⟩ := Option.map_eq_some_iff.mp now
  obtain ⟨m', hm, -⟩ := Node.fresh_add? hn hh.mirrors.fields hk.mirrors.fields
  rw [hm, Option.getD_some]
  exact ⟨hh.mirrors.add? hk.mirrors hn hm, (fun _ hp => nomatch hp), Node.kept_add? hm,
    Node.seen_add? hm⟩

theorem validate (hh : Faithful cs h m) : Faithful (.validate :: cs) h.validated m where
  mirrors := hh.mirrors.validated
  elements := fun ps hp => (hh.elements ps hp).trans
    (Node.congr_fresh Node.picks_fresh h.node.fresh_validated).symm
  forced := hh.forced
  unseen := hh.unseen

theorem picked (hh : Faithful cs h m) : h.picked = h.node.picks := by
  rw [Held.picked]
  cases he : h.elements with
  | none => rfl
  | some ps => exact hh.elements ps he

theorem evaluate (hh : Faithful cs h m) (ctx : Context) :
    Faithful (.evaluate ctx :: cs) (h.evaluated ctx) m where
  mirrors := hh.mirrors.evaluated ctx
  elements := by
    intro ps hp
    have hf : (h.node.evaluated ctx).picks = h.node.picks :=
      Node.congr_fresh Node.picks_fresh (h.node.fresh_evaluated ctx)
    rw [Held.evaluated] at hp ⊢
    dsimp only at hp ⊢
    split at hp
    · rw [hf, ← Option.some.inj hp, hh.picked]
    · rw [hf, hh.elements ps hp]
  forced := hh.forced
  unseen := hh.unseen

theorem meanwhile {i : Nat} (hh : Faithful cs h m) (before : h.node.members[i]? = some c)
    (used : c.Used c') (after : h.node.setMember? i c' = some n) :
    Faithful cs { h with node := n } m where
  mirrors := hh.mirrors.setMember? after before used.same_face
  elements := fun ps hp => (hh.elements ps hp).trans
    (Node.congr_fresh Node.picks_fresh
      (Node.fresh_setMember? after before (Node.face_eq_iff.mp used.same_face).1)).symm
  forced := hh.forced
  unseen := hh.unseen

end Faithful

/-- Every history leads to what is remembered rightly. -/
theorem to_faithful {cs : List Call} {h : Held} {m : Node} (past : History cs h m) :
    Faithful cs h m := by
  induction past with
  | start fresh => exact .start fresh
  | change _ now ih => exact ih.change now
  | add _ _ now ih hk => exact ih.add hk now
  | validate _ ih => exact ih.validate
  | evaluate ctx _ ih => exact ih.evaluate ctx
  | meanwhile _ before used after ih => exact ih.meanwhile before used after

namespace Faithful

variable {cs : List Call} {h : Held} {m : Node} (hh : Faithful cs h m)

include hh

theorem combined : h.combined = h.node.members.map fun c =>
    (c, parametersFor c.name h.node.partParameters) := by
  rw [Held.combined, hh.picked, Node.picks]
  exact List.map_prod_left_eq_zip.symm

/-- A node that remembers rightly is evaluated by its elements as if it kept none. -/
theorem evaluate_eq (ctx : Context) : h.evaluate ctx = h.node.evaluate ctx := by
  have hc : ∀ scope, h.children scope =
      h.node.parts.map (Node.asChild scope h.node.partParameters) := by
    intro scope
    rw [Held.children, hh.combined, List.map_map, hh.mirrors.whole.parts]
    rfl
  unfold Held.evaluate
  cases hf : h.node.frame? with
  | none => rfl
  | some f =>
      dsimp only
      rw [Node.evaluate_of_frame hf, hc]

end Faithful

/-- **Memory never shows.** Whatever calls were made on a node, its status is the one in force, or
else that of a check of its fields as they are. An evaluation combines each member with the
parameters that now bear its identifier, in order, and comes to the same as that of a node with the
same fields and the same status in force that remembers nothing else. -/
theorem faithful {cs : List Call} {h : Held} {m : Node} (past : History cs h m) :
    h.node.validate = (Call.forced h.node.isRule cs).getD h.node.check ∧
      h.combined = h.node.members.map (fun c =>
        (c, parametersFor c.name h.node.partParameters)) ∧
      (m.fresh = h.node.fresh ∧ m.kept = Call.forced h.node.isRule cs ∧ m.seen = none) ∧
      ∀ ctx, h.evaluate ctx = m.evaluate ctx ∧ h.node.evaluate ctx = m.evaluate ctx := by
  have hh : Faithful cs h m := past.to_faithful
  have hf : h.node.fresh = m.fresh := hh.mirrors.fields
  have hk : m.kept = Call.forced h.node.isRule cs := by
    rw [hh.forced, Node.congr_fresh Node.isRule_fresh hf]
  have he : ∀ ctx, h.node.evaluate ctx = m.evaluate ctx :=
    (Node.face_eq_iff.mp hh.mirrors.face).2
  refine ⟨?_, hh.combined, ⟨hf.symm, hk, hh.unseen⟩, fun ctx => ⟨?_, he ctx⟩⟩
  · rw [hh.mirrors.status, Node.validate_eq, hk, Node.congr_fresh Node.check_fresh hf]
  · rw [hh.evaluate_eq, he]

/-- A policy is validated while it has no algorithm, evaluated with one rule, told what concerns
this rule, and forced to fail. All of it is gone when another rule comes. -/
theorem faithful_added :
    let ctx : Context := .bare
    let weight : Parameter := ⟨"weight", .integer 5⟩
    ∃ h m, History
        [.evaluate ctx,
          .add false (.rule (.new "b" .deny)),
          .change (.setStatus (.syntaxError "forced")),
          .change (.withChildParameter ⟨"a", weight⟩),
          .evaluate ctx,
          .add false (.rule (.new "a" .permit)),
          .change (.withAlgorithm ⟨⟨"deny-overrides"⟩, .overrides .deny⟩),
          .validate] h m ∧
      h.node.validate = .ok ∧ h.combined.map Prod.snd = [[weight], []] ∧ m.kept = none ∧
      (h.evaluate ctx).outcome.map Result.decision = .ok .deny := by
  intro ctx weight
  have built : History [.change (.withAlgorithm ⟨⟨"deny-overrides"⟩, .overrides .deny⟩),
      .validate] _ _ := .change (.validate (.start (n := .policy (.new ⟨"p"⟩)) rfl)) rfl
  have evaluated : History (.evaluate ctx :: .add false (.rule (.new "a" .permit)) :: _) _ _ :=
    .evaluate ctx (.add (k := ⟨.rule (.new "a" .permit), none⟩) built (.start rfl) rfl)
  have used := evaluated.meanwhile (i := 0) rfl (.validated _) rfl
  have forced : History (.change (.setStatus (.syntaxError "forced")) ::
      .change (.withChildParameter ⟨"a", weight⟩) :: _) _ _ := .change (.change used rfl) rfl
  have past : History (.evaluate ctx :: .add false (.rule (.new "b" .deny)) :: _) _ _ :=
    .evaluate ctx (.add (k := ⟨.rule (.new "b" .deny), none⟩) forced (.start rfl) rfl)
  obtain ⟨hv, hc, ⟨-, hk, -⟩, he⟩ := past.faithful
  exact ⟨_, _, past, hv, congrArg (List.map Prod.snd) hc, hk,
    congrArg (fun r => r.outcome.map Result.decision) (he ctx).1⟩

end History

end Abac
