import Abac.Proofs.BagSets

/-!
# The order of the values in a bag

A bag is meant to be without order, and whether a value is in a bag, or a bag a
subset of another, does not depend on one: what a predicate asks is a matter of
what the values denote. But a predicate that meets two values it cannot compare
halts, and whether it meets them does depend on the order. A search stops at the
first equal value, so that a value of the other time line is harmless behind it
and fatal in front of it.

So there is one answer for all orders, some orders may halt instead of coming to
it, and there are such orders exactly if some two of the values that are to be
compared are mixed (`BagQuestion.answer_up_to_order`).
-/

namespace Abac

/-! ## Arguments in another order -/

/-- The values that an argument holds. -/
def Operand.members : Argument → List Value
  | .value v => [v]
  | .bag b => b.values
  | .function _ => []

/-- The same argument, but for the order of the values of a bag. -/
inductive Operand.Rearranged : Argument → Argument → Prop
  | same (a : Argument) : Rearranged a a
  | bag {t : DataType} {vs ws : List Value} (h : vs.Perm ws) :
      Rearranged (.bag ⟨t, vs⟩) (.bag ⟨t, ws⟩)

namespace Operand.Rearranged

variable {a a' : Argument} {l r : Bag} {v : Value}

theorem members_perm (h : a.Rearranged a') : a.members.Perm a'.members := by
  cases h with
  | same a => exact .refl _
  | bag h => exact h

theorem eq_of_value (h : Rearranged (.value v) a') : a' = .value v := by
  cases h
  rfl

theorem exists_bag {t : DataType} (h : Rearranged (.bag l) a') (hl : l.IsOf t) :
    ∃ r, a' = .bag r ∧ r.IsOf t ∧ l.values.Perm r.values := by
  cases h with
  | same a => exact ⟨l, rfl, hl, .refl _⟩
  | bag h => exact ⟨_, rfl, ⟨hl.1, fun m hm => hl.2 m (h.mem_iff.mpr hm)⟩, h⟩

end Operand.Rearranged

/-- Any value of a bag can be the first one. -/
theorem exists_rearranged_cons {t : DataType} {b : Bag} {v : Value} (hb : b.IsOf t)
    (hv : v ∈ b.values) :
    ∃ rest, Operand.Rearranged (.bag b) (.bag ⟨t, v :: rest⟩) ∧ Bag.IsOf t ⟨t, v :: rest⟩ := by
  obtain ⟨u, vs⟩ := b
  obtain ⟨rfl, hw⟩ := hb
  obtain ⟨pre, post, rfl⟩ := List.append_of_mem hv
  have hp : (pre ++ v :: post).Perm (v :: (pre ++ post)) := List.perm_middle
  exact ⟨pre ++ post, .bag hp, rfl, fun m hm => hw m (hp.mem_iff.mpr hm)⟩

section

variable {b b' c c' : Bag} {v : Value}

theorem Bag.hasEqual_perm (h : b.values.Perm b'.values) : b.HasEqual v ↔ b'.HasEqual v := by
  simp only [HasEqual, h.mem_iff]

theorem Bag.included_perm (hb : b.values.Perm b'.values) (hc : c.values.Perm c'.values) :
    b.Included c ↔ b'.Included c' := by
  simp only [Included, hasEqual_perm hc, hb.mem_iff]

theorem SetOperation.asks_perm {op : SetOperation} (hb : b.values.Perm b'.values)
    (hc : c.values.Perm c'.values) : op.Asks b c ↔ op.Asks b' c' := by
  cases op with
  | atLeastOneMemberOf => simp only [Asks, Bag.hasEqual_perm hc, hb.mem_iff]
  | subset => exact Bag.included_perm hb hc
  | setEquals => exact and_congr (Bag.included_perm hb hc) (Bag.included_perm hc hb)
  | intersection => exact Iff.rfl
  | union => exact Iff.rfl

end

/-! ## A mixed pair in front -/

section

variable {v m : Value} {rest : List Value} (id : Identifier)

theorem halts_hasEqual_cons (ht : m.dataType = v.dataType) (hm : m.Mixed v) :
    Halts (hasEqual id v (m :: rest)) := by
  obtain ⟨e, he⟩ := (halts_equals_iff id ht).mpr hm
  rw [hasEqual, he]
  exact halts_error e

/-- All predicates of two bags begin with a search for the first value. -/
theorem halts_applySet_cons {op : SetOperation} (hop : op.returnsBag = false) {t : DataType}
    {r : Bag} (h : Halts (hasEqual id v r.values)) :
    Halts (applySet id t op [⟨t, v :: rest⟩, r]) := by
  obtain ⟨e, he⟩ := h
  refine ⟨e, ?_⟩
  cases op with
  | intersection => cases hop
  | union => cases hop
  | atLeastOneMemberOf =>
      rw [applySet, someHasEqual, he]
      rfl
  | subset =>
      rw [applySet, allHaveEqual, he]
      rfl
  | setEquals =>
      rw [applySet, allHaveEqual, he]
      rfl

end

namespace StandardFunction

/-! ## Predicates of bags -/

/-- A predicate of bags is called with arguments of its type: whether a value is in a bag, or how
two bags compare as sets. -/
inductive BagQuestion : StandardFunction → Argument → Argument → Prop
  | isIn {t : DataType} {v : Value} {b : Bag} (hv : v.dataType = t) (hb : b.IsOf t) :
      BagQuestion (.bag t .isIn) (.value v) (.bag b)
  | set {t : DataType} {op : SetOperation} {l r : Bag} (hop : op.returnsBag = false)
      (hl : l.IsOf t) (hr : r.IsOf t) : BagQuestion (.set t op) (.bag l) (.bag r)

/-- What a predicate asks of its arguments. -/
def Asks : StandardFunction → Argument → Argument → Prop
  | .bag _ .isIn, .value v, .bag b => b.HasEqual v
  | .set _ op, .bag l, .bag r => op.Asks l r
  | _, _, _ => False

section

variable {env : Surroundings} {f : StandardFunction} {a b a' b' : Argument} {t : DataType}
  {v : Value} {c : Bag}

/-- The same is asked of the arguments in any order. -/
theorem BagQuestion.rearranged (h : BagQuestion f a b) (ha : a.Rearranged a')
    (hb : b.Rearranged b') : BagQuestion f a' b' ∧ (f.Asks a b ↔ f.Asks a' b') := by
  cases h with
  | isIn hv hc =>
      obtain rfl := ha.eq_of_value
      obtain ⟨r, rfl, hr, hp⟩ := hb.exists_bag hc
      exact ⟨.isIn hv hr, Bag.hasEqual_perm hp⟩
  | set hop hl hr =>
      obtain ⟨l', rfl, hl', hpl⟩ := ha.exists_bag hl
      obtain ⟨r', rfl, hr', hpr⟩ := hb.exists_bag hr
      exact ⟨.set hop hl' hr', SetOperation.asks_perm hpl hpr⟩

theorem apply_isIn_eq (hv : v.dataType = t) (hc : c.dataType = t) :
    (Function.standard (.bag t .isIn)).apply [.value v, .bag c] env =
      (hasEqual (StandardFunction.bag t .isIn).id v c.values).map .bool := by
  have hf : (StandardFunction.bag t .isIn).IsFirstOrder := fun q h => nomatch h
  have h0 : valueAt (StandardFunction.bag t .isIn).id [.value v, .bag c] 0 t = .ok v :=
    takeValue_eq_ok_iff.mpr ⟨rfl, hv⟩
  have h1 : bagAt (StandardFunction.bag t .isIn).id [.value v, .bag c] 1 t = .ok c :=
    takeBag_eq_ok_iff.mpr ⟨rfl, hc⟩
  have hn : checkArity (StandardFunction.bag t .isIn).id (StandardFunction.bag t .isIn).arity
      [.value v, .bag c] = .ok () := checkArity_eq_ok_iff.mpr rfl
  rw [apply_eq_of_isFirstOrder hf, hn]
  show applyBag _ t .isIn _ = _
  simp only [applyBag, h0, h1, bind, Except.bind]
  cases hasEqual (StandardFunction.bag t .isIn).id v c.values <;> rfl

/-- If a predicate comes to an outcome, it is the answer to what it asks. -/
theorem BagQuestion.answer (h : BagQuestion f a b) {o : Outcome}
    (ho : (Function.standard f).apply [a, b] env = .ok o) :
    ∃ c, o = .bool c ∧ (c = true ↔ f.Asks a b) := by
  cases h with
  | isIn hv hc =>
      rw [apply_isIn_eq hv hc.1] at ho
      obtain ⟨c, he, rfl⟩ := Except.map_eq_ok_iff.mp ho
      exact ⟨c, rfl, (hasEqual_eq_ok _ he).trans Bag.hasEqual_iff.symm⟩
  | set hop hl hr =>
      have hcall := (SetOperation.call_pair_eq hl hr).symm.trans ho
      exact SetOperation.asks_of_applySet _ hop hcall

/-- A predicate comes to an outcome if it compares no mixed values. -/
theorem BagQuestion.not_halts (h : BagQuestion f a b) (hu : Unmixed a.members b.members) :
    ¬ Halts ((Function.standard f).apply [a, b] env) := by
  cases h with
  | isIn hv hc =>
      rw [apply_isIn_eq hv hc.1, halts_map_iff, hasEqual_eq_decide]
      · exact not_halts_ok _
      · exact fun m hm => (hc.dataType_of_mem hm).trans hv.symm
      · exact hu _ List.mem_cons_self
  | set hop hl hr =>
      obtain ⟨c, hc, -⟩ := SetOperation.exists_call_eq_bool _ hop hl hr hu
      exact fun ⟨e, he⟩ => nomatch hc.symm.trans he

/-- With two mixed values in front a predicate halts. -/
theorem BagQuestion.exists_halts (h : BagQuestion f a b) {v m : Value} (hv : v ∈ a.members)
    (hm : m ∈ b.members) (hmix : m.Mixed v) :
    ∃ a' b', a.Rearranged a' ∧ b.Rearranged b' ∧
      Halts ((Function.standard f).apply [a', b'] env) := by
  cases h with
  | isIn hw hc =>
      obtain rfl := List.mem_singleton.mp hv
      have ht := (hc.dataType_of_mem hm).trans hw.symm
      obtain ⟨rest, hb, -⟩ := exists_rearranged_cons hc hm
      refine ⟨_, _, .same _, hb, ?_⟩
      rw [apply_isIn_eq hw rfl, halts_map_iff]
      exact halts_hasEqual_cons _ ht hmix
  | @set t op l r hop hl hr =>
      have ht := (hr.dataType_of_mem hm).trans (hl.dataType_of_mem hv).symm
      obtain ⟨ls, ha, hl'⟩ := exists_rearranged_cons hl hv
      obtain ⟨rs, hb, hr'⟩ := exists_rearranged_cons hr hm
      refine ⟨_, _, ha, hb, ?_⟩
      have hfirst : Halts (hasEqual (StandardFunction.set t op).id v (m :: rs)) :=
        halts_hasEqual_cons _ ht hmix
      obtain ⟨e, he⟩ := halts_applySet_cons (r := ⟨t, m :: rs⟩) _ hop hfirst
      exact ⟨e, (SetOperation.call_pair_eq hl' hr').trans he⟩

/-- **One answer for all orders, or none.** Whatever the order of the values of its bags, a
predicate either comes to the answer to what it asks or halts, and there are orders in which it
halts exactly if a value of one argument is mixed with one of the other. -/
theorem BagQuestion.answer_up_to_order (env : Surroundings) (h : BagQuestion f a b) :
    ∃ c : Bool, (c = true ↔ f.Asks a b) ∧
      (∀ a' b', a.Rearranged a' → b.Rearranged b' →
        (Function.standard f).apply [a', b'] env = .ok (.bool c) ∨
          Halts ((Function.standard f).apply [a', b'] env)) ∧
      ((∃ a' b', a.Rearranged a' ∧ b.Rearranged b' ∧
          Halts ((Function.standard f).apply [a', b'] env)) ↔
        ∃ v ∈ a.members, ∃ m ∈ b.members, m.Mixed v) := by
  classical
  refine ⟨decide (f.Asks a b), decide_eq_true_iff, ?_, ?_⟩
  · intro a' b' ha hb
    obtain ⟨h', hasks⟩ := h.rearranged ha hb
    cases hr : (Function.standard f).apply [a', b'] env with
    | error e => exact .inr (halts_error e)
    | ok o =>
        obtain ⟨c, rfl, hc⟩ := h'.answer hr
        have he : c = decide (f.Asks a b) := by
          rw [Bool.eq_iff_iff, decide_eq_true_iff, hc, hasks]
        exact .inl (he ▸ rfl)
  · constructor
    · rintro ⟨a', b', ha, hb, hh⟩
      -- without mixed values no order of them makes the predicate halt
      by_contra hn
      refine (h.rearranged ha hb).1.not_halts (fun v hv m hm hmix => hn ?_) hh
      exact ⟨v, ha.members_perm.mem_iff.mpr hv, m, hb.members_perm.mem_iff.mpr hm, hmix⟩
    · rintro ⟨v, hv, m, hm, hmix⟩
      exact h.exists_halts hv hm hmix

/-- A date with a time zone is in a bag beside one without. -/
theorem BagQuestion.answer_up_to_order_of_dates :
    let zoned : Value := .date ⟨.epoch, some .utc⟩
    let day : Value := .date ⟨.epoch, none⟩
    let f : StandardFunction := .set .date .subset
    let l : Argument := .bag ⟨.date, [zoned]⟩
    let r : Argument := .bag ⟨.date, [zoned, day]⟩
    BagQuestion f l r ∧ f.Asks l r ∧ (Function.standard f).apply [l, r] .bare = .ok (.bool true) ∧
      (∀ r', r.Rearranged r' → (Function.standard f).apply [l, r'] .bare = .ok (.bool true) ∨
        Halts ((Function.standard f).apply [l, r'] .bare)) ∧
      ∃ l' r', l.Rearranged l' ∧ r.Rearranged r' ∧
        Halts ((Function.standard f).apply [l', r'] .bare) := by
  intro zoned day f l r
  have hl : Bag.IsOf .date ⟨.date, [zoned]⟩ := ⟨rfl, List.forall_mem_singleton.mpr rfl⟩
  have hr : Bag.IsOf .date ⟨.date, [zoned, day]⟩ :=
    ⟨rfl, List.forall_mem_cons.mpr ⟨rfl, List.forall_mem_singleton.mpr rfl⟩⟩
  have hq : BagQuestion f l r := .set rfl hl hr
  have hok : (Function.standard f).apply [l, r] .bare = .ok (.bool true) := rfl
  obtain ⟨c, hasks, hall, hmix⟩ := hq.answer_up_to_order .bare
  obtain rfl : c = true := by
    rcases hall l r (.same l) (.same r) with h | ⟨e, he⟩
    · cases hok.symm.trans h
      rfl
    · cases hok.symm.trans he
  refine ⟨hq, hasks.mp rfl, hok, fun r' => hall l r' (.same l), hmix.mpr ?_⟩
  exact ⟨zoned, List.mem_singleton.mpr rfl, day, List.mem_cons_of_mem _ List.mem_cons_self,
    false, rfl, rfl⟩

/-- A date with a time zone is found before one without it, and not after it. -/
theorem isIn_depends_on_order :
    let zoned : Value := .date ⟨.epoch, some .utc⟩
    let day : Value := .date ⟨.epoch, none⟩
    let f : StandardFunction := .bag .date .isIn
    BagQuestion f (.value zoned) (.bag ⟨.date, [zoned, day]⟩) ∧
      Operand.Rearranged (.bag ⟨.date, [zoned, day]⟩) (.bag ⟨.date, [day, zoned]⟩) ∧
      (Function.standard f).apply [.value zoned, .bag ⟨.date, [zoned, day]⟩] .bare =
        .ok (.bool true) ∧
      Halts ((Function.standard f).apply [.value zoned, .bag ⟨.date, [day, zoned]⟩] .bare) := by
  intro zoned day f
  have hb : Bag.IsOf .date ⟨.date, [zoned, day]⟩ :=
    ⟨rfl, List.forall_mem_cons.mpr ⟨rfl, List.forall_mem_singleton.mpr rfl⟩⟩
  exact ⟨.isIn rfl hb, .bag (.swap day zoned []), rfl, _, rfl⟩

end

end StandardFunction

end Abac
