import Mathlib.Data.List.Nodup
import Abac.Proofs.Denotation
import Abac.Proofs.Discipline

/-!
# Set functions compute sets

To the set functions a bag is the set of what its values denote. A union or an
intersection builds up its result value by value, and what holds all the way is
that the values kept so far represent those gone through (`Represents`): they are
among them, they denote the same things, and no two of them the same thing.
Keeping a value that is not represented yet and passing over one that is both
preserve this, so it holds at the end (`putDistinct_represents`).

All this supposes that any two of the values can be compared. Without that a set
function may halt instead, and no set is computed.
-/

namespace Abac

/-! ## Values that represent others -/

/-- The values `out` represent the values `vs`: each is one of them, and each thing that one of
them denotes is denoted exactly once. -/
structure Represents (out vs : List Value) : Prop where
  /-- No two values denote the same. -/
  nodup : (denotations out).Nodup
  /-- What they denote is what the others denote. -/
  mem_iff : ∀ d, d ∈ denotations out ↔ d ∈ denotations vs
  /-- They are among the others. -/
  subset : out ⊆ vs

theorem denotations_append (vs ws : List Value) :
    denotations (vs ++ ws) = denotations vs ++ denotations ws := List.map_append

namespace Represents

variable {out pre : List Value} {v : Value}

theorem nil : Represents [] [] := ⟨List.nodup_nil, fun _ => Iff.rfl, List.Subset.refl _⟩

/-- A value that is represented already is passed over. -/
theorem skip (h : Represents out pre) (hd : v.denotes ∈ denotations out) :
    Represents out (pre ++ [v]) where
  nodup := h.nodup
  mem_iff d := by
    rw [denotations_append, List.mem_append, ← h.mem_iff]
    constructor
    · exact Or.inl
    · rintro (hp | hv)
      · exact hp
      · rw [List.mem_singleton.mp hv]
        exact hd
  subset := fun _ hm => List.mem_append_left _ (h.subset hm)

/-- A value that is not represented yet is kept. -/
theorem keep (h : Represents out pre) (hd : v.denotes ∉ denotations out) :
    Represents (out ++ [v]) (pre ++ [v]) where
  nodup := by
    have hdis : List.Disjoint (denotations out) (denotations [v]) := by
      intro d ho hv
      rw [List.mem_singleton.mp hv] at ho
      exact hd ho
    rw [denotations_append]
    exact h.nodup.append (List.nodup_singleton _) hdis
  mem_iff d := by
    rw [denotations_append, denotations_append, List.mem_append, List.mem_append, h.mem_iff]
  subset := by
    intro m hm
    rcases List.mem_append.mp hm with ho | hv
    · exact List.mem_append_left _ (h.subset ho)
    · exact List.mem_append_right _ hv

end Represents

/-! ## Building up a set -/

/-- The values are of type `t`, and any two of them can be compared. -/
structure Comparable (t : DataType) (vs : List Value) : Prop where
  dataType : ∀ v ∈ vs, v.dataType = t
  unmixed : Unmixed vs vs

section

variable {t : DataType} {all out pre vs other : List Value} {v : Value} (id : Identifier)

theorem Comparable.hasEqual (h : Comparable t all) (hv : v ∈ all) (ho : out ⊆ all) :
    hasEqual id v out = .ok (decide (v.denotes ∈ denotations out)) :=
  hasEqual_eq_decide id (fun m hm => (h.dataType m (ho hm)).trans (h.dataType v hv).symm)
    fun m hm => h.unmixed v hv m (ho hm)

/-- The loop that keeps values unless an equal one is kept ends with values that represent all
that it has gone through. -/
theorem putDistinct_represents (hc : Comparable t all) (ha : pre ++ vs ⊆ all)
    (hr : Represents out pre) :
    ∃ kept, putDistinct id ⟨t, out⟩ vs = .ok ⟨t, kept⟩ ∧ Represents kept (pre ++ vs) := by
  induction vs generalizing out pre with
  | nil => exact ⟨out, rfl, (List.append_nil pre).symm ▸ hr⟩
  | cons v rest ih =>
      have hv : v ∈ all := ha (List.mem_append_right _ List.mem_cons_self)
      have ho : out ⊆ all := fun m hm => ha (List.mem_append_left _ (hr.subset hm))
      rw [List.append_cons] at ha ⊢
      rw [putDistinct, hc.hasEqual id hv ho]
      by_cases hd : v.denotes ∈ denotations out
      · rw [decide_eq_true hd]
        exact ih ha (hr.skip hd)
      · rw [decide_eq_false hd]
        simp only [put_of_dataType (hc.dataType v hv)]
        exact ih ha (hr.keep hd)

/-- The loop over shared values is the loop over all values that are. -/
theorem putShared_eq_putDistinct (hc : Comparable t all) (ho : other ⊆ all) (hv : vs ⊆ all)
    (b : Bag) : putShared id other b vs =
      putDistinct id b (vs.filter fun v => v.denotes ∈ denotations other) := by
  induction vs generalizing b with
  | nil => rfl
  | cons v rest ih =>
      obtain ⟨hv, hrest⟩ := List.cons_subset.mp hv
      rw [putShared, hc.hasEqual id hv ho, List.filter_cons]
      by_cases hd : v.denotes ∈ denotations other
      · rw [decide_eq_true hd, if_pos rfl, putDistinct]
        simp only [ih hrest]
      · rw [decide_eq_false hd, if_neg Bool.false_ne_true]
        exact ih hrest b

end

/-! ## Sets of values -/

namespace Bag

/-- What the values of a bag denote. -/
def denotations (b : Bag) : List Denotation := Abac.denotations b.values

/-- A bag has a value equal to `v`. -/
def HasEqual (b : Bag) (v : Value) : Prop := ∃ m ∈ b.values, m.equals v = .ok true

/-- Every value of a bag has an equal one in another. -/
def Included (b c : Bag) : Prop := ∀ v ∈ b.values, c.HasEqual v

/-- A bag of type `t` holds the values with a property as a set: no two of its values are equal, the
values that have an equal one in it are those with the property, and its values come from some other
bags. -/
structure IsSetOf (s : Bag) (t : DataType) (P : Value → Prop) (bags : List Bag) : Prop where
  isOf : s.IsOf t
  distinct : s.values.Pairwise fun v w => v.equals w = .ok false ∧ w.equals v = .ok false
  hasEqual : ∀ v, s.HasEqual v ↔ P v
  origin : ∀ v ∈ s.values, ∃ b ∈ bags, v ∈ b.values

theorem hasEqual_iff {b : Bag} {v : Value} : b.HasEqual v ↔ v.denotes ∈ b.denotations :=
  mem_denotations_iff.symm

theorem included_iff {b c : Bag} : b.Included c ↔ b.denotations ⊆ c.denotations := by
  simp only [Included, hasEqual_iff, denotations, Abac.denotations, List.subset_def,
    List.forall_mem_map]

theorem hasEqual_of_mem {b : Bag} {v : Value} (h : v ∈ b.values) : b.HasEqual v :=
  ⟨v, h, Value.equals_eq_true_iff.mpr rfl⟩

theorem Included.hasEqual {b c : Bag} {v : Value} (h : b.Included c) (hv : b.HasEqual v) :
    c.HasEqual v :=
  hasEqual_iff.mpr (included_iff.mp h (hasEqual_iff.mp hv))

/-- Two bags share a value up to equality exactly if one has a value with an equal in the other. -/
theorem exists_hasEqual_iff {b c : Bag} :
    (∃ v, b.HasEqual v ∧ c.HasEqual v) ↔ ∃ v ∈ b.values, c.HasEqual v := by
  constructor
  · rintro ⟨v, ⟨m, hm, he⟩, hc⟩
    have hd : m.denotes = v.denotes := Value.equals_eq_true_iff.mp he
    rw [hasEqual_iff, ← hd, ← hasEqual_iff] at hc
    exact ⟨m, hm, hc⟩
  · rintro ⟨v, hv, hc⟩
    exact ⟨v, hasEqual_of_mem hv, hc⟩

end Bag

section

variable {t : DataType} {vs out : List Value}

theorem Comparable.mono (h : Comparable t vs) (ho : out ⊆ vs) : Comparable t out :=
  ⟨fun v hv => h.dataType v (ho hv), fun v hv w hw => h.unmixed v (ho hv) w (ho hw)⟩

theorem Comparable.unmixed_append (h : Comparable t (vs ++ out)) : Unmixed vs out :=
  fun v hv w hw => h.unmixed v (List.mem_append_left _ hv) w (List.mem_append_right _ hw)

/-- Values that can be compared and do not denote the same are not equal. -/
theorem Comparable.pairwise_equals (h : Comparable t out) (hn : (denotations out).Nodup) :
    out.Pairwise fun v w => v.equals w = .ok false ∧ w.equals v = .ok false := by
  refine (List.pairwise_map.mp hn).imp_of_mem fun {v w} hv hw hne => ?_
  have ht : v.dataType = w.dataType := (h.dataType v hv).trans (h.dataType w hw).symm
  rw [Value.equals_eq_decide ht (h.unmixed w hw v hv),
    Value.equals_eq_decide ht.symm (h.unmixed v hv w hw), decide_eq_false hne,
    decide_eq_false hne.symm]
  exact ⟨rfl, rfl⟩

/-- Values that represent others are a set. -/
theorem Represents.isSetOf (h : Represents out vs) (hc : Comparable t vs) {P : Value → Prop}
    (hP : ∀ v, v.denotes ∈ denotations vs ↔ P v) {bags : List Bag}
    (hb : ∀ v ∈ vs, ∃ b ∈ bags, v ∈ b.values) : (Bag.mk t out).IsSetOf t P bags where
  isOf := ⟨rfl, (hc.mono h.subset).dataType⟩
  distinct := (hc.mono h.subset).pairwise_equals h.nodup
  hasEqual v := Bag.hasEqual_iff.trans ((h.mem_iff _).trans (hP v))
  origin v hv := hb v (h.subset hv)

end

/-! ## What the predicates ask -/

namespace SetOperation

/-- What a set function asks of two bags; those that build a bag ask nothing. -/
def Asks : SetOperation → Bag → Bag → Prop
  | .atLeastOneMemberOf, l, r => ∃ v ∈ l.values, r.HasEqual v
  | .subset, l, r => l.Included r
  | .setEquals, l, r => l.Included r ∧ r.Included l
  | .intersection, _, _ => False
  | .union, _, _ => False

section

variable {op : SetOperation} {t : DataType} {l r : Bag} {o : Outcome} (id : Identifier)

/-- If a predicate comes to an outcome, it is the answer to what it asks. -/
theorem asks_of_applySet (hop : op.returnsBag = false) (h : applySet id t op [l, r] = .ok o) :
    ∃ b, o = .bool b ∧ (b = true ↔ op.Asks l r) := by
  cases op with
  | intersection => cases hop
  | union => cases hop
  | atLeastOneMemberOf =>
      obtain ⟨b, hb, rfl⟩ := Except.map_eq_ok_iff.mp h
      refine ⟨b, rfl, (someHasEqual_eq_ok id hb).trans ?_⟩
      simp [Asks, Bag.hasEqual_iff, Bag.denotations, denotations]
  | subset =>
      obtain ⟨b, hb, rfl⟩ := Except.map_eq_ok_iff.mp h
      exact ⟨b, rfl, (allHaveEqual_eq_ok id hb).trans Bag.included_iff.symm⟩
  | setEquals =>
      obtain ⟨b, hb, h⟩ := Except.bind_eq_ok_iff.mp h
      have hlr := (allHaveEqual_eq_ok id hb).trans Bag.included_iff.symm
      cases b with
      | false =>
          cases h
          exact ⟨false, rfl, iff_of_false Bool.false_ne_true fun ha =>
            Bool.false_ne_true (hlr.mpr ha.1)⟩
      | true =>
          obtain ⟨c, hc, h⟩ := Except.bind_eq_ok_iff.mp h
          have hrl := (allHaveEqual_eq_ok id hc).trans Bag.included_iff.symm
          cases h
          exact ⟨c, rfl, hrl.trans (and_iff_right (hlr.mp rfl)).symm⟩

/-- A predicate comes to an outcome on bags that nowhere mix. -/
theorem not_halts_applySet (hop : op.returnsBag = false) (hl : l.IsOf t) (hr : r.IsOf t)
    (hu : Unmixed l.values r.values) : ¬ Halts (applySet id t op [l, r]) := by
  have hlt : ∀ v ∈ l.values, v.dataType = t := fun v => hl.dataType_of_mem
  have hrt : ∀ v ∈ r.values, v.dataType = t := fun v => hr.dataType_of_mem
  cases op with
  | intersection => cases hop
  | union => cases hop
  | atLeastOneMemberOf =>
      rw [applySet, halts_map_iff]
      exact not_halts_someHasEqual id hrt hlt hu
  | subset =>
      rw [applySet, halts_map_iff]
      exact not_halts_allHaveEqual id hrt hlt hu
  | setEquals =>
      obtain ⟨b, hb⟩ := not_halts_iff.mp (not_halts_allHaveEqual id hrt hlt hu)
      obtain ⟨c, hc⟩ := not_halts_iff.mp (not_halts_allHaveEqual id hlt hrt hu.symm)
      rw [applySet, hb]
      cases b with
      | false => exact not_halts_ok _
      | true =>
          show ¬ Halts (allHaveEqual id l.values r.values >>= fun c => pure (Outcome.bool c))
          rw [hc]
          exact not_halts_ok _

end

/-! ## Calls with bags -/

/-- The call of a set function with bags. -/
def call (env : Surroundings) (op : SetOperation) (t : DataType) (bags : List Bag) :
    Except Halt Outcome :=
  (Function.standard (.set t op)).apply (bags.map .bag) env

section

variable {env : Surroundings} {op : SetOperation} {t : DataType} {bags more : List Bag} {l r : Bag}

theorem call_eq (hb : ∀ b ∈ bags, b.dataType = t)
    (hn : (StandardFunction.set t op).arity.accepts bags.length = true) :
    op.call env t bags = applySet (StandardFunction.set t op).id t op bags := by
  have ht : takeBags (StandardFunction.set t op).id t 0 (bags.map .bag) = .ok bags :=
    takeBags_eq_ok_iff.mpr ⟨rfl, hb⟩
  have ha : checkArity (StandardFunction.set t op).id (StandardFunction.set t op).arity
      (bags.map .bag) = .ok () := by
    rwa [StandardFunction.checkArity_eq_ok_iff, List.length_map]
  have hf : (StandardFunction.set t op).IsFirstOrder := fun q h => nomatch h
  rw [call, StandardFunction.apply_eq_of_isFirstOrder hf, ha]
  show (takeBags _ t 0 _ >>= _) = _
  rw [ht]
  rfl

theorem call_pair_eq (hl : l.IsOf t) (hr : r.IsOf t) :
    op.call env t [l, r] = applySet (StandardFunction.set t op).id t op [l, r] := by
  refine call_eq (List.forall_mem_cons.mpr ⟨hl.1, List.forall_mem_singleton.mpr hr.1⟩) ?_
  cases op <;> rfl

/-- A predicate answers what it asks of bags that nowhere mix. -/
theorem exists_call_eq_bool (op : SetOperation) (hop : op.returnsBag = false) (hl : l.IsOf t)
    (hr : r.IsOf t) (hu : Unmixed l.values r.values) :
    ∃ b, op.call env t [l, r] = .ok (.bool b) ∧ (b = true ↔ op.Asks l r) := by
  rw [call_pair_eq hl hr]
  obtain ⟨o, ho⟩ := not_halts_iff.mp (not_halts_applySet _ hop hl hr hu)
  obtain ⟨b, rfl, hb⟩ := asks_of_applySet _ hop ho
  exact ⟨b, ho, hb⟩

/-- The values of bags of one type can be compared if they nowhere mix. -/
theorem comparable_of_bags (hb : ∀ b ∈ bags, b.IsOf t)
    (hu : Unmixed (bags.flatMap Bag.values) (bags.flatMap Bag.values)) :
    Comparable t (bags.flatMap Bag.values) := by
  refine ⟨fun v hv => ?_, hu⟩
  obtain ⟨b, hm, hv⟩ := List.mem_flatMap.mp hv
  exact (hb b hm).dataType_of_mem hv

/-- The union of bags is the set of the values that have an equal one in some of them. -/
theorem exists_union (hb : ∀ b ∈ l :: r :: more, b.IsOf t)
    (hu : Unmixed ((l :: r :: more).flatMap Bag.values) ((l :: r :: more).flatMap Bag.values)) :
    ∃ u, union.call env t (l :: r :: more) = .ok (.bag u) ∧
      u.IsSetOf t (fun v => ∃ b ∈ l :: r :: more, b.HasEqual v) (l :: r :: more) := by
  have hc := comparable_of_bags hb hu
  generalize hall : (l :: r :: more).flatMap Bag.values = vs at hc
  obtain ⟨kept, hk, hr⟩ := putDistinct_represents (StandardFunction.set t union).id hc
    (List.Subset.refl _) Represents.nil
  refine ⟨⟨t, kept⟩, ?_, hr.isSetOf hc (fun v => ?_) fun v hv => ?_⟩
  · rw [call_eq (fun b hm => (hb b hm).1) (by simp [StandardFunction.arity, Arity.accepts])]
    show (putAllDistinct _ (Bag.empty t) (l :: r :: more)).map _ = _
    rw [putAllDistinct_eq, hall]
    show (putDistinct _ ⟨t, []⟩ vs).map _ = _
    rw [hk]
    rfl
  · rw [List.nil_append, mem_denotations_iff, ← hall]
    simp only [List.mem_flatMap, Bag.HasEqual]
    constructor
    · rintro ⟨m, ⟨b, hb, hm⟩, he⟩
      exact ⟨b, hb, m, hm, he⟩
    · rintro ⟨b, hb, m, hm, he⟩
      exact ⟨m, ⟨b, hb, hm⟩, he⟩
  · rw [List.nil_append, ← hall] at hv
    exact List.mem_flatMap.mp hv

/-- The intersection of two bags is the set of the values that have an equal one in both. -/
theorem exists_intersection (hl : l.IsOf t) (hr : r.IsOf t)
    (hc : Comparable t (l.values ++ r.values)) :
    ∃ i, intersection.call env t [l, r] = .ok (.bag i) ∧
      i.IsSetOf t (fun v => l.HasEqual v ∧ r.HasEqual v) [l, r] := by
  let shared := l.values.filter fun v => v.denotes ∈ denotations r.values
  have hsub : shared ⊆ l.values := List.filter_subset_self _
  have hs : Comparable t shared := hc.mono fun v hv => List.mem_append_left _ (hsub hv)
  obtain ⟨kept, hk, hrep⟩ := putDistinct_represents (StandardFunction.set t intersection).id hs
    (List.Subset.refl _) Represents.nil
  refine ⟨⟨t, kept⟩, ?_, hrep.isSetOf hs (fun v => ?_) fun v hv => ?_⟩
  · have hput := putShared_eq_putDistinct (StandardFunction.set t intersection).id hc
      (List.subset_append_right _ _) (List.subset_append_left _ _) (Bag.empty t)
    rw [call_pair_eq hl hr]
    show (putShared _ r.values (Bag.empty t) l.values).map _ = _
    rw [hput]
    show (putDistinct _ ⟨t, []⟩ shared).map _ = _
    rw [hk]
    rfl
  · rw [Bag.hasEqual_iff, Bag.hasEqual_iff]
    -- whether a value is shared depends on what it denotes only
    have hd : ∀ d, d ∈ denotations shared ↔ d ∈ l.denotations ∧ d ∈ r.denotations := by
      intro d
      simp only [shared, denotations, Bag.denotations, List.mem_map, List.mem_filter,
        decide_eq_true_iff]
      constructor
      · rintro ⟨v, ⟨hv, hr⟩, rfl⟩
        exact ⟨⟨v, hv, rfl⟩, hr⟩
      · rintro ⟨⟨v, hv, rfl⟩, hr⟩
        exact ⟨v, ⟨hv, hr⟩, rfl⟩
    exact hd v.denotes
  · exact ⟨l, List.mem_cons_self, hsub hv⟩

end

end SetOperation

/-! ## Sets computed from bags -/

namespace Bag.IsSetOf

variable {s c : Bag} {t : DataType} {P : Value → Prop} {bags : List Bag} (h : s.IsSetOf t P bags)

include h

/-- A set is empty if there is nothing with its property. -/
theorem isEmpty_eq_false_iff : s.isEmpty = false ↔ ∃ v, P v := by
  rw [Bag.isEmpty, List.isEmpty_eq_false_iff_exists_mem]
  constructor
  · rintro ⟨v, hv⟩
    exact ⟨v, (h.hasEqual v).mp (Bag.hasEqual_of_mem hv)⟩
  · rintro ⟨v, hv⟩
    obtain ⟨m, hm, -⟩ := (h.hasEqual v).mpr hv
    exact ⟨m, hm⟩

/-- A set is included in a bag that has an equal of everything with its property. -/
theorem included_iff : s.Included c ↔ ∀ v, P v → c.HasEqual v := by
  constructor
  · intro hi v hv
    exact hi.hasEqual ((h.hasEqual v).mpr hv)
  · intro hp v hv
    exact hp v ((h.hasEqual v).mp (Bag.hasEqual_of_mem hv))

end Bag.IsSetOf

/-- The union with a bag is the same set as the bag exactly if the other bag adds nothing to it. -/
theorem Bag.IsSetOf.same_union_iff {u left right : Bag} {t : DataType} {bags : List Bag}
    (h : u.IsSetOf t (fun v => ∃ b ∈ [left, right], b.HasEqual v) bags) :
    u.Included right ∧ right.Included u ↔ left.Included right := by
  constructor
  · rintro ⟨hi, -⟩ v hv
    exact h.included_iff.mp hi v ⟨left, List.mem_cons_self, Bag.hasEqual_of_mem hv⟩
  · intro hi
    have hright : right ∈ [left, right] := List.mem_cons_of_mem _ List.mem_cons_self
    constructor
    · refine h.included_iff.mpr ?_
      rintro v ⟨b, hb, hv⟩
      rcases List.mem_pair.mp hb with rfl | rfl
      · exact hi.hasEqual hv
      · exact hv
    · intro v hv
      exact (h.hasEqual v).mpr ⟨right, hright, Bag.hasEqual_of_mem hv⟩

namespace SetOperation

variable {env : Surroundings} {t : DataType} {left right : Bag} {more : List Bag}

/-- Two bags share a value exactly if their intersection is not empty. -/
theorem call_atLeastOneMemberOf_eq (hl : left.IsOf t) (hr : right.IsOf t)
    (hu : Unmixed left.values right.values) {i : Bag} {bags : List Bag}
    (hi : i.IsSetOf t (fun v => left.HasEqual v ∧ right.HasEqual v) bags) :
    atLeastOneMemberOf.call env t [left, right] = .ok (.bool !i.isEmpty) := by
  obtain ⟨a, ha, hasks⟩ := exists_call_eq_bool .atLeastOneMemberOf rfl hl hr hu
  have hia : a = true ↔ i.isEmpty = false :=
    hasks.trans (Bag.exists_hasEqual_iff.symm.trans hi.isEmpty_eq_false_iff.symm)
  have hnot : a = !i.isEmpty := by
    rw [Bool.eq_iff_iff, Bool.not_eq_true', hia]
  rw [ha, hnot]

/-- A bag is a subset of another exactly if their union equals the other. -/
theorem call_setEquals_union_eq (hl : left.IsOf t) (hr : right.IsOf t)
    (hc : Comparable t (left.values ++ right.values)) {u : Bag}
    (hset : u.IsSetOf t (fun v => ∃ b ∈ [left, right], b.HasEqual v) [left, right]) :
    setEquals.call env t [u, right] = subset.call env t [left, right] := by
  have hlr : Unmixed left.values right.values := hc.unmixed_append
  -- nothing in the union is new, so it can be compared with the second bag
  have hur : Unmixed u.values right.values := by
    intro v hv w hw
    refine hc.unmixed v ?_ w (List.mem_append_right _ hw)
    obtain ⟨b, hb, hv⟩ := hset.origin v hv
    rcases List.mem_pair.mp hb with rfl | rfl
    · exact List.mem_append_left _ hv
    · exact List.mem_append_right _ hv
  obtain ⟨s, hs, hsub⟩ := exists_call_eq_bool .subset rfl hl hr hlr
  obtain ⟨c, hcall, hsame⟩ := exists_call_eq_bool .setEquals rfl hset.isOf hr hur
  have hcs : c = s := by
    rw [Bool.eq_iff_iff, hsub, hsame]
    exact hset.same_union_iff
  rw [hcall, hcs, hs]

/-- **The set functions compute sets.** Among the values of the bags no zoned one occurs with one
that is not. Then all calls come to outcomes. A union or intersection is a bag without equal values
that come from the arguments, and a value has an equal one in it exactly if it has one in some of
the arguments, or in both. The predicates answer accordingly: whether all values of a bag have an
equal in the other, whether that is so both ways, whether the intersection is not empty. One bag is
a subset of another exactly if their union is the same set as the other. -/
theorem computes_sets (env : Surroundings) (hb : ∀ b ∈ left :: right :: more, b.IsOf t)
    (hu : Unmixed ((left :: right :: more).flatMap Bag.values)
      ((left :: right :: more).flatMap Bag.values)) :
    (∃ u, union.call env t (left :: right :: more) = .ok (.bag u) ∧
      u.IsSetOf t (fun v => ∃ b ∈ left :: right :: more, b.HasEqual v) (left :: right :: more)) ∧
    (∃ i, intersection.call env t [left, right] = .ok (.bag i) ∧
      i.IsSetOf t (fun v => left.HasEqual v ∧ right.HasEqual v) [left, right] ∧
      atLeastOneMemberOf.call env t [left, right] = .ok (.bool !i.isEmpty)) ∧
    ∃ s s' u, subset.call env t [left, right] = .ok (.bool s) ∧ (s = true ↔ left.Included right) ∧
      subset.call env t [right, left] = .ok (.bool s') ∧ (s' = true ↔ right.Included left) ∧
      setEquals.call env t [left, right] = .ok (.bool (s && s')) ∧
      union.call env t [left, right] = .ok (.bag u) ∧
      setEquals.call env t [u, right] = .ok (.bool s) := by
  have hl : left.IsOf t := hb left List.mem_cons_self
  have hr : right.IsOf t := hb right (List.mem_cons_of_mem _ List.mem_cons_self)
  have hc : Comparable t (left.values ++ right.values) := by
    refine (comparable_of_bags hb hu).mono ?_
    rw [List.flatMap_cons, List.flatMap_cons, ← List.append_assoc]
    exact List.subset_append_left _ _
  have hlr : Unmixed left.values right.values := hc.unmixed_append
  have hpair : ∀ b ∈ [left, right], b.IsOf t :=
    List.forall_mem_cons.mpr ⟨hl, List.forall_mem_singleton.mpr hr⟩
  have hvalues : [left, right].flatMap Bag.values = left.values ++ right.values := by simp
  obtain ⟨i, hi, hiset⟩ := exists_intersection hl hr hc
  obtain ⟨u, hunion, huset⟩ := exists_union hpair (hvalues ▸ hc.unmixed)
  obtain ⟨s, hs, hsub⟩ := exists_call_eq_bool .subset rfl hl hr hlr
  obtain ⟨s', hs', hsup⟩ := exists_call_eq_bool .subset rfl hr hl hlr.symm
  obtain ⟨e, he, hboth⟩ := exists_call_eq_bool .setEquals rfl hl hr hlr
  have hes : e = (s && s') := by
    rw [Bool.eq_iff_iff, Bool.and_eq_true, hsub, hsup]
    exact hboth
  exact ⟨exists_union hb hu, ⟨i, hi, hiset, call_atLeastOneMemberOf_eq hl hr hlr hiset⟩,
    s, s', u, hs, hsub, hs', hsup, hes ▸ he, hunion,
    (call_setEquals_union_eq hl hr hc huset).trans hs⟩

/-- Noon by universal time is two in the afternoon further east. -/
theorem computes_sets_of_instants :
    let noon : Value := .dateTime ⟨(.epoch, ⟨12, 0, 0, 0, by decide⟩), some .utc⟩
    let east : Value := .dateTime ⟨(.epoch, ⟨14, 0, 0, 0, by decide⟩), some ⟨120⟩⟩
    let evening : Value := .dateTime ⟨(.epoch, ⟨18, 0, 0, 0, by decide⟩), some .utc⟩
    let left : Bag := ⟨.dateTime, [noon, east, evening]⟩
    let right : Bag := ⟨.dateTime, [east, east]⟩
    let third : Bag := ⟨.dateTime, [evening]⟩
    let bags := [left, right, third]
    (∀ b ∈ bags, b.IsOf .dateTime) ∧ Unmixed (bags.flatMap Bag.values) (bags.flatMap Bag.values) ∧
      union.call .bare .dateTime bags = .ok (.bag ⟨.dateTime, [noon, evening]⟩) ∧
      Bag.IsSetOf ⟨.dateTime, [noon, evening]⟩ .dateTime (fun v => ∃ b ∈ bags, b.HasEqual v) bags ∧
      intersection.call .bare .dateTime [left, right] = .ok (.bag ⟨.dateTime, [noon]⟩) ∧
      subset.call .bare .dateTime [left, right] = .ok (.bool false) ∧ ¬ left.Included right ∧
      subset.call .bare .dateTime [right, left] = .ok (.bool true) ∧ right.Included left := by
  intro noon east evening left right third bags
  have hb : ∀ b ∈ bags, b.IsOf .dateTime := by
    simp [bags, left, right, third, noon, east, evening, Bag.IsOf, Bag.WellTyped, Value.dataType]
  have hu : Unmixed (bags.flatMap Bag.values) (bags.flatMap Bag.values) := by
    simp [Unmixed, bags, left, right, third, noon, east, evening, Value.Mixed, Value.zoned?]
  have hunion : union.call .bare .dateTime bags = .ok (.bag ⟨.dateTime, [noon, evening]⟩) := rfl
  have hsub : subset.call .bare .dateTime [left, right] = .ok (.bool false) := rfl
  have hsup : subset.call .bare .dateTime [right, left] = .ok (.bool true) := rfl
  obtain ⟨⟨u, hcall, hset⟩, -, s, s', -, hs, hlr, hs', hrl, -⟩ := computes_sets .bare hb hu
  cases hunion.symm.trans hcall
  cases hsub.symm.trans hs
  cases hsup.symm.trans hs'
  exact ⟨hb, hu, hunion, hset, rfl, hsub, fun h => Bool.false_ne_true (hlr.mpr h), hsup,
    hrl.mp rfl⟩

end SetOperation

end Abac
