import Mathlib.Algebra.Group.Int.Defs
import Mathlib.Algebra.Group.Nat.Defs
import Mathlib.Logic.Basic
import Abac.Proofs.Denotation
import Abac.Proofs.Discipline

/-!
# The orders behind the comparison functions

Each of the six ordered types has four functions that compare two of its values
and one that finds them equal. They do not go the same way: the four look at the
order of the values, and equality looks at it only for points of the time line and
at the parts of the values otherwise. That they never contradict each other is
shown here in three steps.

* The values of an ordered type lie in one order, which is total up to equality
  (`Ranking`). A value is ranked by its integer, by the key of its double, by its
  text or by its point of time, and two values compare as their ranks do unless
  one of them has a time zone and the other has none.
* Equality is the same question put to that order (`Value.equals_eq_map_compare`).
* So all five functions are questions about one ordering of two ranks
  (`OrderQuestion`), and whatever is to be proved of them together is a fact about
  orderings.

Doubles are ordered by their bits: with all bits but the sign flipped in negative
numbers they are compared as signed integers (`Double.totalCmp`). That is what the
order of their keys comes to (`Double.cmp_eq_totalCmp`).
-/

namespace Abac

/-! ## Doubles -/

namespace Double

/-- The bits as a signed integer, after all but the sign are flipped in a negative number. -/
def signedKey (d : Double) : Int64 :=
  (if d.isNegative then d.bits ^^^ 0x7FFFFFFFFFFFFFFF else d.bits).toInt64

/-- The total order of doubles by their bits. -/
def totalCmp (a b : Double) : Ordering := compare a.signedKey.toInt b.signedKey.toInt

/-- Flipping all bits but the highest turns the others into their complement. -/
theorem xor_lowBits {n : Nat} (h : 2 ^ 63 ≤ n) (h' : n < 2 ^ 64) :
    n ^^^ (2 ^ 63 - 1) = 2 ^ 63 + (2 ^ 64 - 1 - n) := by
  obtain ⟨m, rfl⟩ := Nat.exists_eq_add_of_le h
  have hm : m < 2 ^ 63 := by omega
  rw [show 2 ^ 64 - 1 - (2 ^ 63 + m) = 2 ^ 63 - (m + 1) by omega]
  apply Nat.eq_of_testBit_eq
  intro i
  rw [Nat.testBit_xor, Nat.testBit_two_pow_sub_one]
  rcases Nat.lt_trichotomy i 63 with hi | rfl | hi
  · rw [Nat.testBit_two_pow_add_gt hi, Nat.testBit_two_pow_add_gt hi,
      Nat.testBit_two_pow_sub_succ hm]
    simp [hi]
  · rw [Nat.testBit_two_pow_add_eq, Nat.testBit_two_pow_add_eq, Nat.testBit_two_pow_sub_succ hm,
      Nat.testBit_lt_two_pow hm]
    simp
  · have hpow : 2 ^ 64 ≤ 2 ^ i := Nat.pow_le_pow_right (by decide) hi
    rw [Nat.testBit_lt_two_pow (by omega), Nat.testBit_lt_two_pow (by omega)]
    simp
    omega

theorem toInt_toInt64 (x : UInt64) :
    x.toInt64.toInt = if x.toNat < 2 ^ 63 then (x.toNat : Int) else x.toNat - 2 ^ 64 := by
  show x.toBitVec.toInt = _
  rw [BitVec.toInt_eq_toNat_cond]
  simp only [UInt64.toNat_toBitVec]
  split <;> split <;> omega

theorem isNegative_iff {d : Double} : d.isNegative = true ↔ 2 ^ 63 ≤ d.bits.toNat := by
  unfold isNegative
  rw [decide_eq_true_iff, ge_iff_le, UInt64.le_iff_toNat_le]
  rfl

theorem orderKey_eq_signedKey (d : Double) : d.orderKey = d.signedKey.toInt := by
  have hlt := d.bits.toNat_lt
  unfold orderKey signedKey
  rw [toInt_toInt64]
  by_cases h : d.isNegative = true
  · have hbits := isNegative_iff.mp h
    have hflip : (d.bits ^^^ 0x7FFFFFFFFFFFFFFF).toNat = 2 ^ 63 + (2 ^ 64 - 1 - d.bits.toNat) := by
      rw [UInt64.toNat_xor]
      exact xor_lowBits hbits hlt
    rw [if_pos h, if_pos h, hflip, magnitude]
    omega
  · have hbits := isNegative_iff.not.mp h
    rw [if_neg h, if_neg h, magnitude]
    omega

/-- **Doubles are ordered by their bits.** -/
theorem cmp_eq_totalCmp (a b : Double) : a.cmp b = totalCmp a b := by
  rw [cmp, totalCmp, orderKey_eq_signedKey, orderKey_eq_signedKey]

end Double

/-! ## Orders of values -/

instance : Std.TransCmp Double.cmp := inferInstanceAs (Std.TransCmp (compareOn Double.orderKey))

instance : Std.TransCmp Point.cmp :=
  inferInstanceAs (Std.TransCmp (compareLex (compareOn Point.day)
    (compareLex (compareOn Point.second) (compareOn Point.nanos))))

namespace Value

/-- The double, if the value is one. -/
def double? : Value → Option Double
  | .double d => some d
  | _ => none

/-- The local time that a value stands for, if it is a date, a time or an instant: a date for its
midnight, a time for that time on one fixed day. -/
def localTime? : Value → Option DateTime
  | .date d => some ⟨(d.wall, .midnight), d.offset⟩
  | .time t => some ⟨(.epoch, t.wall), t.offset⟩
  | .dateTime d => some d
  | _ => none

/-- A value has a time zone if its local time has one. -/
theorem zoned?_eq (v : Value) : v.zoned? = v.localTime?.map fun a => a.offset.isSome := by
  cases v <;> rfl

/-- Values of one type that stand for local times compare as these do. -/
theorem compare_of_localTime? {v w : Value} {a b : DateTime} (h : v.dataType = w.dataType)
    (hv : v.localTime? = some a) (hw : w.localTime? = some b) :
    v.compare w = ofZoned (DateTime.cmp? a b) := by
  cases v with
  | date d =>
      cases w with
      | date d' =>
          cases hv
          cases hw
          rfl
      | _ => cases h
  | time d =>
      cases w with
      | time d' =>
          cases hv
          cases hw
          rfl
      | _ => cases h
  | dateTime d =>
      cases w with
      | dateTime d' =>
          cases hv
          cases hw
          rfl
      | _ => cases h
  | _ => cases hv

/-- Points of the time line are compared on one time line or not at all. -/
theorem ofZoned_cmpZoned (a b : Zoned Point) :
    ofZoned (Temporal.cmpZoned a b) =
      if a.offset.isSome = b.offset.isSome then
        .ok ((Temporal.instant a).cmp (Temporal.instant b))
      else .error .zoneMismatch := by
  obtain ⟨p, o⟩ := a
  obtain ⟨q, o'⟩ := b
  cases o <;> cases o' <;> rfl

/-- Values of one type are mixed if they do not agree on having a time zone. -/
theorem not_mixed_iff {v w : Value} (h : v.dataType = w.dataType) :
    ¬ v.Mixed w ↔ v.zoned? = w.zoned? := by
  have hz : ∀ y z : Bool, ¬ z = !y ↔ some y = some z := by decide
  cases v with
  | date a =>
      cases w with
      | date b => exact (mixed_iff_of_zoned rfl rfl).not.trans (hz _ _)
      | _ => cases h
  | time a =>
      cases w with
      | time b => exact (mixed_iff_of_zoned rfl rfl).not.trans (hz _ _)
      | _ => cases h
  | dateTime a =>
      cases w with
      | dateTime b => exact (mixed_iff_of_zoned rfl rfl).not.trans (hz _ _)
      | _ => cases h
  | _ => cases w <;> first | (cases h; done) | exact iff_of_true (not_mixed_of_none rfl) rfl

/-- Equality asks whether the order finds no difference. -/
theorem equals_eq_map_compare {v w : Value} (ht : v.dataType ∈ StandardFunction.orderedTypes)
    (h : v.dataType = w.dataType) : v.equals w = (v.compare w).map (· == .eq) := by
  rw [equals, if_pos h]
  cases v with
  | date a => rfl
  | time a => rfl
  | dateTime a => rfl
  | integer a =>
      cases w with
      | integer b =>
          refine congrArg Except.ok (Bool.eq_iff_iff.mpr ?_)
          show (a == b) = true ↔ (Ord.compare a.toInt b.toInt == .eq) = true
          rw [beq_iff_eq, beq_iff_eq, Std.LawfulEqCmp.compare_eq_iff_eq, Int64.toInt_inj]
      | _ => cases h
  | double a =>
      cases w with
      | double b => rfl
      | _ => cases h
  | string a =>
      cases w with
      | string b =>
          refine congrArg Except.ok (Bool.eq_iff_iff.mpr ?_)
          show (a == b) = true ↔ (Ord.compare a b == .eq) = true
          rw [beq_iff_eq, beq_iff_eq, Std.LawfulEqCmp.compare_eq_iff_eq]
      | _ => cases h
  | _ =>
      cases ht
      contradiction

end Value

/-- The order in which the values of a type lie. -/
structure Ranking (t : DataType) where
  /-- What the values are ranked by. -/
  Rank : Type
  /-- How ranks compare. -/
  cmp : Rank → Rank → Ordering
  /-- Ranks are totally ordered, up to those that compare as equal. -/
  trans : Std.TransCmp cmp
  /-- The rank of a value of the type. -/
  rank : Value → Rank
  /-- Values on one time line compare as their ranks do. -/
  compare_of_unmixed : ∀ {v w : Value}, v.dataType = t → w.dataType = t → ¬ v.Mixed w →
    v.compare w = .ok (cmp (rank v) (rank w))
  /-- Other values do not compare. -/
  compare_of_mixed : ∀ {v w : Value}, v.dataType = t → w.dataType = t → v.Mixed w →
    v.compare w = .error .zoneMismatch

namespace Ranking

/-- The order of a type without time zones. -/
def ofUnzoned {t : DataType} {κ : Type} (cmp : κ → κ → Ordering) [Std.TransCmp cmp]
    (rank : Value → κ) (h : ∀ v w : Value, v.dataType = t → w.dataType = t →
      v.zoned? = none ∧ v.compare w = .ok (cmp (rank v) (rank w))) : Ranking t where
  Rank := κ
  cmp := cmp
  trans := inferInstance
  rank := rank
  compare_of_unmixed hv hw _ := (h _ _ hv hw).2
  compare_of_mixed hv hw hm := absurd hm (Value.not_mixed_of_none (h _ _ hv hw).1)

/-- The rank of a value that stands for a local time: its point of the time line. -/
def pointOf (v : Value) : Point :=
  match v.localTime? with
  | some a => Temporal.instant (DateTime.point a)
  | none => ⟨0, 0, 0⟩

/-- The order of a type whose values stand for local times. -/
def ofZoned {t : DataType} (h : ∀ v : Value, v.dataType = t → ∃ a, v.localTime? = some a) :
    Ranking t where
  Rank := Point
  cmp := Point.cmp
  trans := inferInstance
  rank := pointOf
  compare_of_unmixed {v w} hv hw hm := by
    obtain ⟨a, ha⟩ := h v hv
    obtain ⟨b, hb⟩ := h w hw
    rw [Value.not_mixed_iff (hv.trans hw.symm), v.zoned?_eq, w.zoned?_eq, ha, hb] at hm
    rw [Value.compare_of_localTime? (hv.trans hw.symm) ha hb, DateTime.cmp?, Value.ofZoned_cmpZoned,
      pointOf, pointOf, ha, hb]
    exact if_pos (Option.some.inj hm)
  compare_of_mixed {v w} hv hw hm := by
    obtain ⟨a, ha⟩ := h v hv
    obtain ⟨b, hb⟩ := h w hw
    rw [Value.compare_of_localTime? (hv.trans hw.symm) ha hb, DateTime.cmp?, Value.ofZoned_cmpZoned]
    refine if_neg fun he => ?_
    refine (Value.not_mixed_iff (hv.trans hw.symm)).mpr ?_ hm
    rw [v.zoned?_eq, w.zoned?_eq, ha, hb]
    exact congrArg some he

end Ranking

/-- **Every ordered type has its order.** -/
theorem nonempty_ranking {t : DataType} (ht : t ∈ StandardFunction.orderedTypes) :
    Nonempty (Ranking t) := by
  cases t with
  | integer =>
      refine ⟨.ofUnzoned Ord.compare (fun v => (v.integer?.getD 0).toInt) fun v w hv hw => ?_⟩
      cases v <;> cases hv
      cases w <;> cases hw
      exact ⟨rfl, rfl⟩
  | double =>
      refine ⟨.ofUnzoned Double.cmp (fun v => v.double?.getD .nan) fun v w hv hw => ?_⟩
      cases v <;> cases hv
      cases w <;> cases hw
      exact ⟨rfl, rfl⟩
  | string =>
      refine ⟨.ofUnzoned Ord.compare (fun v => v.text?.getD "") fun v w hv hw => ?_⟩
      cases v <;> cases hv
      cases w <;> cases hw
      exact ⟨rfl, rfl⟩
  | date => exact ⟨.ofZoned fun v hv => by cases v <;> cases hv; exact ⟨_, rfl⟩⟩
  | time => exact ⟨.ofZoned fun v hv => by cases v <;> cases hv; exact ⟨_, rfl⟩⟩
  | dateTime => exact ⟨.ofZoned fun v hv => by cases v <;> cases hv; exact ⟨_, rfl⟩⟩
  | _ => exact absurd ht (by decide)

namespace StandardFunction

/-! ## Questions about an order -/

/-- The call of a function with two values. -/
def ask (env : Surroundings) (f : StandardFunction) (v w : Value) : Except Halt Outcome :=
  (Function.standard f).apply [.value v, .value w] env

/-- A function asks a question about the order of two values of a type: whether they are equal, or
one of the four comparisons. -/
inductive OrderQuestion (t : DataType) : StandardFunction → (Ordering → Bool) → Prop
  | equal : OrderQuestion t (.equal t) (· == .eq)
  | compare (op : Comparison) : OrderQuestion t (.compare t op) op.holds

section

variable {env : Surroundings} {t u : DataType} {f : StandardFunction} {p : Ordering → Bool}
  {v w : Value}

/-- A function of two values takes them both before it computes. -/
theorem ask_eq (hf : f.IsFirstOrder) (ha : f.arity = .exactly 2) (hv : v.dataType = t)
    (hw : w.dataType = u) :
    f.ask env v w = f.applyFirstOrder env.patterns [.value v, .value w] ∧
      valueAt f.id [.value v, .value w] 0 t = .ok v ∧
      valueAt f.id [.value v, .value w] 1 u = .ok w := by
  have hn : checkArity f.id f.arity [.value v, .value w] = .ok () :=
    checkArity_eq_ok_iff.mpr (by rw [ha]; rfl)
  refine ⟨?_, takeValue_eq_ok_iff.mpr ⟨rfl, hv⟩, takeValue_eq_ok_iff.mpr ⟨rfl, hw⟩⟩
  rw [ask, apply_eq_of_isFirstOrder hf, hn]
  rfl

/-- All five functions put their question to the order of the two values. -/
theorem OrderQuestion.ask_eq (h : OrderQuestion t f p) (ht : t ∈ orderedTypes)
    (hv : v.dataType = t) (hw : w.dataType = t) :
    f.ask env v w = (compared f.id (v.compare w)).map fun o => .bool (p o) := by
  cases h with
  | equal =>
      have hf : (StandardFunction.equal t).IsFirstOrder := fun _ h => nomatch h
      obtain ⟨hask, h0, h1⟩ := StandardFunction.ask_eq hf rfl hv hw
      have he : v.equals w = (v.compare w).map (· == .eq) :=
        Value.equals_eq_map_compare (hv ▸ ht) (hv.trans hw.symm)
      rw [hask]
      simp only [applyFirstOrder, applyEqual, h0, h1, he, bind, Except.bind]
      cases v.compare w <;> rfl
  | compare op =>
      have hf : (StandardFunction.compare t op).IsFirstOrder := fun _ h => nomatch h
      obtain ⟨hask, h0, h1⟩ := StandardFunction.ask_eq hf rfl hv hw
      rw [hask]
      simp only [applyFirstOrder, applyComparison, h0, h1, bind, Except.bind]
      cases v.compare w <;> rfl

variable (R : Ranking t)

theorem OrderQuestion.ask_of_unmixed (h : OrderQuestion t f p) (ht : t ∈ orderedTypes)
    (hv : v.dataType = t) (hw : w.dataType = t) (hm : ¬ v.Mixed w) :
    f.ask env v w = .ok (.bool (p (R.cmp (R.rank v) (R.rank w)))) := by
  rw [h.ask_eq ht hv hw, R.compare_of_unmixed hv hw hm]
  rfl

theorem OrderQuestion.ask_of_mixed (h : OrderQuestion t f p) (ht : t ∈ orderedTypes)
    (hv : v.dataType = t) (hw : w.dataType = t) (hm : v.Mixed w) :
    f.ask env v w = complain f.id (.incomparable .zoneMismatch) := by
  obtain ⟨R⟩ := nonempty_ranking ht
  rw [h.ask_eq ht hv hw, R.compare_of_mixed hv hw hm]
  rfl

/-- If a function comes to an outcome, the values are on one time line and the outcome is the
answer to its question. -/
theorem OrderQuestion.ask_eq_ok_iff (h : OrderQuestion t f p) (ht : t ∈ orderedTypes)
    (hv : v.dataType = t) (hw : w.dataType = t) {o : Outcome} :
    f.ask env v w = .ok o ↔ ¬ v.Mixed w ∧ .bool (p (R.cmp (R.rank v) (R.rank w))) = o := by
  by_cases hm : v.Mixed w
  · rw [h.ask_of_mixed ht hv hw hm]
    exact iff_of_false (fun he => nomatch he) fun he => he.1 hm
  · rw [h.ask_of_unmixed R ht hv hw hm, Except.ok.injEq]
    exact (and_iff_right hm).symm

theorem OrderQuestion.ask_eq_true_iff (h : OrderQuestion t f p) (ht : t ∈ orderedTypes)
    (hv : v.dataType = t) (hw : w.dataType = t) :
    f.ask env v w = .ok (.bool true) ↔ ¬ v.Mixed w ∧ p (R.cmp (R.rank v) (R.rank w)) = true := by
  rw [h.ask_eq_ok_iff R ht hv hw]
  simp [Outcome.bool]

end

section

variable {env : Surroundings} {t : DataType} {a b c : Value}

/-- Equal values are ordered alike. -/
theorem ask_congr {f : StandardFunction} {p : Ordering → Bool} (h : OrderQuestion t f p)
    (ht : t ∈ orderedTypes) (ha : a.dataType = t) (hb : b.dataType = t) (hc : c.dataType = t)
    (he : (equal t).ask env a b = .ok (.bool true)) :
    f.ask env a c = f.ask env b c ∧ f.ask env c a = f.ask env c b := by
  obtain ⟨R⟩ := nonempty_ranking ht
  have := R.trans
  obtain ⟨hm, hab⟩ := (OrderQuestion.equal.ask_eq_true_iff R ht ha hb).mp he
  rw [beq_iff_eq] at hab
  have hz : a.zoned? = b.zoned? := (Value.not_mixed_iff (ha.trans hb.symm)).mp hm
  have hleft : a.Mixed c ↔ b.Mixed c := by simp only [Value.Mixed, hz]
  have hright : c.Mixed a ↔ c.Mixed b := by simp only [Value.Mixed, hz]
  constructor
  · by_cases hac : a.Mixed c
    · rw [h.ask_of_mixed ht ha hc hac, h.ask_of_mixed ht hb hc (hleft.mp hac)]
    · rw [h.ask_of_unmixed R ht ha hc hac, h.ask_of_unmixed R ht hb hc (hleft.not.mp hac),
        Std.TransCmp.congr_left hab]
  · by_cases hca : c.Mixed a
    · rw [h.ask_of_mixed ht hc ha hca, h.ask_of_mixed ht hc hb (hright.mp hca)]
    · rw [h.ask_of_unmixed R ht hc ha hca, h.ask_of_unmixed R ht hc hb (hright.not.mp hca),
        Std.TransCmp.congr_right hab]

/-- What is asked of two values the other way round. -/
theorem ask_swap {f g : StandardFunction} {p q : Ordering → Bool} (hf : OrderQuestion t f p)
    (hg : OrderQuestion t g q) (hpq : ∀ o : Ordering, p o = q o.swap) (ht : t ∈ orderedTypes)
    (ha : a.dataType = t) (hb : b.dataType = t) (o : Outcome) :
    f.ask env a b = .ok o ↔ g.ask env b a = .ok o := by
  obtain ⟨R⟩ := nonempty_ranking ht
  have := R.trans
  have hm : a.Mixed b ↔ b.Mixed a := ⟨Value.Mixed.symm, Value.Mixed.symm⟩
  have hswap : R.cmp (R.rank b) (R.rank a) = (R.cmp (R.rank a) (R.rank b)).swap :=
    Std.OrientedCmp.eq_swap
  rw [hf.ask_eq_ok_iff R ht ha hb, hg.ask_eq_ok_iff R ht hb ha, hm, hswap, hpq]

/-- A question whose answers are transitive on ranks is transitive on values. -/
theorem ask_trans {f : StandardFunction} {p : Ordering → Bool} (h : OrderQuestion t f p)
    (hp : ∀ R : Ranking t, ∀ x y z, p (R.cmp x y) = true → p (R.cmp y z) = true →
      p (R.cmp x z) = true) (ht : t ∈ orderedTypes) (ha : a.dataType = t) (hb : b.dataType = t)
    (hc : c.dataType = t) (hab : f.ask env a b = .ok (.bool true))
    (hbc : f.ask env b c = .ok (.bool true)) : f.ask env a c = .ok (.bool true) := by
  obtain ⟨R⟩ := nonempty_ranking ht
  obtain ⟨hm, hab⟩ := (h.ask_eq_true_iff R ht ha hb).mp hab
  obtain ⟨hm', hbc⟩ := (h.ask_eq_true_iff R ht hb hc).mp hbc
  rw [Value.not_mixed_iff (ha.trans hb.symm)] at hm
  rw [Value.not_mixed_iff (hb.trans hc.symm)] at hm'
  refine (h.ask_eq_true_iff R ht ha hc).mpr ⟨?_, hp R _ _ _ hab hbc⟩
  exact (Value.not_mixed_iff (ha.trans hc.symm)).mpr (hm.trans hm')

/-- **The comparison functions of a type agree on one order.** All five complain about two values of
which one has a time zone and the other has none. Of any other two, exactly one of less, equal and
greater is true, and the functions that include equality deny the opposite of what their names say.
Less and greater change places with the arguments; equality is an equivalence, and equal values
cannot be told apart by less; less is transitive. Doubles are ordered by their bits. -/
theorem comparisons_consistent (env : Surroundings) (ht : t ∈ orderedTypes) (ha : a.dataType = t)
    (hb : b.dataType = t) (hc : c.dataType = t) :
    (a.Mixed b → ∀ f p, OrderQuestion t f p →
      f.ask env a b = complain f.id (.incomparable .zoneMismatch)) ∧
    (¬ a.Mixed b → ∃ less same greater : Bool,
      (compare t .lessThan).ask env a b = .ok (.bool less) ∧
      (equal t).ask env a b = .ok (.bool same) ∧
      (compare t .greaterThan).ask env a b = .ok (.bool greater) ∧
      [less, same, greater].count true = 1 ∧
      (compare t .greaterThanOrEqual).ask env a b = .ok (.bool !less) ∧
      (compare t .lessThanOrEqual).ask env a b = .ok (.bool !greater)) ∧
    (∀ o, (compare t .lessThan).ask env a b = .ok o ↔
      (compare t .greaterThan).ask env b a = .ok o) ∧
    ((equal t).ask env a a = .ok (.bool true) ∧
      (∀ o, (equal t).ask env a b = .ok o ↔ (equal t).ask env b a = .ok o) ∧
      ((equal t).ask env a b = .ok (.bool true) → (equal t).ask env b c = .ok (.bool true) →
        (equal t).ask env a c = .ok (.bool true))) ∧
    ((equal t).ask env a b = .ok (.bool true) →
      (compare t .lessThan).ask env a c = (compare t .lessThan).ask env b c ∧
      (compare t .lessThan).ask env c a = (compare t .lessThan).ask env c b) ∧
    ((compare t .lessThan).ask env a b = .ok (.bool true) →
      (compare t .lessThan).ask env b c = .ok (.bool true) →
      (compare t .lessThan).ask env a c = .ok (.bool true)) ∧
    ∀ f p, OrderQuestion .double f p → ∀ x y : Double,
      f.ask env (.double x) (.double y) = .ok (.bool (p (Double.totalCmp x y))) := by
  refine ⟨fun hm f p h => h.ask_of_mixed ht ha hb hm, fun hm => ?trichotomy,
    ask_swap (.compare _) (.compare _) (by decide) ht ha hb,
    ⟨?refl, ask_swap .equal .equal (by decide) ht ha hb,
      ask_trans .equal (fun R x y z => ?eq) ht ha hb hc⟩,
    ask_congr (.compare _) ht ha hb hc, ask_trans (.compare _) (fun R x y z => ?less) ht ha hb hc,
    fun f p h x y => ?doubles⟩
  case trichotomy =>
    obtain ⟨R⟩ := nonempty_ranking ht
    refine ⟨_, _, _, OrderQuestion.ask_of_unmixed R (.compare _) ht ha hb hm,
      OrderQuestion.ask_of_unmixed R .equal ht ha hb hm,
      OrderQuestion.ask_of_unmixed R (.compare _) ht ha hb hm, ?_, ?_, ?_⟩
    · cases R.cmp (R.rank a) (R.rank b) <;> rfl
    · rw [OrderQuestion.ask_of_unmixed R (.compare _) ht ha hb hm]
      cases R.cmp (R.rank a) (R.rank b) <;> rfl
    · rw [OrderQuestion.ask_of_unmixed R (.compare _) ht ha hb hm]
      cases R.cmp (R.rank a) (R.rank b) <;> rfl
  case refl =>
    obtain ⟨R⟩ := nonempty_ranking ht
    have := R.trans
    have hself : R.cmp (R.rank a) (R.rank a) = .eq := Std.ReflCmp.compare_self
    exact (OrderQuestion.equal.ask_eq_true_iff R ht ha ha).mpr
      ⟨(Value.not_mixed_iff rfl).mpr rfl, beq_iff_eq.mpr hself⟩
  case eq =>
    have := R.trans
    simp only [beq_iff_eq]
    exact Std.TransCmp.eq_trans
  case less =>
    have := R.trans
    simp only [Comparison.holds, beq_iff_eq]
    exact Std.TransCmp.lt_trans
  case doubles =>
    rw [h.ask_eq (by decide) rfl rfl, ← Double.cmp_eq_totalCmp]
    rfl

/-- Noon in one place is one in the afternoon further east, and earlier than one in the afternoon by
universal time. -/
theorem comparisons_consistent_noon :
    let noon : Value := .time ⟨⟨12, 0, 0, 0, by decide⟩, some .utc⟩
    let east : Value := .time ⟨⟨13, 0, 0, 0, by decide⟩, some ⟨60⟩⟩
    let one : Value := .time ⟨⟨13, 0, 0, 0, by decide⟩, some .utc⟩
    DataType.time ∈ orderedTypes ∧ noon.dataType = .time ∧ east.dataType = .time ∧
      one.dataType = .time ∧ (equal .time).ask .bare noon east = .ok (.bool true) ∧
      (compare .time .lessThan).ask .bare noon one = .ok (.bool true) ∧
      (compare .time .lessThan).ask .bare east one = .ok (.bool true) := by
  intro noon east one
  have heq : (equal .time).ask .bare noon east = .ok (.bool true) := rfl
  have hlt : (compare .time .lessThan).ask .bare noon one = .ok (.bool true) := rfl
  obtain ⟨-, -, -, -, hcongr, -, -⟩ :=
    comparisons_consistent .bare (t := .time) (a := noon) (b := east) (c := one) (by decide) rfl rfl
      rfl
  exact ⟨by decide, rfl, rfl, rfl, heq, hlt, (hcongr heq).1.symm.trans hlt⟩

end

end StandardFunction

end Abac
