import Mathlib.Data.List.Basic
import Abac.Proofs.Comparing
import Abac.Proofs.Inversion

/-!
# What functions expect

Every standard function that takes no function expects a number of arguments, and
at each position a single value or a bag of some type
(`StandardFunction.Accepts`).

With the arguments that it expects a function may still fail, in four ways
(`StandardFunction.Fails`): there is no single member, a count is out of range, a
pattern cannot be read, or two values have to be compared that do not mix. The
last one depends on what a function compares, and thereby on how the comparisons
before came out (`StandardFunction.Compares`).
-/

namespace Abac

/-! ## Taking arguments -/

section

variable {id : Identifier} {t : DataType} {index : Nat} {args : List Argument}

theorem takeValue_eq_ok_iff {a : Option Argument} {v : Value} :
    takeValue id t index a = .ok v ↔ a = some (.value v) ∧ v.dataType = t := by
  rcases a with _ | w | b | f
  · simp [takeValue, complain]
  · by_cases ht : w.dataType = t
    · simp only [takeValue, if_pos ht, Except.ok.injEq, Option.some.injEq, Operand.value.injEq]
      exact ⟨fun h => ⟨h, h ▸ ht⟩, And.left⟩
    · simp only [takeValue, if_neg ht, complain, Option.some.injEq, Operand.value.injEq]
      refine iff_of_false (fun h => ?_) fun h => ht (h.1 ▸ h.2)
      cases h
  · simp [takeValue, complain]
  · simp [takeValue, complain]

theorem takeBag_eq_ok_iff {a : Option Argument} {b : Bag} :
    takeBag id t index a = .ok b ↔ a = some (.bag b) ∧ b.dataType = t := by
  rcases a with _ | w | c | f
  · simp [takeBag, complain]
  · simp [takeBag, complain]
  · by_cases ht : c.dataType = t
    · simp only [takeBag, if_pos ht, Except.ok.injEq, Option.some.injEq, Operand.bag.injEq]
      exact ⟨fun h => ⟨h, h ▸ ht⟩, And.left⟩
    · simp only [takeBag, if_neg ht, complain, Option.some.injEq, Operand.bag.injEq]
      refine iff_of_false (fun h => ?_) fun h => ht (h.1 ▸ h.2)
      cases h
  · simp [takeBag, complain]

theorem takeValues_eq_ok_iff {vs : List Value} :
    takeValues id t index args = .ok vs ↔
      args = vs.map .value ∧ ∀ v ∈ vs, v.dataType = t := by
  induction args generalizing index vs with
  | nil =>
      rw [takeValues]
      cases vs <;> simp
  | cons a rest ih =>
      constructor
      · intro h
        rw [takeValues] at h
        split at h
        · cases h
        · rename_i v hv
          obtain ⟨ws, hr, rfl⟩ := Except.map_eq_ok_iff.mp h
          obtain ⟨ha, ht⟩ := takeValue_eq_ok_iff.mp hv
          obtain ⟨rfl, hws⟩ := ih.mp hr
          obtain rfl := Option.some.inj ha
          exact ⟨rfl, List.forall_mem_cons.mpr ⟨ht, hws⟩⟩
      · rintro ⟨hm, hv⟩
        cases vs with
        | nil => cases hm
        | cons v ws =>
            obtain ⟨rfl, rfl⟩ := List.cons.inj hm
            obtain ⟨ht, hws⟩ := List.forall_mem_cons.mp hv
            rw [takeValues, takeValue_eq_ok_iff.mpr ⟨rfl, ht⟩, ih.mpr ⟨rfl, hws⟩]
            rfl

theorem takeBags_eq_ok_iff {bs : List Bag} :
    takeBags id t index args = .ok bs ↔
      args = bs.map .bag ∧ ∀ b ∈ bs, b.dataType = t := by
  induction args generalizing index bs with
  | nil =>
      rw [takeBags]
      cases bs <;> simp
  | cons a rest ih =>
      constructor
      · intro h
        rw [takeBags] at h
        split at h
        · cases h
        · rename_i b hb
          obtain ⟨ws, hr, rfl⟩ := Except.map_eq_ok_iff.mp h
          obtain ⟨ha, ht⟩ := takeBag_eq_ok_iff.mp hb
          obtain ⟨rfl, hws⟩ := ih.mp hr
          obtain rfl := Option.some.inj ha
          exact ⟨rfl, List.forall_mem_cons.mpr ⟨ht, hws⟩⟩
      · rintro ⟨hm, hb⟩
        cases bs with
        | nil => cases hm
        | cons b ws =>
            obtain ⟨rfl, rfl⟩ := List.cons.inj hm
            obtain ⟨ht, hws⟩ := List.forall_mem_cons.mp hb
            rw [takeBags, takeBag_eq_ok_iff.mpr ⟨rfl, ht⟩, ih.mpr ⟨rfl, hws⟩]
            rfl

theorem halts_takeBooleans_iff :
    Halts (takeBooleans id index args) ↔
      ¬ ∃ vs : List Value, args = vs.map .value ∧ ∀ v ∈ vs, v.dataType = .boolean := by
  rw [takeBooleans, halts_map_iff, halts_iff_forall_ne, not_exists]
  simp only [ne_eq, takeValues_eq_ok_iff]

theorem halts_valueAt_bind_iff {α : Type} {k : Value → Except Halt α} :
    Halts (valueAt id args index t >>= k) ↔
      ∀ v, args[index]? = some (.value v) → v.dataType = t → Halts (k v) := by
  rw [halts_bind_iff]
  simp only [valueAt, takeValue_eq_ok_iff, and_imp]

theorem halts_bagAt_bind_iff {α : Type} {k : Bag → Except Halt α} :
    Halts (bagAt id args index t >>= k) ↔
      ∀ b, args[index]? = some (.bag b) → b.dataType = t → Halts (k b) := by
  rw [halts_bind_iff]
  simp only [bagAt, takeBag_eq_ok_iff, and_imp]

end

/-! ## What is expected -/

/-- What a function expects at a position. -/
inductive Shape where
  /-- A single value of a type. -/
  | value (t : DataType)
  /-- A bag of a type. -/
  | bag (t : DataType)
  deriving DecidableEq, Repr

/-- An argument is what is expected. -/
def Shape.Fits : Shape → Argument → Prop
  | .value t, .value v => v.dataType = t
  | .bag t, .bag b => b.dataType = t
  | _, _ => False

namespace StandardFunction

/-- The function takes no function. -/
def IsFirstOrder (f : StandardFunction) : Prop := ∀ q, f ≠ .quantified q

/-- What a function that takes no function expects at a position. -/
def shapeAt? : StandardFunction → Nat → Option Shape
  | .equal t, _ => some (.value t)
  | .equalIgnoringCase, _ => some (.value .string)
  | .bag t .oneAndOnly, _ => some (.bag t)
  | .bag t .bagSize, _ => some (.bag t)
  | .bag t .isIn, 0 => some (.value t)
  | .bag t .isIn, _ => some (.bag t)
  | .bag t .bag, _ => some (.value t)
  | .set t _, _ => some (.bag t)
  | .compare t _, _ => some (.value t)
  | .timeInRange, _ => some (.value .time)
  | .quantified _, _ => none
  | .logical .nOf, 0 => some (.value .integer)
  | .logical _, _ => some (.value .boolean)
  | .patternMatch _, 0 => some (.value .string)
  | .patternMatch t, _ => some (.value t)
  | .mailboxMatch, 0 => some (.value .string)
  | .mailboxMatch, _ => some (.value .rfc822Name)
  | .distinguishedNameMatch, _ => some (.value .x500Name)

/-- The number of arguments is acceptable, and each of them is what is expected at its position. -/
def Accepts (f : StandardFunction) (args : List Argument) : Prop :=
  f.arity.accepts args.length = true ∧
    ∀ i a, args[i]? = some a → ∃ s, f.shapeAt? i = some s ∧ s.Fits a

/-! ## What may still fail -/

/-- With the arguments that it expects, a function comes to compare two values. -/
inductive Compares : StandardFunction → List Argument → Value → Value → Prop
  | equal {t : DataType} {v w : Value} : Compares (.equal t) [.value v, .value w] v w
  | order {t : DataType} {op : Comparison} {v w : Value} :
      Compares (.compare t op) [.value v, .value w] v w
  | lower {v lower upper : Value} :
      Compares .timeInRange [.value v, .value lower, .value upper] v lower
  | upper {v lower upper : Value} (hl : ¬ v.Mixed lower) :
      Compares .timeInRange [.value v, .value lower, .value upper] v upper
  | bounds {v lower upper : Value} (hl : ¬ v.Mixed lower) (hu : ¬ v.Mixed upper) :
      Compares .timeInRange [.value v, .value lower, .value upper] lower upper
  | isIn {t : DataType} {v w : Value} {b : Bag} (h : Meets v b.values w) :
      Compares (.bag t .isIn) [.value v, .bag b] w v
  | set {t : DataType} {op : SetOperation} {left right : Bag} {v w : Value} (ho : op ≠ .union)
      (h : op.Compares right.values left.values v w) :
      Compares (.set t op) [.bag left, .bag right] w v
  /-- The second half of an equality of sets. -/
  | converse {t : DataType} {left right : Bag} {v w : Value}
      (hs : ∀ u ∈ left.values, Found u right.values)
      (h : SetOperation.subset.Compares left.values right.values v w) :
      Compares (.set t .setEquals) [.bag left, .bag right] w v
  | union {t : DataType} {args : List Argument} {bags : List Bag} {v w : Value}
      (ha : args = bags.map .bag)
      (h : SetOperation.union.Compares [] (bags.flatMap Bag.values) v w) :
      Compares (.set t .union) args w v

/-- With the arguments that it expects, a function fails. -/
inductive Fails (patterns : PatternReader) : StandardFunction → List Argument → Prop
  | notSingleton {t : DataType} {b : Bag} (h : b.size ≠ 1) :
      Fails patterns (.bag t .oneAndOnly) [.bag b]
  | negativeCount {n : Int64} {rest : List Argument} (h : n < 0) :
      Fails patterns (.logical .nOf) (.value (.integer n) :: rest)
  | countTooLarge {n : Int64} {rest : List Argument} (h : (rest.length : Int) < n.toInt) :
      Fails patterns (.logical .nOf) (.value (.integer n) :: rest)
  | unreadable {t : DataType} {pattern reason : String} {v : Value}
      (h : patterns pattern = .error reason) :
      Fails patterns (.patternMatch t) [.value (.string pattern), .value v]
  | mixed {f : StandardFunction} {args : List Argument} {v w : Value} (hc : f.Compares args v w)
      (hm : v.Mixed w) : Fails patterns f args

/-- Functions that compare nothing and have no other reason to fail. -/
def isTotal : StandardFunction → Bool
  | .equalIgnoringCase => true
  | .bag _ .bagSize => true
  | .bag _ .bag => true
  | .logical .nOf => false
  | .logical _ => true
  | .mailboxMatch => true
  | .distinguishedNameMatch => true
  | _ => false

theorem not_fails_of_isTotal {patterns : PatternReader} {f : StandardFunction}
    {args : List Argument} (h : f.isTotal = true) : ¬ f.Fails patterns args := by
  intro hf
  cases hf with
  | mixed hc _ => cases hc <;> cases h
  | _ => cases h

/-! ## Functions of a fixed number of arguments -/

theorem forall_getElem?_cons {α : Type} {P : Nat → α → Prop} {a : α} {l : List α} :
    (∀ i x, (a :: l)[i]? = some x → P i x) ↔ P 0 a ∧ ∀ i x, l[i]? = some x → P (i + 1) x := by
  constructor
  · exact fun h => ⟨h 0 a rfl, fun i x hx => h (i + 1) x hx⟩
  · rintro ⟨h0, h⟩ (_ | i) x hx
    · exact Option.some.inj hx ▸ h0
    · exact h i x hx

/-- All members of a list are of one form exactly if the list is made from what they are made of. -/
theorem forall_mem_iff_exists_map {α β : Type} {P : α → Prop} {Q : β → Prop} {c : β → α}
    (h : ∀ a, P a ↔ ∃ x, a = c x ∧ Q x) {l : List α} :
    (∀ a ∈ l, P a) ↔ ∃ xs : List β, l = xs.map c ∧ ∀ x ∈ xs, Q x := by
  constructor
  · intro hl
    induction l with
    | nil => exact ⟨[], rfl, List.forall_mem_nil _⟩
    | cons a rest ih =>
        obtain ⟨ha, hr⟩ := List.forall_mem_cons.mp hl
        obtain ⟨x, rfl, hx⟩ := (h a).mp ha
        obtain ⟨xs, rfl, hxs⟩ := ih hr
        exact ⟨x :: xs, rfl, List.forall_mem_cons.mpr ⟨hx, hxs⟩⟩
  · rintro ⟨xs, rfl, hxs⟩
    exact List.forall_mem_map.mpr fun x hx => (h (c x)).mpr ⟨x, rfl, hxs x hx⟩

section

variable {patterns : PatternReader} {f : StandardFunction} {args : List Argument}
  {id : Identifier} {t u : DataType}

/-- One argument. -/
theorem accepts_singleton {s : Shape} (ha : f.arity = .exactly 1) (h0 : f.shapeAt? 0 = some s)
    {a : Argument} : f.Accepts [a] ↔ s.Fits a := by
  simp [Accepts, ha, Arity.accepts, forall_getElem?_cons, h0]

/-- Two arguments. -/
theorem accepts_pair {r s : Shape} (ha : f.arity = .exactly 2) (h0 : f.shapeAt? 0 = some r)
    (h1 : f.shapeAt? 1 = some s) {a b : Argument} : f.Accepts [a, b] ↔ r.Fits a ∧ s.Fits b := by
  simp [Accepts, ha, Arity.accepts, forall_getElem?_cons, h0, h1]

/-- A function of a bag. -/
theorem halts_iff_of_bag {k : Bag → Except Halt Outcome} (ha : f.arity = .exactly 1)
    (h0 : f.shapeAt? 0 = some (.bag t)) (hn : f.arity.accepts args.length = true)
    (hk : ∀ b, args = [.bag b] → b.dataType = t → (Halts (k b) ↔ f.Fails patterns [.bag b])) :
    Halts (bagAt id args 0 t >>= k) ↔ (f.Accepts args → f.Fails patterns args) := by
  obtain ⟨a, rfl⟩ : ∃ a, args = [a] := by
    rw [ha] at hn
    exact List.length_eq_one_iff.mp (beq_iff_eq.mp hn)
  rw [halts_bagAt_bind_iff, accepts_singleton ha h0]
  rcases a with v | b | g
  · exact iff_of_true (fun _ h => nomatch h) fun h => h.elim
  · constructor
    · exact fun h hb => (hk b rfl hb).mp (h b rfl hb)
    · rintro h _ ⟨⟩ hb
      exact (hk b rfl hb).mpr (h hb)
  · exact iff_of_true (fun _ h => nomatch h) fun h => h.elim

/-- A function of two values. -/
theorem halts_iff_of_values {k : Value → Value → Except Halt Outcome} (ha : f.arity = .exactly 2)
    (h0 : f.shapeAt? 0 = some (.value t)) (h1 : f.shapeAt? 1 = some (.value u))
    (hn : f.arity.accepts args.length = true)
    (hk : ∀ v w, v.dataType = t → w.dataType = u →
      (Halts (k v w) ↔ f.Fails patterns [.value v, .value w])) :
    Halts (valueAt id args 0 t >>= fun v => valueAt id args 1 u >>= k v) ↔
      (f.Accepts args → f.Fails patterns args) := by
  obtain ⟨a, b, rfl⟩ : ∃ a b, args = [a, b] := by
    rw [ha] at hn
    exact List.length_eq_two.mp (beq_iff_eq.mp hn)
  simp only [halts_valueAt_bind_iff]
  rw [accepts_pair ha h0 h1]
  rcases a with v | c | g
  · rcases b with w | c | g
    · constructor
      · exact fun h ⟨hv, hw⟩ => (hk v w hv hw).mp (h v rfl hv w rfl hw)
      · rintro h _ ⟨⟩ hv _ ⟨⟩ hw
        exact (hk v w hv hw).mpr (h ⟨hv, hw⟩)
    · exact iff_of_true (fun _ _ _ _ h => nomatch h) fun h => h.2.elim
    · exact iff_of_true (fun _ _ _ _ h => nomatch h) fun h => h.2.elim
  · exact iff_of_true (fun _ h => nomatch h) fun h => h.1.elim
  · exact iff_of_true (fun _ h => nomatch h) fun h => h.1.elim

/-- Arguments of which all are to be alike. -/
theorem accepts_iff_of_uniform {s : Shape} (hs : ∀ i, f.shapeAt? i = some s) :
    f.Accepts args ↔ f.arity.accepts args.length = true ∧ ∀ a ∈ args, s.Fits a := by
  refine and_congr_right fun _ => ⟨fun h a ha => ?_, fun h i a hi => ?_⟩
  · obtain ⟨i, hi⟩ := List.getElem?_of_mem ha
    obtain ⟨s', hs', hf⟩ := h i a hi
    exact Option.some.inj ((hs i).symm.trans hs') ▸ hf
  · exact ⟨s, hs i, h a (List.mem_of_getElem? hi)⟩

theorem forall_fits_value_iff : (∀ a ∈ args, (Shape.value t).Fits a) ↔
    ∃ vs : List Value, args = vs.map .value ∧ ∀ v ∈ vs, v.dataType = t := by
  refine forall_mem_iff_exists_map fun a => ?_
  cases a <;> simp [Shape.Fits]

theorem forall_fits_bag_iff : (∀ a ∈ args, (Shape.bag t).Fits a) ↔
    ∃ bags : List Bag, args = bags.map .bag ∧ ∀ b ∈ bags, b.dataType = t := by
  refine forall_mem_iff_exists_map fun a => ?_
  cases a <;> simp [Shape.Fits]

theorem fails_equal_iff {v w : Value} :
    Fails patterns (.equal t) [.value v, .value w] ↔ v.Mixed w := by
  refine ⟨fun h => ?_, .mixed .equal⟩
  cases h with
  | mixed hc hm =>
      cases hc
      exact hm

theorem fails_compare_iff {op : Comparison} {v w : Value} :
    Fails patterns (.compare t op) [.value v, .value w] ↔ v.Mixed w := by
  refine ⟨fun h => ?_, .mixed .order⟩
  cases h with
  | mixed hc hm =>
      cases hc
      exact hm

theorem fails_oneAndOnly_iff {b : Bag} :
    Fails patterns (.bag t .oneAndOnly) [.bag b] ↔ b.size ≠ 1 := by
  refine ⟨fun h => ?_, .notSingleton⟩
  cases h with
  | notSingleton h => exact h
  | mixed hc _ => cases hc

theorem fails_patternMatch_iff {pattern : String} {v : Value} :
    Fails patterns (.patternMatch t) [.value (.string pattern), .value v] ↔
      ∃ reason, patterns pattern = .error reason := by
  refine ⟨fun h => ?_, fun ⟨_, h⟩ => .unreadable h⟩
  cases h with
  | unreadable h => exact ⟨_, h⟩
  | mixed hc _ => cases hc

theorem fails_nOf_iff {n : Int64} {rest : List Argument} :
    Fails patterns (.logical .nOf) (.value (.integer n) :: rest) ↔
      n < 0 ∨ (rest.length : Int) < n.toInt := by
  constructor
  · intro h
    cases h with
    | negativeCount h => exact .inl h
    | countTooLarge h => exact .inr h
    | mixed hc _ => cases hc
  · exact fun h => h.elim .negativeCount .countTooLarge

theorem fails_timeInRange_iff {v lower upper : Value} :
    Fails patterns .timeInRange [.value v, .value lower, .value upper] ↔
      v.Mixed lower ∨
        (¬ v.Mixed lower ∧ (v.Mixed upper ∨ (¬ v.Mixed upper ∧ lower.Mixed upper))) := by
  constructor
  · intro h
    cases h with
    | mixed hc hm =>
        cases hc with
        | lower => exact .inl hm
        | upper hl => exact .inr ⟨hl, .inl hm⟩
        | bounds hl hu => exact .inr ⟨hl, .inr ⟨hu, hm⟩⟩
  · rintro (hm | ⟨hl, hm | ⟨hu, hm⟩⟩)
    · exact .mixed .lower hm
    · exact .mixed (.upper hl) hm
    · exact .mixed (.bounds hl hu) hm

theorem fails_isIn_iff {v : Value} {b : Bag} :
    Fails patterns (.bag t .isIn) [.value v, .bag b] ↔ ∃ w, Meets v b.values w ∧ w.Mixed v := by
  refine ⟨fun h => ?_, fun ⟨_, h, hm⟩ => .mixed (.isIn h) hm⟩
  cases h with
  | mixed hc hm =>
      cases hc with
      | isIn h => exact ⟨_, h, hm⟩

theorem fails_set_iff {op : SetOperation} (hu : op ≠ .union) (he : op ≠ .setEquals)
    {left right : Bag} : Fails patterns (.set t op) [.bag left, .bag right] ↔
      ∃ v w, op.Compares right.values left.values v w ∧ w.Mixed v := by
  refine ⟨fun h => ?_, fun ⟨_, _, h, hm⟩ => .mixed (.set hu h) hm⟩
  cases h with
  | mixed hc hm =>
      cases hc with
      | set _ h => exact ⟨_, _, h, hm⟩
      | converse _ _ => exact absurd rfl he
      | union _ _ => exact absurd rfl hu

theorem fails_setEquals_iff {left right : Bag} :
    Fails patterns (.set t .setEquals) [.bag left, .bag right] ↔
    (∃ v w, SetOperation.setEquals.Compares right.values left.values v w ∧ w.Mixed v) ∨
      (∀ u ∈ left.values, Found u right.values) ∧
        ∃ v w, SetOperation.subset.Compares left.values right.values v w ∧ w.Mixed v := by
  constructor
  · intro h
    cases h with
    | mixed hc hm =>
        cases hc with
        | set _ h => exact .inl ⟨_, _, h, hm⟩
        | converse hs h => exact .inr ⟨hs, _, _, h, hm⟩
  · rintro (⟨_, _, h, hm⟩ | ⟨hs, _, _, h, hm⟩)
    · exact .mixed (.set nofun h) hm
    · exact .mixed (.converse hs h) hm

theorem fails_union_iff {bags : List Bag} : Fails patterns (.set t .union) (bags.map .bag) ↔
    ∃ v w, SetOperation.union.Compares [] (bags.flatMap Bag.values) v w ∧ w.Mixed v := by
  refine ⟨fun h => ?_, fun ⟨_, _, h, hm⟩ => .mixed (.union rfl h) hm⟩
  generalize ha : bags.map Operand.bag = args at h
  cases h with
  | mixed hc hm =>
      cases hc with
      | set hu _ => exact absurd rfl hu
      | union ha' h =>
          obtain rfl := List.map_injective_iff.mpr (fun _ _ => Operand.bag.inj) (ha.trans ha')
          exact ⟨_, _, h, hm⟩

end

end StandardFunction

end Abac
