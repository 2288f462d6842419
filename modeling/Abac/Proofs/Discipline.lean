import Abac.Proofs.Returns
import Abac.Proofs.Signatures

/-!
# Functions check their arguments

A standard function that takes no function takes all its arguments before it
computes anything, so one that it does not expect is never overlooked, whatever
the others would have decided. Each function is therefore described by one
equivalence: it has no result if and only if, supposing that it accepts its
arguments, it fails on them. An argument that is not accepted makes this true by
itself, and accepted arguments have a form on which the function can be computed.

Together with how functions halt this says all that a caller can observe
(`StandardFunction.apply_discipline`).
-/

namespace Abac

namespace StandardFunction

/-! ## When functions have no result -/

section

variable {patterns : PatternReader} {args : List Argument} (id : Identifier) {t : DataType}

theorem halts_applyEqual_iff (hn : (equal t).arity.accepts args.length = true) :
    Halts (applyEqual id t args) ↔ ((equal t).Accepts args → (equal t).Fails patterns args) := by
  refine halts_iff_of_values rfl rfl rfl hn fun v w hv hw => ?_
  rw [fails_equal_iff, halts_bind_pure_iff]
  exact halts_equals_iff id (hv.trans hw.symm)

theorem halts_applyEqualIgnoringCase_iff
    (hn : equalIgnoringCase.arity.accepts args.length = true) :
    Halts (applyEqualIgnoringCase id args) ↔
      (equalIgnoringCase.Accepts args → equalIgnoringCase.Fails patterns args) := by
  refine halts_iff_of_values rfl rfl rfl hn fun v w hv hw => ?_
  refine iff_of_false ?_ (not_fails_of_isTotal rfl)
  cases v with
  | string a =>
      cases w with
      | string b => exact not_halts_ok _
      | _ => cases hw
  | _ => cases hv

theorem halts_applyComparison_iff {op : Comparison} (ht : t ∈ orderedTypes)
    (hn : (compare t op).arity.accepts args.length = true) :
    Halts (applyComparison id t op args) ↔
      ((compare t op).Accepts args → (compare t op).Fails patterns args) := by
  refine halts_iff_of_values rfl rfl rfl hn fun v w hv hw => ?_
  rw [fails_compare_iff, halts_bind_pure_iff]
  exact halts_compare_iff id (hv ▸ ht) (hv.trans hw.symm)

theorem halts_applyPatternMatch_iff (hn : (patternMatch t).arity.accepts args.length = true) :
    Halts (applyPatternMatch id patterns t args) ↔
      ((patternMatch t).Accepts args → (patternMatch t).Fails patterns args) := by
  have he : applyPatternMatch id patterns t args =
      valueAt id args 0 .string >>= fun p => valueAt id args 1 t >>= fun v =>
        patternAnswer id v.render (patterns (p.text?.getD "")) := by
    simp only [applyPatternMatch, patternArguments, bind_assoc, pure_bind]
  rw [he]
  refine halts_iff_of_values rfl rfl rfl hn fun p v hp hv => ?_
  cases p with
  | string pattern =>
      rw [fails_patternMatch_iff]
      show Halts (patternAnswer id v.render (patterns pattern)) ↔ _
      cases patterns pattern with
      | ok occursIn => exact iff_of_false (not_halts_ok _) fun ⟨_, h⟩ => nomatch h
      | error reason => exact iff_of_true (halts_complain id _) ⟨reason, rfl⟩
  | _ => cases hp

theorem halts_applyMailboxMatch_iff (hn : mailboxMatch.arity.accepts args.length = true) :
    Halts (applyMailboxMatch id args) ↔
      (mailboxMatch.Accepts args → mailboxMatch.Fails patterns args) := by
  refine halts_iff_of_values rfl rfl rfl hn fun p v hp hv => ?_
  refine iff_of_false ?_ (not_fails_of_isTotal rfl)
  cases v with
  | rfc822Name m => exact not_halts_ok _
  | _ => cases hv

theorem halts_applyDistinguishedNameMatch_iff
    (hn : distinguishedNameMatch.arity.accepts args.length = true) :
    Halts (applyDistinguishedNameMatch id args) ↔
      (distinguishedNameMatch.Accepts args → distinguishedNameMatch.Fails patterns args) := by
  refine halts_iff_of_values rfl rfl rfl hn fun v w hv hw => ?_
  refine iff_of_false ?_ (not_fails_of_isTotal rfl)
  cases v with
  | x500Name a =>
      cases w with
      | x500Name b => exact not_halts_ok _
      | _ => cases hw
  | _ => cases hv

theorem halts_applyTimeInRange_iff (hn : timeInRange.arity.accepts args.length = true) :
    Halts (applyTimeInRange id args) ↔
      (timeInRange.Accepts args → timeInRange.Fails patterns args) := by
  have hcmp : ∀ {v w : Value}, v.dataType = .time → w.dataType = .time →
      (Halts (compared id (v.compare w)) ↔ v.Mixed w) := fun hv hw =>
    halts_compare_iff id (by rw [hv]; decide) (hv.trans hw.symm)
  have hrange : ∀ {v lower upper : Value} {g : Ordering → Ordering → Ordering → Outcome},
      v.dataType = .time → lower.dataType = .time → upper.dataType = .time →
      (Halts (compared id (v.compare lower) >>= fun x => compared id (v.compare upper) >>= fun y =>
          compared id (lower.compare upper) >>= fun z => pure (g x y z)) ↔
        timeInRange.Fails patterns [.value v, .value lower, .value upper]) := by
    intro v lower upper g hv hl hu
    rw [fails_timeInRange_iff, ← hcmp hv hl, ← hcmp hv hu, ← hcmp hl hu]
    exact halts_bind_iff_or fun x => halts_bind_iff_or fun y => halts_bind_pure_iff
  have hacc : timeInRange.Accepts args ↔ timeInRange.arity.accepts args.length = true ∧
      ∀ a ∈ args, (Shape.value .time).Fits a := accepts_iff_of_uniform fun _ => rfl
  rw [hacc]
  simp only [applyTimeInRange, halts_valueAt_bind_iff]
  constructor
  · rintro h ⟨-, hf⟩
    obtain ⟨vs, rfl, hv⟩ := forall_fits_value_iff.mp hf
    rw [List.length_map] at hn
    obtain ⟨v, lower, upper, rfl⟩ := List.length_eq_three.mp (beq_iff_eq.mp hn)
    simp only [List.forall_mem_cons] at hv
    obtain ⟨hv, hl, hu, -⟩ := hv
    exact (hrange hv hl hu).mp (h v rfl hv lower rfl hl upper rfl hu)
  · intro h v h0 hv lower h1 hl upper h2 hu
    obtain ⟨a, b, c, rfl⟩ := List.length_eq_three.mp (beq_iff_eq.mp hn)
    obtain rfl := Option.some.inj h0
    obtain rfl := Option.some.inj h1
    obtain rfl := Option.some.inj h2
    refine (hrange hv hl hu).mpr (h ⟨rfl, ?_⟩)
    simp only [List.forall_mem_cons]
    exact ⟨hv, hl, hu, List.forall_mem_nil _⟩

theorem halts_applyBag_iff {op : BagOperation} (hw : ∀ a ∈ args, a.WellTyped)
    (hs : ∀ b, .bag b ∈ args → b.size < 0x8000000000000000)
    (hn : (bag t op).arity.accepts args.length = true) :
    Halts (applyBag id t op args) ↔
      ((bag t op).Accepts args → (bag t op).Fails patterns args) := by
  cases op with
  | oneAndOnly =>
      refine halts_iff_of_bag rfl rfl hn fun b _ _ => ?_
      rw [fails_oneAndOnly_iff]
      obtain ⟨u, vs⟩ := b
      match vs with
      | [] => exact iff_of_true (halts_complain id _) nofun
      | [v] => exact iff_of_false (not_halts_ok _) fun h => h rfl
      | v :: w :: rest => exact iff_of_true (halts_complain id _) nofun
  | bagSize =>
      refine halts_iff_of_bag rfl rfl hn fun b hb _ => ?_
      have hlt : b.size < 0x8000000000000000 := hs b (hb ▸ List.mem_singleton_self _)
      refine iff_of_false ?_ (not_fails_of_isTotal rfl)
      rw [if_pos hlt]
      exact not_halts_ok _
  | isIn =>
      obtain ⟨a, c, rfl⟩ := List.length_eq_two.mp (beq_iff_eq.mp hn)
      rw [accepts_pair (r := .value t) (s := .bag t) rfl rfl rfl]
      simp only [applyBag, halts_valueAt_bind_iff, halts_bagAt_bind_iff, halts_bind_pure_iff]
      rcases a with v | _ | _
      · rcases c with _ | b | _
        · exact iff_of_true (fun _ _ _ _ h => nomatch h) fun h => h.2.elim
        · have hk : v.dataType = t → b.dataType = t → (Halts (hasEqual id v b.values) ↔
              (bag t .isIn).Fails patterns [.value v, .bag b]) := by
            intro hv hb
            have hm : b.WellTyped := hw (.bag b) (by simp)
            rw [fails_isIn_iff]
            exact halts_hasEqual_iff id fun m h => (hm m h).trans (hb.trans hv.symm)
          constructor
          · exact fun h ⟨hv, hb⟩ => (hk hv hb).mp (h v rfl hv b rfl hb)
          · rintro h _ ⟨⟩ hv _ ⟨⟩ hb
            exact (hk hv hb).mpr (h ⟨hv, hb⟩)
        · exact iff_of_true (fun _ _ _ _ h => nomatch h) fun h => h.2.elim
      · exact iff_of_true (fun _ h => nomatch h) fun h => h.1.elim
      · exact iff_of_true (fun _ h => nomatch h) fun h => h.1.elim
  | bag =>
      rw [accepts_iff_of_uniform (s := .value t) fun _ => rfl, forall_fits_value_iff]
      simp only [applyBag, halts_bind_iff, takeValues_eq_ok_iff]
      constructor
      · rintro h ⟨-, vs, hm, hv⟩
        obtain ⟨b, hb⟩ : ∃ b, putAll (.empty t) vs = .ok b := ⟨_, putAll_of_dataType hv⟩
        exact absurd (h vs ⟨hm, hv⟩ b hb) (not_halts_ok _)
      · exact fun h vs hvs => absurd (h ⟨hn, vs, hvs⟩) (not_fails_of_isTotal rfl)

theorem accepts_nOf_iff {a : Argument} {rest : List Argument} :
    (logical .nOf).Accepts (a :: rest) ↔
      (Shape.value .integer).Fits a ∧ ∀ b ∈ rest, (Shape.value .boolean).Fits b := by
  have hl : (logical .nOf).arity.accepts (a :: rest).length = true := by
    simp [arity, Connective.arity, Arity.accepts]
  rw [Accepts, forall_getElem?_cons]
  constructor
  · rintro ⟨-, ⟨_, ⟨⟩, ha⟩, hr⟩
    refine ⟨ha, fun b hb => ?_⟩
    obtain ⟨i, hi⟩ := List.getElem?_of_mem hb
    obtain ⟨_, ⟨⟩, hf⟩ := hr i b hi
    exact hf
  · rintro ⟨ha, hr⟩
    exact ⟨hl, ⟨_, rfl, ha⟩, fun i b hi => ⟨_, rfl, hr b (List.mem_of_getElem? hi)⟩⟩

/-- The number is looked at before the truth values are. -/
theorem applyNOf_integer (n : Int64) (rest : List Argument) :
    applyNOf id (.value (.integer n) :: rest) =
      if n < 0 then complain id (.negativeCount n)
      else if n.toInt > rest.length then complain id (.countTooLarge n rest.length)
      else (takeBooleans id 1 rest).map fun bs =>
        .bool (n.toInt ≤ (bs.filter (· == true)).length) := rfl

theorem halts_applyNOf_iff (hn : (logical .nOf).arity.accepts args.length = true) :
    Halts (applyNOf id args) ↔
      ((logical .nOf).Accepts args → (logical .nOf).Fails patterns args) := by
  cases args with
  | nil => cases hn
  | cons a rest =>
      rw [accepts_nOf_iff, forall_fits_value_iff]
      by_cases ha : (Shape.value .integer).Fits a
      · obtain ⟨n, rfl⟩ : ∃ n, a = .value (.integer n) := by
          rcases a with v | _ | _
          · cases v with
            | integer n => exact ⟨n, rfl⟩
            | _ => cases ha
          · exact ha.elim
          · exact ha.elim
        rw [applyNOf_integer, fails_nOf_iff]
        split
        · exact iff_of_true (halts_complain id _) fun _ => .inl ‹_›
        split
        · exact iff_of_true (halts_complain id _) fun _ => .inr ‹_›
        · rw [halts_map_iff, halts_takeBooleans_iff]
          exact ⟨fun h hacc => absurd hacc.2 h, fun h hr => (h ⟨ha, hr⟩).elim ‹_› ‹_›⟩
      · refine iff_of_true ?_ fun h => absurd h.1 ha
        rw [applyNOf, halts_valueAt_bind_iff]
        rintro v ⟨⟩ hv
        exact absurd hv ha

theorem halts_applyConnective_iff {op : Connective}
    (hn : (logical op).arity.accepts args.length = true) :
    Halts (applyConnective id op args) ↔
      ((logical op).Accepts args → (logical op).Fails patterns args) := by
  cases op with
  | and =>
      rw [accepts_iff_of_uniform (s := .value .boolean) fun _ => rfl, forall_fits_value_iff]
      rw [applyConnective, halts_map_iff, halts_takeBooleans_iff]
      exact ⟨fun h hacc => absurd hacc.2 h, fun h hb => not_fails_of_isTotal rfl (h ⟨hn, hb⟩)⟩
  | or =>
      rw [accepts_iff_of_uniform (s := .value .boolean) fun _ => rfl, forall_fits_value_iff]
      rw [applyConnective, halts_map_iff, halts_takeBooleans_iff]
      exact ⟨fun h hacc => absurd hacc.2 h, fun h hb => not_fails_of_isTotal rfl (h ⟨hn, hb⟩)⟩
  | not =>
      obtain ⟨a, rfl⟩ := List.length_eq_one_iff.mp (beq_iff_eq.mp hn)
      rw [accepts_singleton (s := .value .boolean) rfl rfl, applyConnective, halts_valueAt_bind_iff]
      constructor
      · intro h ha
        cases a with
        | value v => exact absurd (h v rfl ha) (not_halts_ok _)
        | bag b => exact ha.elim
        | function g => exact ha.elim
      · rintro h v ⟨⟩ hv
        exact absurd (h hv) (not_fails_of_isTotal rfl)
  | nOf => exact halts_applyNOf_iff id hn

theorem allHaveEqual_eq_true_iff {other vs : List Value} :
    allHaveEqual id other vs = .ok true ↔ ∀ v ∈ vs, Found v other := by
  induction vs with
  | nil => exact iff_of_true rfl (List.forall_mem_nil _)
  | cons v rest ih =>
      rw [allHaveEqual, List.forall_mem_cons, ← ih, ← hasEqual_eq_true_iff id]
      cases hasEqual id v other with
      | error h => simp
      | ok b => cases b <;> simp

/-- Set functions halt on the comparisons that they come to, given bags of their type. -/
theorem halts_applySet_iff {op : SetOperation} {bags : List Bag} (hb : ∀ b ∈ bags, b.IsOf t)
    (hn : (set t op).arity.accepts bags.length = true) :
    Halts (applySet id t op bags) ↔ (set t op).Fails patterns (bags.map .bag) := by
  have hv : ∀ b ∈ bags, ∀ v ∈ b.values, v.dataType = t := fun b h v => (hb b h).dataType_of_mem
  rcases bags with _ | ⟨left, _ | ⟨right, rest⟩⟩
  · cases op <;> cases hn
  · cases op <;> cases hn
  · have hl := hv left List.mem_cons_self
    have hr := hv right (List.mem_cons_of_mem _ List.mem_cons_self)
    cases op with
    | intersection =>
        obtain rfl : rest = [] := by simpa [arity, Arity.accepts] using hn
        refine halts_map_iff.trans ?_
        rw [show (Bag.empty t) = ⟨t, []⟩ from rfl,
          halts_putShared_iff id hr (List.forall_mem_nil _) hl, SetOperation.stops_iff]
        exact (fails_set_iff (by decide) (by decide)).symm
    | atLeastOneMemberOf =>
        obtain rfl : rest = [] := by simpa [arity, Arity.accepts] using hn
        refine halts_map_iff.trans ?_
        have hc := (halts_someHasEqual_iff id hr hl).trans SetOperation.stops_iff
        exact hc.trans (fails_set_iff (by decide) (by decide)).symm
    | subset =>
        obtain rfl : rest = [] := by simpa [arity, Arity.accepts] using hn
        refine halts_map_iff.trans ?_
        have hc := (halts_allHaveEqual_iff id hr hl).trans SetOperation.stops_iff
        exact hc.trans (fails_set_iff (by decide) (by decide)).symm
    | union =>
        refine halts_map_iff.trans ?_
        have hall : ∀ v ∈ (left :: right :: rest).flatMap Bag.values, v.dataType = t := by
          intro v h
          obtain ⟨b, hm, h⟩ := List.mem_flatMap.mp h
          exact hv b hm v h
        rw [putAllDistinct_eq]
        exact (halts_putDistinct_iff id (List.forall_mem_nil _) hall).trans
          (SetOperation.stops_iff.trans fails_union_iff.symm)
    | setEquals =>
        obtain rfl : rest = [] := by simpa [arity, Arity.accepts] using hn
        have hfirst : Halts (allHaveEqual id right.values left.values) ↔
            ∃ v w, SetOperation.setEquals.Compares right.values left.values v w ∧ w.Mixed v :=
          (halts_allHaveEqual_iff id hr hl).trans SetOperation.stops_iff
        have hsecond : Halts (allHaveEqual id left.values right.values) ↔
            ∃ v w, SetOperation.subset.Compares left.values right.values v w ∧ w.Mixed v :=
          (halts_allHaveEqual_iff id hl hr).trans SetOperation.stops_iff
        have hall : allHaveEqual id right.values left.values = .ok true ↔
            ∀ v ∈ left.values, Found v right.values := allHaveEqual_eq_true_iff id
        refine Iff.trans ?_ fails_setEquals_iff.symm
        rw [← hfirst, ← hsecond, ← hall, applySet, halts_bind_iff]
        cases allHaveEqual id right.values left.values with
        | error h => exact iff_of_true (fun _ h => by cases h) (.inl (halts_error h))
        | ok subset =>
            simp only [Except.ok.injEq, forall_eq']
            cases subset with
            | false => simp [not_halts_ok, pure, Except.pure]
            | true =>
                rw [if_pos rfl, halts_bind_pure_iff]
                simp [not_halts_ok]

/-- Only types with an order have functions that compare by it. -/
theorem mem_orderedTypes_of_mem_all {op : Comparison} (h : compare t op ∈ all) :
    t ∈ orderedTypes := by
  have hall : all.all (fun
      | .compare t _ => decide (t ∈ orderedTypes)
      | _ => true) = true := by decide
  exact of_decide_eq_true (List.all_eq_true.mp hall _ h)

/-- **A function has no result exactly if it does not accept its arguments or fails on them.** -/
theorem halts_applyFirstOrder_iff {f : StandardFunction} (hf : f.IsFirstOrder) (hm : f ∈ all)
    (hw : ∀ a ∈ args, a.WellTyped) (hs : ∀ b, .bag b ∈ args → b.size < 0x8000000000000000)
    (hn : f.arity.accepts args.length = true) :
    Halts (f.applyFirstOrder patterns args) ↔ (f.Accepts args → f.Fails patterns args) := by
  cases f with
  | equal t => exact halts_applyEqual_iff _ hn
  | equalIgnoringCase => exact halts_applyEqualIgnoringCase_iff _ hn
  | bag t op => exact halts_applyBag_iff _ hw hs hn
  | set t op =>
      rw [accepts_iff_of_uniform (s := .bag t) fun _ => rfl, forall_fits_bag_iff]
      have hbags : ∀ bags : List Bag, args = bags.map .bag → (∀ b ∈ bags, b.dataType = t) →
          (Halts (applySet (set t op).id t op bags) ↔ (set t op).Fails patterns args) := by
        rintro bags rfl hb
        refine halts_applySet_iff _ (fun b h => ⟨hb b h, hw _ (List.mem_map_of_mem h)⟩) ?_
        rwa [List.length_map] at hn
      refine halts_bind_iff.trans ?_
      simp only [takeBags_eq_ok_iff, and_imp]
      constructor
      · rintro h - ⟨bags, ha, hb⟩
        exact (hbags bags ha hb).mp (h bags ha hb)
      · exact fun h bags ha hb => (hbags bags ha hb).mpr (h hn ⟨bags, ha, hb⟩)
  | compare t op => exact halts_applyComparison_iff _ (mem_orderedTypes_of_mem_all hm) hn
  | timeInRange => exact halts_applyTimeInRange_iff _ hn
  | quantified q => exact absurd rfl (hf q)
  | logical op => exact halts_applyConnective_iff _ hn
  | patternMatch t => exact halts_applyPatternMatch_iff _ hn
  | mailboxMatch => exact halts_applyMailboxMatch_iff _ hn
  | distinguishedNameMatch => exact halts_applyDistinguishedNameMatch_iff _ hn

end

/-! ## The discipline of arguments -/

section

variable {env : Surroundings} {f : StandardFunction} {args : List Argument}

/-- The function halts with a processing error whose message opens with its name. -/
def Complains (env : Surroundings) (f : StandardFunction) (args : List Argument) : Prop :=
  ∃ status : Status, (Function.standard f).apply args env = .error (.status status) ∧
    status.code = .processingError ∧
    ∃ text, status.message = some ("function:" ++ f.id.shortName ++ " " ++ text)

/-- The number of arguments is checked before anything else. -/
theorem apply_eq_of_isFirstOrder (hf : f.IsFirstOrder) :
    (Function.standard f).apply args env =
      checkArity f.id f.arity args >>= fun _ => f.applyFirstOrder env.patterns args := by
  have hw : ∀ inner : Apply, applyWith env inner (.standard f) args =
      checkArity f.id f.arity args >>= fun _ => f.applyFirstOrder env.patterns args := by
    intro inner
    cases f with
    | quantified q => exact absurd rfl (hf q)
    | _ => rfl
  rw [Function.apply]
  cases args.length <;> exact hw _

theorem checkArity_eq_ok_iff {id : Identifier} {a : Arity} {u : Unit} :
    checkArity id a args = .ok u ↔ a.accepts args.length = true := by
  rw [checkArity]
  split
  · exact iff_of_true rfl ‹_›
  · refine iff_of_false (fun h => ?_) ‹_›
    cases h

theorem halts_apply_iff (hf : f.IsFirstOrder) (hm : f ∈ all) (hw : ∀ a ∈ args, a.WellTyped)
    (hs : ∀ b, .bag b ∈ args → b.size < 0x8000000000000000) :
    Halts ((Function.standard f).apply args env) ↔
      (f.Accepts args → f.Fails env.patterns args) := by
  rw [apply_eq_of_isFirstOrder hf, halts_bind_iff]
  simp only [checkArity_eq_ok_iff, forall_const]
  constructor
  · exact fun h hacc => (halts_applyFirstOrder_iff hf hm hw hs hacc.1).mp (h hacc.1) hacc
  · exact fun h hn => (halts_applyFirstOrder_iff hf hm hw hs hn).mpr h

/-- Whatever a function halts with is a complaint of its own. -/
theorem complains_of_halts (hf : f.IsFirstOrder) (hw : ∀ a ∈ args, a.WellTyped)
    (h : Halts ((Function.standard f).apply args env)) : f.Complains env args := by
  obtain ⟨halt, h⟩ := h
  have he : Ends (Halt.ComplaintOf f.id) (fun _ => True)
      ((Function.standard f).apply args env) := by
    rw [apply_eq_of_isFirstOrder hf]
    refine (ends_checkArity f.id f.arity args).bind fun _ hn => ?_
    exact (ends_applyFirstOrder hf hn hw).imp fun _ _ => True.intro
  obtain ⟨c, rfl⟩ := he.of_error h
  exact ⟨_, h, rfl, c.message, c.message_status f.id⟩

/-- **Functions check their arguments.** A standard function that takes no function complains about
a wrong number of arguments and about any argument of another shape or type than the one expected.
Otherwise it comes to an outcome, unless one of the four failures occurs, and then it complains too.
Bags are well typed, and no bag has as many values as there are integers above zero. -/
theorem apply_discipline (hf : f.IsFirstOrder) (hm : f ∈ all) (hw : ∀ a ∈ args, a.WellTyped)
    (hs : ∀ b, .bag b ∈ args → b.size < 0x8000000000000000) (env : Surroundings) :
    (¬ f.Accepts args → f.Complains env args) ∧
      (f.Accepts args → (f.Fails env.patterns args → f.Complains env args) ∧
        (¬ f.Fails env.patterns args → ∃ o, (Function.standard f).apply args env = .ok o)) := by
  have hiff := @halts_apply_iff env f args hf hm hw hs
  have hc := @complains_of_halts env f args hf hw
  refine ⟨fun hn => hc (hiff.mpr fun h => absurd h hn), fun hacc => ⟨fun h => ?_, fun h => ?_⟩⟩
  · exact hc (hiff.mpr fun _ => h)
  · exact not_halts_iff.mp fun hh => h (hiff.mp hh hacc)

/-- A search comes upon a value of another zone after the one that it looks for, or before it. -/
theorem apply_discipline_intersection :
    let day : Value := .date ⟨.epoch, none⟩
    let zoned : Value := .date ⟨.epoch, some .utc⟩
    let f : StandardFunction := .set .date .intersection
    let env : Surroundings := .bare
    let call (v w : Value) : List Argument := [.bag ⟨.date, [day]⟩, .bag ⟨.date, [v, w]⟩]
    f.IsFirstOrder ∧ f ∈ all ∧
      (∀ v w, v.dataType = .date → w.dataType = .date → (∀ a ∈ call v w, a.WellTyped) ∧
        (∀ b, .bag b ∈ call v w → b.size < 0x8000000000000000) ∧ f.Accepts (call v w)) ∧
      (Function.standard f).apply (call day zoned) env = .ok (.bag ⟨.date, [day]⟩) ∧
      ¬ f.Fails env.patterns (call day zoned) ∧ f.Fails env.patterns (call zoned day) ∧
      f.Complains env (call zoned day) := by
  intro day zoned f env call
  have hf : f.IsFirstOrder := fun _ h => nomatch h
  have hm : f ∈ all := by decide
  have hargs : ∀ v w, v.dataType = .date → w.dataType = .date →
      (∀ a ∈ call v w, a.WellTyped) ∧ (∀ b, .bag b ∈ call v w → b.size < 0x8000000000000000) ∧
        f.Accepts (call v w) := by
    intro v w hv hw
    refine ⟨?typed, ?small, (accepts_pair (r := .bag .date) (s := .bag .date) rfl rfl rfl).mpr
      ⟨rfl, rfl⟩⟩
    case typed =>
      refine List.forall_mem_cons.mpr ⟨List.forall_mem_singleton.mpr rfl, ?_⟩
      refine List.forall_mem_singleton.mpr (List.forall_mem_cons.mpr ⟨hv, ?_⟩)
      exact List.forall_mem_singleton.mpr hw
    case small =>
      intro b hb
      rcases List.mem_pair.mp hb with h | h <;> cases h <;> simp [Bag.size]
  have hok : (Function.standard f).apply (call day zoned) env = .ok (.bag ⟨.date, [day]⟩) := rfl
  have hmet : f.Fails env.patterns (call zoned day) :=
    .mixed (.set (by decide) ⟨[], [], [], rfl, .nil _,
      .inl ⟨[], [day], rfl, List.forall_mem_nil _⟩⟩)
      ⟨true, rfl, rfl⟩
  have hpasses := hargs day zoned rfl rfl
  have hfails := hargs zoned day rfl rfl
  refine ⟨hf, hm, hargs, hok, fun h => ?_, hmet, ?_⟩
  · obtain ⟨_, hs, -⟩ := ((apply_discipline hf hm hpasses.1 hpasses.2.1 env).2 hpasses.2.2).1 h
    rw [hok] at hs
    cases hs
  · exact ((apply_discipline hf hm hfails.1 hfails.2.1 env).2 hfails.2.2).1 hmet

end

end StandardFunction

end Abac
