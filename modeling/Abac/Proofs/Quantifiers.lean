import Mathlib.Data.List.Forall2
import Abac.Proofs.Multisets

/-!
# Quantified functions compute quantifiers

A quantified function applies another function to members of bags, one choice of
members at a time, and stops as soon as the answer is certain. It is a loop, a
backtracking search or a pair of loops, and what it computes is a quantifier.

* A loop that ends at the first true result, or at the first false one, tells
  whether there is such a result, provided that there is a result each time
  (`tells_anyMember`, `tells_testAll`).
* The search for a true choice goes through the arguments. What is left of it after
  some choices is the same search with fewer arguments, so by induction it tells
  whether some tuple of members satisfies the function (`tells_testChoices`).
* The two loops over a pair of bags tell of each value of the first bag whether
  some and whether all of the second satisfy the function with it, and end when
  this settles the quantifier (`tells_testPairs`).

Nothing is assumed of the function where two quantifiers are only compared. With a
single bag among values the search makes the same calls as the loop, in the same
order, so it fails where the loop fails (`agree_anyMember`).
-/

namespace Abac

/-! ## Functions at values -/

/-- What a function comes to at single values. -/
def Function.on (env : Surroundings) (f : Function) (vs : List Value) : Except Halt Outcome :=
  f.apply (vs.map .value) env

/-- A function is true of single values. -/
def Function.Holds (env : Surroundings) (f : Function) (vs : List Value) : Prop :=
  f.on env vs = .ok (.bool true)

/-- A function is true or false of single values. -/
def Function.Decides (env : Surroundings) (f : Function) (vs : List Value) : Prop :=
  ∃ b, f.on env vs = .ok (.bool b)

/-- A computation comes to the truth of a proposition. -/
def Tells (x : Except Halt Bool) (p : Prop) : Prop := ∃ b, x = .ok b ∧ (b = true ↔ p)

/-- An evaluation comes to the truth of a proposition. -/
def Answers (x : Except Halt Outcome) (p : Prop) : Prop := ∃ b, x = .ok (.bool b) ∧ (b = true ↔ p)

theorem Answers.eq_true {x : Except Halt Outcome} {p : Prop} (h : Answers x p) (hp : p) :
    x = .ok (.bool true) := by
  obtain ⟨b, hx, hb⟩ := h
  rwa [hb.mpr hp] at hx

theorem Answers.eq_false {x : Except Halt Outcome} {p : Prop} (h : Answers x p) (hp : ¬ p) :
    x = .ok (.bool false) := by
  obtain ⟨b, hx, hb⟩ := h
  rwa [Bool.eq_false_iff.mpr (hb.not.mpr hp)] at hx

theorem Tells.answers {x : Except Halt Bool} {p : Prop} (h : Tells x p) :
    Answers (x.map .bool) p := by
  obtain ⟨b, rfl, hb⟩ := h
  exact ⟨b, rfl, hb⟩

theorem Tells.congr {x : Except Halt Bool} {p q : Prop} (h : Tells x p) (hpq : p ↔ q) :
    Tells x q := by
  obtain ⟨b, rfl, hb⟩ := h
  exact ⟨b, rfl, hb.trans hpq⟩

/-- Two computations of a truth value come to the same one, or both halt. -/
def Agree (x y : Except Halt Bool) : Prop := (Halts x ∧ Halts y) ∨ ∃ b, x = .ok b ∧ y = .ok b

/-! ## One bag among values -/

/-- Single values with one bag among them. -/
def oneBag (pre : List Value) (b : Bag) (post : List Value) : List Outcome :=
  pre.map .value ++ .bag b :: post.map .value

section

variable {pre post : List Value} {b : Bag}

theorem map_ofOutcome_value (vs : List Value) :
    (vs.map Outcome.value).map Operand.ofOutcome = (vs.map .value : List Argument) :=
  List.map_map

theorem map_ofOutcome_oneBag :
    (oneBag pre b post).map Operand.ofOutcome =
      (pre.map .value ++ .bag b :: post.map .value : List Argument) := by
  rw [oneBag, List.map_append, List.map_cons, map_ofOutcome_value, map_ofOutcome_value]
  rfl

theorem length_oneBag : (oneBag pre b post).length = pre.length + post.length + 1 := by
  rw [oneBag, List.length_append, List.length_cons, List.length_map, List.length_map,
    Nat.add_assoc]

/-- Values in front only move the places of the bags. -/
theorem bagPlaces_values_append (position : Nat) (vs : List Value) (rest : List Argument) :
    bagPlaces position (vs.map .value ++ rest) = bagPlaces (position + vs.length) rest := by
  induction vs generalizing position with
  | nil => rfl
  | cons v vs ih =>
      show bagPlaces (position + 1) (vs.map .value ++ rest) = _
      rw [ih, List.length_cons, Nat.add_right_comm, Nat.add_assoc]

theorem bagPlaces_oneBag :
    bagPlaces 0 (pre.map .value ++ .bag b :: post.map .value) = [(pre.length, b)] := by
  have hpost := bagPlaces_values_append (pre.length + 1) post []
  rw [List.append_nil] at hpost
  rw [bagPlaces_values_append, Nat.zero_add, bagPlaces, hpost]
  rfl

theorem replaceWithEach_eq {args : List Argument} {position : Nat} (h : position < args.length)
    (vs : List Value) :
    replaceWithEach args position vs = .ok (vs.map fun v => args.set position (.value v)) := by
  induction vs with
  | nil => rfl
  | cons v rest ih =>
      rw [replaceWithEach, replaceAt, if_pos h, ih]
      rfl

/-- **Each member of the only bag takes its place.** -/
theorem substitutions_oneBag (id : Identifier) :
    substitutions id ((oneBag pre b post).map .ofOutcome) =
      .ok (b.values.map fun v => (pre ++ v :: post).map .value) := by
  have hlt : pre.length <
      (pre.map .value ++ .bag b :: post.map .value : List Argument).length := by
    simp
  have hset : ∀ v, (pre.map .value ++ .bag b :: post.map .value : List Argument).set pre.length
      (.value v) = (pre ++ v :: post).map .value := by
    intro v
    simp
  rw [map_ofOutcome_oneBag, substitutions, bagPlaces_oneBag]
  simp only [replaceWithEach_eq hlt, hset]

end

/-! ## The loops -/

section

variable {inner : Apply} {id : Identifier} {f : Function}

theorem test_eq_ok_iff {call : List Argument} {b : Bool} :
    test inner id f call = .ok b ↔ inner f call = .ok (.bool b) := by
  rw [test, Outcome.bool]
  split
  · rename_i h
    simp [h]
  · rename_i c h
    simp [h]
  · rename_i hne h
    simp only [h, complain, Except.ok.injEq, reduceCtorEq, false_iff]
    exact hne b

/-- A function that comes to no truth value makes every quantifier halt. -/
theorem agree_test (id' : Identifier) (call : List Argument) :
    Agree (test inner id f call) (test inner id' f call) := by
  cases h : test inner id f call with
  | ok b => exact .inr ⟨b, rfl, test_eq_ok_iff.mpr (test_eq_ok_iff.mp h)⟩
  | error e =>
      refine .inl ⟨halts_error e, halts_iff_forall_ne.mpr fun b hb => ?_⟩
      cases h.symm.trans (test_eq_ok_iff.mpr (test_eq_ok_iff.mp hb))

theorem anyMember_singleton (found : Value → Except Halt Bool) (v : Value) :
    anyMember found [v] = found v := by
  rw [anyMember]
  cases found v with
  | error e => rfl
  | ok b => cases b <;> rfl

theorem testAny_map (g : Value → List Argument) (vs : List Value) :
    testAny inner id f (vs.map g) = anyMember (fun v => test inner id f (g v)) vs := by
  induction vs with
  | nil => rfl
  | cons v rest ih =>
      rw [List.map_cons, testAny, anyMember, ih]

/-- **A search that always gets an answer tells whether there is a true one.** -/
theorem tells_anyMember {found : Value → Except Halt Bool} {P : Value → Prop} {vs : List Value}
    (h : ∀ v ∈ vs, Tells (found v) (P v)) : Tells (anyMember found vs) (∃ v ∈ vs, P v) := by
  induction vs with
  | nil => exact ⟨false, rfl, by simp⟩
  | cons v rest ih =>
      obtain ⟨⟨b, hb, hp⟩, hrest⟩ := List.forall_mem_cons.mp h
      rw [anyMember, hb, List.exists_mem_cons_iff]
      cases b with
      | true => exact ⟨true, rfl, iff_of_true rfl (.inl (hp.mp rfl))⟩
      | false =>
          have hnot : ¬ P v := hp.not.mp Bool.false_ne_true
          exact (ih hrest).congr (or_iff_right hnot).symm

theorem tells_testAll {g : Value → List Argument} {P : Value → Prop} {vs : List Value}
    (h : ∀ v ∈ vs, Tells (test inner id f (g v)) (P v)) :
    Tells (testAll inner id f (vs.map g)) (∀ v ∈ vs, P v) := by
  induction vs with
  | nil => exact ⟨true, rfl, by simp⟩
  | cons v rest ih =>
      obtain ⟨⟨b, hb, hp⟩, hrest⟩ := List.forall_mem_cons.mp h
      rw [List.map_cons, testAll, hb, List.forall_mem_cons]
      cases b with
      | true => exact (ih hrest).congr (and_iff_right (hp.mp rfl)).symm
      | false =>
          have hnot : ¬ P v := hp.not.mp Bool.false_ne_true
          exact ⟨false, rfl, iff_of_false Bool.false_ne_true fun h => hnot h.1⟩

/-- Searches that agree at every step agree. -/
theorem agree_anyMember {found found' : Value → Except Halt Bool}
    (h : ∀ v, Agree (found v) (found' v)) (vs : List Value) :
    Agree (anyMember found vs) (anyMember found' vs) := by
  induction vs with
  | nil => exact .inr ⟨false, rfl, rfl⟩
  | cons v rest ih =>
      rw [anyMember, anyMember]
      rcases h v with ⟨⟨e, he⟩, e', he'⟩ | ⟨b, hb, hb'⟩
      · rw [he, he']
        exact .inl ⟨halts_error e, halts_error e'⟩
      · rw [hb, hb']
        cases b with
        | true => exact .inr ⟨true, rfl, rfl⟩
        | false => exact ih

/-! ## The search -/

/-- A choice of a value from each of several values and bags. -/
def Picks (vs : List Value) (data : List Outcome) : Prop :=
  List.Forall₂ (fun v o => v ∈ o.values) vs data

theorem exists_picks_cons {P : List Value → Prop} {o : Outcome} {data : List Outcome} :
    (∃ vs, Picks vs (o :: data) ∧ P vs) ↔ ∃ v ∈ o.values, ∃ vs, Picks vs data ∧ P (v :: vs) := by
  constructor
  · rintro ⟨_, hp, h⟩
    cases hp with
    | cons hv hvs => exact ⟨_, hv, _, hvs, h⟩
  · rintro ⟨v, hv, vs, hvs, h⟩
    exact ⟨v :: vs, .cons hv hvs, h⟩

/-- A single value is searched like a bag that holds it. -/
theorem testChoices_cons (index : Nat) (chosen : List Argument) (o : Outcome)
    (rest : List Argument) :
    testChoices inner id f index chosen (.ofOutcome o :: rest) =
      anyMember (fun v => testChoices inner id f (index + 1) (chosen ++ [.value v]) rest)
        o.values := by
  cases o <;> rfl

/-- **The search tells whether some tuple satisfies the function.** -/
theorem tells_testChoices {P : List Value → Prop} {data : List Outcome} (index : Nat)
    (chosen : List Argument)
    (h : ∀ vs, Picks vs data → Tells (test inner id f (chosen ++ vs.map .value)) (P vs)) :
    Tells (testChoices inner id f index chosen (data.map .ofOutcome))
      (∃ vs, Picks vs data ∧ P vs) := by
  induction data generalizing index chosen P with
  | nil =>
      have hnil := h [] .nil
      rw [List.map_nil, List.append_nil] at hnil
      refine hnil.congr ⟨fun hp => ⟨[], .nil, hp⟩, ?_⟩
      rintro ⟨_, ⟨⟩, hp⟩
      exact hp
  | cons o data ih =>
      rw [List.map_cons, testChoices_cons, exists_picks_cons]
      -- the choice from the first argument moves to those that were made before
      refine tells_anyMember fun v hv => ih (index + 1) _ fun vs hvs => ?_
      rw [List.append_assoc]
      exact h (v :: vs) (.cons hv hvs)

/-- Single values leave nothing to choose. -/
theorem testChoices_values (index : Nat) (chosen : List Argument) (vs : List Value) :
    testChoices inner id f index chosen (vs.map .value) =
      test inner id f (chosen ++ vs.map .value) := by
  induction vs generalizing index chosen with
  | nil => rw [List.map_nil, testChoices, List.append_nil]
  | cons v rest ih =>
      rw [List.map_cons, testChoices, anyMember_singleton, ih, List.append_assoc]
      rfl

/-- **With one bag among values the search is the loop over its members.** -/
theorem testChoices_oneBag (index : Nat) (chosen : List Argument) (pre post : List Value)
    (b : Bag) :
    testChoices inner id f index chosen (pre.map .value ++ .bag b :: post.map .value) =
      anyMember (fun v => test inner id f (chosen ++ (pre ++ v :: post).map .value)) b.values := by
  induction pre generalizing index chosen with
  | nil =>
      rw [List.map_nil, List.nil_append, testChoices]
      simp only [testChoices_values, List.append_assoc]
      rfl
  | cons v rest ih =>
      rw [List.map_cons, List.cons_append, testChoices, anyMember_singleton, ih]
      simp only [List.append_assoc]
      rfl

/-! ## Pairs -/

/-- What a quantifier over two bags asks of the pairs of their values. -/
def Quantifier.OfPairs (P : Value → Value → Prop) (left right : List Value) : Quantifier → Prop
  | .allOfAny => ∀ a ∈ left, ∃ b ∈ right, P a b
  | .anyOfAll => ∃ a ∈ left, ∀ b ∈ right, P a b
  | .allOfAll => ∀ a ∈ left, ∀ b ∈ right, P a b
  | _ => True

/-- One value with all values of the second bag. -/
theorem testAgainst_eq_ok {P : Value → Prop} {a : Value} {ws : List Value}
    (h : ∀ b ∈ ws, Tells (test inner id f [.value a, .value b]) (P b)) :
    ∃ any all, testAgainst inner id f a ws = .ok (any, all) ∧
      (any = true ↔ ∃ b ∈ ws, P b) ∧ (all = true ↔ ∀ b ∈ ws, P b) := by
  induction ws with
  | nil => exact ⟨false, true, rfl, by simp, by simp⟩
  | cons b rest ih =>
      obtain ⟨⟨t, ht, hp⟩, hrest⟩ := List.forall_mem_cons.mp h
      obtain ⟨any, all, htest, hany, hall⟩ := ih hrest
      refine ⟨t || any, t && all, by rw [testAgainst, ht, htest], ?_, ?_⟩
      · rw [Bool.or_eq_true, hp, hany, List.exists_mem_cons_iff]
      · rw [Bool.and_eq_true, hp, hall, List.forall_mem_cons]

/-- **The two loops tell what their quantifier asks of the pairs.** -/
theorem tells_testPairs {P : Value → Value → Prop} (q : Quantifier) {left right : List Value}
    (h : ∀ a ∈ left, ∀ b ∈ right, Tells (test inner id f [.value a, .value b]) (P a b)) :
    Tells (testPairs inner id q f right left) (q.OfPairs P left right) := by
  induction left with
  | nil => exact ⟨q != .anyOfAll, rfl, by cases q <;> simp [Quantifier.OfPairs]⟩
  | cons a rest ih =>
      obtain ⟨ha, hrest⟩ := List.forall_mem_cons.mp h
      obtain ⟨any, all, htest, hany, hall⟩ := testAgainst_eq_ok ha
      have hr := ih hrest
      rw [testPairs, htest]
      cases q with
      | allOfAny =>
          simp only [Quantifier.settled, Quantifier.OfPairs, List.forall_mem_cons, ← hany] at hr ⊢
          cases any with
          | true => exact hr.congr (and_iff_right rfl).symm
          | false => exact ⟨false, rfl, by simp⟩
      | anyOfAll =>
          simp only [Quantifier.settled, Quantifier.OfPairs, List.exists_mem_cons_iff, ← hall]
            at hr ⊢
          cases all with
          | true => exact ⟨true, rfl, by simp⟩
          | false => exact hr.congr (or_iff_right Bool.false_ne_true).symm
      | allOfAll =>
          simp only [Quantifier.settled, Quantifier.OfPairs, List.forall_mem_cons, ← hall] at hr ⊢
          cases all with
          | true => exact hr.congr (and_iff_right rfl).symm
          | false => exact ⟨false, rfl, by simp⟩
      | _ => exact hr

/-! ## Maps -/

/-- The results are those of the calls, one by one. -/
theorem results_eq_ok_iff {g : Value → List Argument} {vs ws : List Value} :
    results inner id f (vs.map g) = .ok ws ↔
      List.Forall₂ (fun v w => inner f (g v) = .ok (.value w)) vs ws := by
  induction vs generalizing ws with
  | nil => cases ws <;> simp [results]
  | cons v rest ih =>
      rw [List.map_cons, results]
      cases hv : inner f (g v) with
      | error e =>
          simp only [reduceCtorEq, false_iff]
          intro h
          cases h with
          | cons hw _ => cases hv.symm.trans hw
      | ok o =>
          cases o with
          | bag b =>
              simp only [complain, reduceCtorEq, false_iff]
              intro h
              cases h with
              | cons hw _ => cases hv.symm.trans hw
          | value u =>
              constructor
              · intro h
                obtain ⟨us, hus, rfl⟩ := Except.map_eq_ok_iff.mp h
                exact .cons hv (ih.mp hus)
              · intro h
                cases h with
                | cons hw hws =>
                    cases hv.symm.trans hw
                    exact Except.map_eq_ok_iff.mpr ⟨_, ih.mpr hws, rfl⟩

/-- The type of a bag of results: that of the first one, or else the one that the function declares.
-/
def Function.resultType (f : Function) (ws : List Value) : DataType :=
  ((ws.head?.map Value.dataType).orElse fun _ => f.returnType).getD .string

theorem Function.dataType_eq_resultType {ws : List Value} {t : DataType}
    (h : ∀ w ∈ ws, w.dataType = t) : ∀ w ∈ ws, w.dataType = f.resultType ws := by
  cases ws with
  | nil => exact List.forall_mem_nil _
  | cons u us =>
      have hu : f.resultType (u :: us) = u.dataType := rfl
      rw [hu, h u List.mem_cons_self]
      exact h

/-- **A map succeeds with the bag of the results**, if they are values of one type. -/
theorem mapMembers_eq_ok_iff {args : List Argument} {g : Value → List Argument} {vs : List Value}
    (hs : substitutions id args = .ok (vs.map g)) {o : Outcome} :
    mapMembers inner id f args = .ok o ↔
      ∃ ws, List.Forall₂ (fun v w => inner f (g v) = .ok (.value w)) vs ws ∧
        (∀ w ∈ ws, w.dataType = f.resultType ws) ∧ o = .bag ⟨f.resultType ws, ws⟩ := by
  have hresults : ∀ ws, List.Forall₂ (fun v w => inner f (g v) = .ok (.value w)) vs ws ↔
      results inner id f (vs.map g) = .ok ws := fun ws => results_eq_ok_iff.symm
  rw [mapMembers, hs]
  simp only [hresults, bind, Except.bind]
  cases hr : results inner id f (vs.map g) with
  | error e =>
      refine iff_of_false (fun h => nomatch h) ?_
      rintro ⟨ws, hws, -⟩
      cases hws
  | ok ws =>
      simp only [Except.ok.injEq, exists_eq_left']
      have ht : (((ws.head?.map Value.dataType).orElse fun _ => f.returnType).getD .string) =
          f.resultType ws := rfl
      rw [ht]
      cases hb : Bag.ofValues (f.resultType ws) ws with
      | error e =>
          refine iff_of_false (fun h => nomatch h) fun h => ?_
          cases hb.symm.trans (Bag.ofValues_eq_ok_iff.mpr ⟨rfl, h.1⟩)
      | ok c =>
          obtain ⟨rfl, hw⟩ := Bag.ofValues_eq_ok_iff.mp hb
          constructor
          · intro h
            exact ⟨hw, (Except.ok.inj h).symm⟩
          · rintro ⟨-, rfl⟩
            rfl

end

/-! ## Calls -/

namespace Quantifier

variable {env : Surroundings} {f : Function} {data : List Outcome} {pre post : List Value} {b : Bag}

/-- The call of a quantified function with a function and with values and bags. -/
def call (env : Surroundings) (q : Quantifier) (f : Function) (data : List Outcome) :
    Except Halt Outcome :=
  (Function.standard (.quantified q)).apply (.function f :: data.map .ofOutcome) env

/-- Below a call there are as many levels left as it has arguments besides the function. -/
theorem call_eq (q : Quantifier) (h : q.arity.accepts (data.length + 1) = true) :
    q.call env f data = applyQuantifier (applyNested env data.length)
      (StandardFunction.quantified q).id q f (data.map .ofOutcome) := by
  have hlen : (Operand.function f :: data.map Operand.ofOutcome).length = data.length + 1 := by
    rw [List.length_cons, List.length_map]
  have harity : checkArity (StandardFunction.quantified q).id (StandardFunction.quantified q).arity
      (Operand.function f :: data.map Operand.ofOutcome) = .ok () := by
    rw [StandardFunction.checkArity_eq_ok_iff, hlen]
    exact h
  rw [call, Function.apply, hlen, applyNested, applyWith, harity]
  rfl

/-- Those levels are the ones that the function has on its own. -/
theorem applyNested_eq_on {n : Nat} {vs : List Value} (h : vs.length = n) :
    applyNested env n f (vs.map .value) = f.on env vs := by
  rw [Function.on, Function.apply, List.length_map, h]

theorem tells_test {n : Nat} {vs : List Value} {id : Identifier} (h : vs.length = n)
    (hd : f.Decides env vs) :
    Tells (test (applyNested env n) id f (vs.map .value)) (f.Holds env vs) := by
  obtain ⟨b, hb⟩ := hd
  have hon : applyNested env n f (vs.map .value) = f.on env vs := applyNested_eq_on h
  refine ⟨b, test_eq_ok_iff.mpr (hon.trans hb), ?_⟩
  rw [Function.Holds, hb]
  simp [Outcome.bool]

theorem length_append_cons (pre post : List Value) (b : Bag) (v : Value) :
    (pre ++ v :: post).length = (oneBag pre b post).length := by
  rw [length_oneBag, List.length_append, List.length_cons, Nat.add_assoc]

/-- One bag among values is enough for a quantifier that takes any number of them. -/
theorem accepts_oneBag {q : Quantifier} (hq : q.arity = .atLeast 2) :
    q.arity.accepts ((oneBag pre b post).length + 1) = true := by
  rw [hq, length_oneBag]
  simp [Arity.accepts]

theorem call_anyOf_eq :
    anyOf.call env f (oneBag pre b post) =
      (anyMember (fun v => test (applyNested env (oneBag pre b post).length)
        (StandardFunction.quantified anyOf).id f ((pre ++ v :: post).map .value)) b.values).map
        .bool := by
  rw [call_eq anyOf (accepts_oneBag rfl), applyQuantifier, substitutions_oneBag, ← testAny_map]
  rfl

/-- **Any-of is the existential quantifier** over the members of the only bag. -/
theorem answers_anyOf (h : ∀ v ∈ b.values, f.Decides env (pre ++ v :: post)) :
    Answers (anyOf.call env f (oneBag pre b post))
      (∃ v ∈ b.values, f.Holds env (pre ++ v :: post)) := by
  rw [call_anyOf_eq]
  exact (tells_anyMember fun v hv => tells_test (length_append_cons pre post b v) (h v hv)).answers

/-- **All-of is the universal quantifier** over the members of the only bag. -/
theorem answers_allOf (h : ∀ v ∈ b.values, f.Decides env (pre ++ v :: post)) :
    Answers (allOf.call env f (oneBag pre b post))
      (∀ v ∈ b.values, f.Holds env (pre ++ v :: post)) := by
  have hcall : allOf.call env f (oneBag pre b post) =
      (testAll (applyNested env (oneBag pre b post).length) (StandardFunction.quantified allOf).id f
        (b.values.map fun v => (pre ++ v :: post).map .value)).map .bool := by
    rw [call_eq allOf (accepts_oneBag rfl), applyQuantifier, substitutions_oneBag]
    rfl
  rw [hcall]
  exact (tells_testAll fun v hv => tells_test (length_append_cons pre post b v) (h v hv)).answers

theorem call_anyOfAny_eq (h : data ≠ []) :
    anyOfAny.call env f data =
      (testChoices (applyNested env data.length) (StandardFunction.quantified anyOfAny).id f 1 []
        (data.map .ofOutcome)).map .bool := by
  have hlen : 0 < data.length := List.length_pos_iff.mpr h
  have harity : anyOfAny.arity.accepts (data.length + 1) = true := by
    simp [arity, Arity.accepts]
    omega
  rw [call_eq anyOfAny harity, applyQuantifier]

/-- **Any-of-any is the existential quantifier** over tuples of members. -/
theorem answers_anyOfAny (hne : data ≠ []) (h : ∀ vs, Picks vs data → f.Decides env vs) :
    Answers (anyOfAny.call env f data) (∃ vs, Picks vs data ∧ f.Holds env vs) := by
  rw [call_anyOfAny_eq hne]
  exact (tells_testChoices 1 [] fun vs hvs => tells_test hvs.length_eq (h vs hvs)).answers

/-- **Quantifiers over two bags** are what they are called. -/
theorem answers_pairs {q : Quantifier} (hq : q = .allOfAny ∨ q = .anyOfAll ∨ q = .allOfAll)
    {l r : Bag} (h : ∀ a ∈ l.values, ∀ b ∈ r.values, f.Decides env [a, b]) :
    Answers (q.call env f [.bag l, .bag r])
      (q.OfPairs (fun a b => f.Holds env [a, b]) l.values r.values) := by
  have harity : q.arity.accepts ([Outcome.bag l, .bag r].length + 1) = true := by
    rcases hq with rfl | rfl | rfl <;> rfl
  have hcall : q.call env f [.bag l, .bag r] =
      (testPairs (applyNested env 2) (StandardFunction.quantified q).id q f r.values l.values).map
        .bool := by
    rw [call_eq q harity]
    rcases hq with rfl | rfl | rfl <;> rfl
  have htest : ∀ a ∈ l.values, ∀ b ∈ r.values,
      Tells (test (applyNested env 2) (StandardFunction.quantified q).id f [.value a, .value b])
        (f.Holds env [a, b]) := by
    intro a ha b hb
    exact tells_test rfl (h a ha b hb)
  rw [hcall]
  exact (tells_testPairs q htest).answers

/-- **Both searches for a member of a single bag agree**, whatever the function does. -/
theorem agree_anyOf_anyOfAny :
    ∃ x y, Agree x y ∧ anyOf.call env f (oneBag pre b post) = x.map .bool ∧
      anyOfAny.call env f (oneBag pre b post) = y.map .bool := by
  have hne : oneBag pre b post ≠ [] := by simp [oneBag]
  refine ⟨_, _, agree_anyMember (fun v => agree_test (StandardFunction.quantified anyOfAny).id _)
    b.values, call_anyOf_eq, ?_⟩
  rw [call_anyOfAny_eq hne, map_ofOutcome_oneBag, testChoices_oneBag]
  rfl

theorem call_map_eq_ok_iff {o : Outcome} :
    map.call env f (oneBag pre b post) = .ok o ↔
      ∃ ws, List.Forall₂ (fun v w => f.on env (pre ++ v :: post) = .ok (.value w)) b.values ws ∧
        (∀ w ∈ ws, w.dataType = f.resultType ws) ∧ o = .bag ⟨f.resultType ws, ws⟩ := by
  have hon : ∀ v, applyNested env (oneBag pre b post).length f ((pre ++ v :: post).map .value) =
      f.on env (pre ++ v :: post) := fun v => applyNested_eq_on (length_append_cons pre post b v)
  rw [call_eq map (accepts_oneBag rfl), applyQuantifier,
    mapMembers_eq_ok_iff (substitutions_oneBag _)]
  simp only [hon]

/-- **A map fails exactly if the results are not values of one type.** -/
theorem halts_call_map_iff :
    Halts (map.call env f (oneBag pre b post)) ↔
      ¬ ∃ t ws, List.Forall₂ (fun v w => f.on env (pre ++ v :: post) = .ok (.value w)) b.values ws ∧
        ∀ w ∈ ws, w.dataType = t := by
  rw [halts_iff_forall_ne]
  constructor
  · rintro hne ⟨t, ws, hws, ht⟩
    exact hne _ (call_map_eq_ok_iff.mpr ⟨ws, hws, Function.dataType_eq_resultType ht, rfl⟩)
  · intro hnot o ho
    obtain ⟨ws, hws, ht, -⟩ := call_map_eq_ok_iff.mp ho
    exact hnot ⟨_, ws, hws, ht⟩

/-- **Quantified functions compute quantifiers.** A function that is true or false at all arguments
in question is true of some or of all members of the only bag, of some tuple of members, or of the
pairs of two bags, exactly if the quantified function says so; empty bags are no exception. Whatever
the function, the two ways to ask for some member of a single bag come to the same answer or both
fail. A map comes to the bag of the results for the members, in their order, and it fails exactly if
these are not values of one type. -/
theorem compute_quantifiers (env : Surroundings) (f : Function) :
    (∀ pre b post, (∀ v ∈ b.values, f.Decides env (pre ++ v :: post)) →
      Answers (anyOf.call env f (oneBag pre b post))
        (∃ v ∈ b.values, f.Holds env (pre ++ v :: post)) ∧
      Answers (allOf.call env f (oneBag pre b post))
        (∀ v ∈ b.values, f.Holds env (pre ++ v :: post))) ∧
    (∀ data, data ≠ [] → (∀ vs, Picks vs data → f.Decides env vs) →
      Answers (anyOfAny.call env f data) (∃ vs, Picks vs data ∧ f.Holds env vs)) ∧
    (∀ l r : Bag, (∀ a ∈ l.values, ∀ b ∈ r.values, f.Decides env [a, b]) →
      Answers (allOfAny.call env f [.bag l, .bag r])
        (∀ a ∈ l.values, ∃ b ∈ r.values, f.Holds env [a, b]) ∧
      Answers (anyOfAll.call env f [.bag l, .bag r])
        (∃ a ∈ l.values, ∀ b ∈ r.values, f.Holds env [a, b]) ∧
      Answers (allOfAll.call env f [.bag l, .bag r])
        (∀ a ∈ l.values, ∀ b ∈ r.values, f.Holds env [a, b])) ∧
    (∀ pre b post,
      (Halts (anyOf.call env f (oneBag pre b post)) ∧
          Halts (anyOfAny.call env f (oneBag pre b post))) ∨
        ∃ t : Bool, anyOf.call env f (oneBag pre b post) = .ok (.bool t) ∧
          anyOfAny.call env f (oneBag pre b post) = .ok (.bool t)) ∧
    ∀ pre b post,
      (∀ o, map.call env f (oneBag pre b post) = .ok o → ∃ c : Bag, o = .bag c ∧ c.WellTyped ∧
        c.size = b.size ∧
        List.Forall₂ (fun v w => f.on env (pre ++ v :: post) = .ok (.value w)) b.values c.values) ∧
      (Halts (map.call env f (oneBag pre b post)) ↔
        ¬ ∃ t ws, List.Forall₂ (fun v w => f.on env (pre ++ v :: post) = .ok (.value w))
          b.values ws ∧ ∀ w ∈ ws, w.dataType = t) := by
  refine ⟨fun pre b post hd => ⟨answers_anyOf hd, answers_allOf hd⟩,
    fun data hne hd => answers_anyOfAny hne hd,
    fun l r hd => ⟨answers_pairs (.inl rfl) hd, answers_pairs (.inr (.inl rfl)) hd,
      answers_pairs (.inr (.inr rfl)) hd⟩,
    fun pre b post => ?same, fun pre b post => ⟨fun o ho => ?results, halts_call_map_iff⟩⟩
  case same =>
    obtain ⟨x, y, ⟨hx, hy⟩ | ⟨t, rfl, rfl⟩, hany, hanyAny⟩ := agree_anyOf_anyOfAny
    · rw [hany, hanyAny, halts_map_iff, halts_map_iff]
      exact .inl ⟨hx, hy⟩
    · exact .inr ⟨t, hany, hanyAny⟩
  case results =>
    obtain ⟨ws, hws, ht, rfl⟩ := call_map_eq_ok_iff.mp ho
    exact ⟨_, rfl, ht, hws.length_eq.symm, hws⟩

/-- Greater-than with the numbers 3 and 5 and the numbers 1 and 4. -/
theorem compute_quantifiers_greater :
    let greater : Function := .standard (.compare .integer .greaterThan)
    let high : Bag := ⟨.integer, [.integer 3, .integer 5]⟩
    let low : Bag := ⟨.integer, [.integer 1, .integer 4]⟩
    anyOf.call .bare greater (oneBag [.integer 4] high []) = .ok (.bool true) ∧
      allOf.call .bare greater (oneBag [.integer 4] high []) = .ok (.bool false) ∧
      anyOfAny.call .bare greater [.bag low, .bag high] = .ok (.bool true) ∧
      allOfAny.call .bare greater [.bag high, .bag low] = .ok (.bool true) ∧
      allOfAll.call .bare greater [.bag high, .bag low] = .ok (.bool false) ∧
      ∃ c : Bag, map.call .bare greater (oneBag [.integer 4] high []) = .ok (.bag c) ∧
        c.size = 2 := by
  intro greater high low
  have hon : ∀ a b : Int64, greater.on .bare [.integer a, .integer b] =
      .ok (.bool (Comparison.greaterThan.holds (Ord.compare a.toInt b.toInt))) := fun _ _ => rfl
  have hnot : ¬ greater.Holds .bare [.integer 3, .integer 4] := fun h => nomatch h
  have hhigh : ∀ v ∈ high.values, ∃ i, v = .integer i := by simp [high]
  have hlow : ∀ v ∈ low.values, ∃ i, v = .integer i := by simp [low]
  obtain ⟨hone, htuples, hpairs, -, hmap⟩ := compute_quantifiers .bare greater
  have hfour : ∀ v ∈ high.values, greater.Decides .bare ([.integer 4] ++ v :: []) := by
    intro v hv
    obtain ⟨i, rfl⟩ := hhigh v hv
    exact ⟨_, hon 4 i⟩
  have hpicks : ∀ vs, Picks vs [.bag low, .bag high] → greater.Decides .bare vs := by
    rintro _ (_ | ⟨ha, _ | ⟨hb, ⟨⟩⟩⟩)
    obtain ⟨i, rfl⟩ := hlow _ ha
    obtain ⟨j, rfl⟩ := hhigh _ hb
    exact ⟨_, hon i j⟩
  have hall : ∀ a ∈ high.values, ∀ b ∈ low.values, greater.Decides .bare [a, b] := by
    intro a ha b hb
    obtain ⟨i, rfl⟩ := hhigh a ha
    obtain ⟨j, rfl⟩ := hlow b hb
    exact ⟨_, hon i j⟩
  obtain ⟨hsome, hevery⟩ := hone [.integer 4] high [] hfour
  obtain ⟨hallAny, -, hallAll⟩ := hpairs high low hall
  refine ⟨hsome.eq_true ?some, hevery.eq_false ?every, (htuples _ (by simp) hpicks).eq_true ?tuple,
    hallAny.eq_true ?allAny, hallAll.eq_false ?allAll, ?map⟩
  case some => exact ⟨.integer 3, by simp [high], hon 4 3⟩
  case every => exact fun h => nomatch h (.integer 5) (by simp [high])
  case tuple =>
    have hpick : Picks [.integer 4, .integer 3] [.bag low, .bag high] :=
      .cons (by simp [low, Outcome.values]) (.cons (by simp [high, Outcome.values]) .nil)
    exact ⟨_, hpick, hon 4 3⟩
  case allAny =>
    intro a ha
    refine ⟨.integer 1, by simp [low], ?_⟩
    rcases List.mem_pair.mp ha with rfl | rfl
    · exact hon 3 1
    · exact hon 5 1
  case allAll =>
    exact fun h => hnot (h (.integer 3) (by simp [high]) (.integer 4) (by simp [low]))
  case map =>
    have hok : map.call .bare greater (oneBag [.integer 4] high []) =
        .ok (.bag ⟨.boolean, [.boolean true, .boolean false]⟩) := rfl
    obtain ⟨c, hc, -, hsize, -⟩ := (hmap _ _ _).1 _ hok
    exact ⟨c, hok.trans (congrArg _ hc), hsize⟩

/-- Conjunction is true of no values at all, but any-of-any asks for at least one argument besides
the function. -/
theorem anyOfAny_needs_data :
    let all : Function := .standard (.logical .and)
    (∀ vs, Picks vs [] → all.Decides .bare vs) ∧ (∃ vs, Picks vs [] ∧ all.Holds .bare vs) ∧
      anyOfAny.call .bare all [] =
        complain (StandardFunction.quantified anyOfAny).id (.argumentCount (.atLeast 2) 1) := by
  intro all
  refine ⟨?_, ⟨[], .nil, rfl⟩, rfl⟩
  rintro _ ⟨⟩
  exact ⟨true, rfl⟩

end Quantifier

end Abac
