import Abac.Function.FirstOrder

/-!
# Comparisons that cannot be made

Two dates, times or instants cannot be compared if only one of them has a time
zone (`Value.Mixed`); any other two values of one type can. A function that looks
for a value among others therefore halts exactly if it comes upon one that does
not mix with it. How far it looks is a matter of what it found before: a search
ends at the first equal value, and a set function goes through the values of a bag
one by one, keeping some of them, until one settles the question.

The loops of the set functions differ in when they pass over a value and in what
they compare it with (`SetOperation.Next`, `SetOperation.Looks`), and are alike in
the rest: they halt if some value stops them that all earlier values have let them
come to (`Stops`).
-/

namespace Abac

/-! ## Halting -/

/-- There is no result. -/
def Halts {α : Type} (x : Except Halt α) : Prop := ∃ h, x = .error h

section

variable {α β : Type} {x : Except Halt α}

theorem halts_error (h : Halt) : Halts (.error h : Except Halt α) := ⟨h, rfl⟩

theorem not_halts_ok (a : α) : ¬ Halts (.ok a) := fun ⟨_, h⟩ => nomatch h

theorem not_halts_iff : ¬ Halts x ↔ ∃ a, x = .ok a := by
  cases x with
  | ok a => exact iff_of_true (not_halts_ok a) ⟨a, rfl⟩
  | error h => exact iff_of_false (fun hn => hn (halts_error h)) fun ⟨_, ha⟩ => nomatch ha

theorem halts_iff_forall_ne : Halts x ↔ ∀ a, x ≠ .ok a := by
  cases x with
  | ok a => exact iff_of_false (not_halts_ok a) fun h => h a rfl
  | error h => exact iff_of_true (halts_error h) fun _ h => nomatch h

theorem halts_bind_iff {f : α → Except Halt β} :
    Halts (x >>= f) ↔ ∀ a, x = .ok a → Halts (f a) := by
  cases x with
  | error h => exact iff_of_true (halts_error h) fun _ h => nomatch h
  | ok a => exact ⟨fun h _ hb => Except.ok.inj hb ▸ h, fun h => h a rfl⟩

theorem halts_map_iff {f : α → β} : Halts (x.map f) ↔ Halts x := by
  cases x with
  | error h => exact iff_of_true (halts_error h) (halts_error h)
  | ok a => exact iff_of_false (not_halts_ok (f a)) (not_halts_ok a)

/-- Whether the rest halts may not depend on what came before. -/
theorem halts_bind_iff_or {f : α → Except Halt β} {P : Prop} (hf : ∀ a, Halts (f a) ↔ P) :
    Halts (x >>= f) ↔ Halts x ∨ (¬ Halts x ∧ P) := by
  cases x with
  | error h => exact iff_of_true (halts_error h) (.inl (halts_error h))
  | ok a =>
      have hx := not_halts_ok (α := α) a
      exact (hf a).trans ⟨fun h => .inr ⟨hx, h⟩, fun h => h.elim (absurd · hx) And.right⟩

theorem halts_bind_pure_iff {f : α → β} : Halts (x >>= fun a => pure (f a)) ↔ Halts x :=
  halts_map_iff

theorem halts_complain (id : Identifier) (c : Complaint) :
    Halts (complain id c : Except Halt α) := halts_error _

end

/-! ## Time zones -/

/-- Whether a date, a time or an instant has a time zone. -/
def Value.zoned? : Value → Option Bool
  | .date d => some d.offset.isSome
  | .time t => some t.offset.isSome
  | .dateTime d => some d.offset.isSome
  | _ => none

/-- One of two dates, times or instants has a time zone and the other has none. -/
def Value.Mixed (v w : Value) : Prop := ∃ z, v.zoned? = some z ∧ w.zoned? = some !z

theorem Value.Mixed.symm {v w : Value} (h : v.Mixed w) : w.Mixed v := by
  obtain ⟨z, hv, hw⟩ := h
  exact ⟨!z, hw, by rw [hv, Bool.not_not]⟩

theorem Value.not_mixed_of_none {v w : Value} (h : v.zoned? = none) : ¬ v.Mixed w := by
  rintro ⟨z, hz, -⟩
  rw [h] at hz
  cases hz

theorem Value.mixed_iff_of_zoned {v w : Value} {y z : Bool} (hv : v.zoned? = some y)
    (hw : w.zoned? = some z) : v.Mixed w ↔ z = !y := by
  simp [Mixed, hv, hw]

variable (id : Identifier)

theorem halts_compared_ofZoned_iff (a b : Zoned Point) :
    Halts (compared id (Value.ofZoned (Temporal.cmpZoned a b))) ↔
      b.offset.isSome = !a.offset.isSome := by
  obtain ⟨p, o⟩ := a
  obtain ⟨q, o'⟩ := b
  cases o <;> cases o' <;> simp [Temporal.cmpZoned, Value.ofZoned, compared, Halts, complain]

/-- Values of an ordered type are compared unless they are mixed. -/
theorem halts_compare_iff {v w : Value} (ht : v.dataType ∈ StandardFunction.orderedTypes)
    (h : v.dataType = w.dataType) : Halts (compared id (v.compare w)) ↔ v.Mixed w := by
  cases v with
  | date a =>
      cases w with
      | date b =>
          exact (halts_compared_ofZoned_iff id _ _).trans (Value.mixed_iff_of_zoned rfl rfl).symm
      | _ => cases h
  | time a =>
      cases w with
      | time b =>
          exact (halts_compared_ofZoned_iff id _ _).trans (Value.mixed_iff_of_zoned rfl rfl).symm
      | _ => cases h
  | dateTime a =>
      cases w with
      | dateTime b =>
          exact (halts_compared_ofZoned_iff id _ _).trans (Value.mixed_iff_of_zoned rfl rfl).symm
      | _ => cases h
  | integer a =>
      cases w with
      | integer b => exact iff_of_false (not_halts_ok _) (Value.not_mixed_of_none rfl)
      | _ => cases h
  | double a =>
      cases w with
      | double b => exact iff_of_false (not_halts_ok _) (Value.not_mixed_of_none rfl)
      | _ => cases h
  | string a =>
      cases w with
      | string b => exact iff_of_false (not_halts_ok _) (Value.not_mixed_of_none rfl)
      | _ => cases h
  | _ =>
      cases ht
      contradiction

/-- Values of one type are compared for equality unless they are mixed. -/
theorem halts_equals_iff {v w : Value} (h : v.dataType = w.dataType) :
    Halts (compared id (v.equals w)) ↔ v.Mixed w := by
  have hmap : ∀ x : Except CompareError Ordering,
      Halts (compared id (x.map (· == .eq))) ↔ Halts (compared id x) := by
    intro x
    cases x with
    | ok o => exact iff_of_false (not_halts_ok _) (not_halts_ok _)
    | error e => exact iff_of_true (halts_complain id _) (halts_complain id _)
  rw [Value.equals, if_pos h]
  split
  · rename_i ht
    rw [hmap]
    refine halts_compare_iff id ?_ h
    cases v <;> first | (simp [Value.dataType, StandardFunction.orderedTypes]; done) | cases ht
  · rename_i ht
    refine iff_of_false (not_halts_ok _) (Value.not_mixed_of_none ?_)
    cases v <;> first | rfl | exact absurd rfl ht

/-! ## Searches -/

/-- A search for `v` comes upon `w`: nothing before it is equal to `v`. -/
def Meets (v : Value) (ms : List Value) (w : Value) : Prop :=
  ∃ pre post, ms = pre ++ w :: post ∧ ∀ u ∈ pre, u.equals v = .ok false

/-- A search for `v` ends at a value equal to it. -/
def Found (v : Value) (ms : List Value) : Prop := ∃ w, Meets v ms w ∧ w.equals v = .ok true

/-- A search for `v` ends without one. -/
def Absent (v : Value) (ms : List Value) : Prop := ∀ m ∈ ms, m.equals v = .ok false

section

variable {v w m : Value} {rest ms : List Value}

theorem meets_cons : Meets v (m :: rest) w ↔ w = m ∨ (m.equals v = .ok false ∧ Meets v rest w) := by
  constructor
  · rintro ⟨_ | ⟨u, pre⟩, post, h, hp⟩
    · exact .inl (List.cons.inj h).1.symm
    · obtain ⟨hu, hp⟩ := List.forall_mem_cons.mp hp
      obtain ⟨hm, hrest⟩ := List.cons.inj h
      exact .inr ⟨hm ▸ hu, pre, post, hrest, hp⟩
  · rintro (rfl | ⟨hm, pre, post, rfl, hp⟩)
    · exact ⟨[], rest, rfl, List.forall_mem_nil _⟩
    · exact ⟨m :: pre, post, rfl, List.forall_mem_cons.mpr ⟨hm, hp⟩⟩

theorem not_meets_nil : ¬ Meets v [] w := by
  rintro ⟨pre, post, h, -⟩
  exact absurd h (by simp)

theorem found_cons :
    Found v (m :: rest) ↔ m.equals v = .ok true ∨ (m.equals v = .ok false ∧ Found v rest) := by
  simp only [Found, meets_cons, or_and_right, exists_or, exists_eq_left, and_assoc,
    exists_and_left]

theorem hasEqual_eq_true_iff : hasEqual id v ms = .ok true ↔ Found v ms := by
  induction ms with
  | nil => exact iff_of_false (fun h => nomatch h) fun ⟨_, h, _⟩ => not_meets_nil h
  | cons m rest ih =>
      rw [hasEqual, found_cons, ← ih]
      cases m.equals v with
      | error e => simp [compared, complain]
      | ok b => cases b <;> simp [compared]

theorem hasEqual_eq_false_iff : hasEqual id v ms = .ok false ↔ Absent v ms := by
  induction ms with
  | nil => exact iff_of_true rfl (List.forall_mem_nil _)
  | cons m rest ih =>
      rw [hasEqual, Absent, List.forall_mem_cons, ← Absent, ← ih]
      cases m.equals v with
      | error e => simp [compared, complain]
      | ok b => cases b <;> simp [compared]

/-- A search halts if it comes upon a value that does not mix with the one looked for. -/
theorem halts_hasEqual_iff (h : ∀ m ∈ ms, m.dataType = v.dataType) :
    Halts (hasEqual id v ms) ↔ ∃ w, Meets v ms w ∧ w.Mixed v := by
  induction ms with
  | nil => exact iff_of_false (not_halts_ok false) fun ⟨_, h, _⟩ => not_meets_nil h
  | cons m rest ih =>
      obtain ⟨hm, hr⟩ := List.forall_mem_cons.mp h
      have hc := halts_equals_iff id hm
      simp only [hasEqual, meets_cons, or_and_right, exists_or, exists_eq_left, and_assoc,
        exists_and_left, ← ih hr, ← hc]
      cases he : m.equals v with
      | error e => simp [compared, complain, halts_error]
      | ok b => cases b <;> simp [compared, not_halts_ok]

end

/-! ## Going through the values of a bag -/

/-- A loop over values keeps some of them; `next kept v out` says that it passes over `v`, having
kept `kept` before and keeping `out` from then on. -/
inductive Passes (next : List Value → Value → List Value → Prop) :
    List Value → List Value → List Value → Prop
  | nil (kept : List Value) : Passes next kept [] kept
  | cons {kept later out rest : List Value} {v : Value} (hv : next kept v later)
      (hr : Passes next later rest out) : Passes next kept (v :: rest) out

/-- A loop comes to a value that stops it. -/
def Stops (next : List Value → Value → List Value → Prop) (stuck : List Value → Value → Prop)
    (kept vs : List Value) : Prop :=
  ∃ pre v post out, vs = pre ++ v :: post ∧ Passes next kept pre out ∧ stuck out v

section

variable {next : List Value → Value → List Value → Prop} {stuck : List Value → Value → Prop}
  {kept rest : List Value} {v : Value}

theorem not_stops_nil : ¬ Stops next stuck kept [] := by
  rintro ⟨pre, v, post, out, h, -⟩
  exact absurd h (by simp)

theorem stops_cons : Stops next stuck kept (v :: rest) ↔
    stuck kept v ∨ ∃ later, next kept v later ∧ Stops next stuck later rest := by
  constructor
  · rintro ⟨_ | ⟨u, pre⟩, w, post, out, h, hp, hs⟩
    · cases hp
      exact .inl ((List.cons.inj h).1 ▸ hs)
    · cases hp with
      | cons hv hr =>
          obtain ⟨rfl, hrest⟩ := List.cons.inj h
          exact .inr ⟨_, hv, pre, w, post, out, hrest, hr, hs⟩
  · rintro (hs | ⟨later, hv, pre, w, post, out, rfl, hr, hs⟩)
    · exact ⟨[], v, rest, kept, rfl, .nil kept, hs⟩
    · exact ⟨v :: pre, w, post, out, rfl, .cons hv hr, hs⟩

end

/-- A value is kept unless an equal one is. -/
def Adds (kept : List Value) (v : Value) (out : List Value) : Prop :=
  (Found v kept ∧ out = kept) ∨ (Absent v kept ∧ out = kept ++ [v])

namespace SetOperation

/-- When a set function passes over a value of its first bag, or, for the union, of any bag, and
what it has kept from then on; `other` are the values of the second bag. -/
def Next (other : List Value) : SetOperation → List Value → Value → List Value → Prop
  | .intersection, kept, v, out => (Absent v other ∧ out = kept) ∨ (Found v other ∧ Adds kept v out)
  | .atLeastOneMemberOf, kept, v, out => Absent v other ∧ out = kept
  | .union, kept, v, out => Adds kept v out
  | .subset, kept, v, out => Found v other ∧ out = kept
  | .setEquals, kept, v, out => Found v other ∧ out = kept

/-- What a set function compares a value with, having kept some values before. -/
def Looks (other : List Value) : SetOperation → List Value → Value → Value → Prop
  | .intersection, kept, v, w => Meets v other w ∨ (Found v other ∧ Meets v kept w)
  | .union, kept, v, w => Meets v kept w
  | _, _, v, w => Meets v other w

/-- A set function going through `vs` comes to compare `v` with `w`. -/
def Compares (op : SetOperation) (other vs : List Value) (v w : Value) : Prop :=
  ∃ pre post out, vs = pre ++ v :: post ∧ Passes (op.Next other) [] pre out ∧
    op.Looks other out v w

/-- A set function cannot go on at a value that it has to compare with one that does not mix. -/
def Stuck (op : SetOperation) (other kept : List Value) (v : Value) : Prop :=
  ∃ w, op.Looks other kept v w ∧ w.Mixed v

theorem stops_iff {op : SetOperation} {other vs : List Value} :
    Stops (op.Next other) (op.Stuck other) [] vs ↔ ∃ v w, op.Compares other vs v w ∧ w.Mixed v := by
  constructor
  · rintro ⟨pre, v, post, out, h, hp, w, hl, hm⟩
    exact ⟨v, w, ⟨pre, post, out, h, hp, hl⟩, hm⟩
  · rintro ⟨v, w, ⟨pre, post, out, h, hp, hl⟩, hm⟩
    exact ⟨pre, v, post, out, h, hp, w, hl, hm⟩

end SetOperation

section

variable {t : DataType} {other kept vs : List Value}

theorem halts_allHaveEqual_iff (ho : ∀ m ∈ other, m.dataType = t) (hv : ∀ v ∈ vs, v.dataType = t) :
    Halts (allHaveEqual id other vs) ↔
      Stops (SetOperation.subset.Next other) (SetOperation.subset.Stuck other) kept vs := by
  induction vs with
  | nil => exact iff_of_false (not_halts_ok true) not_stops_nil
  | cons v rest ih =>
      obtain ⟨hv, hr⟩ := List.forall_mem_cons.mp hv
      have hs := halts_hasEqual_iff id fun m h => (ho m h).trans hv.symm
      simp only [stops_cons, SetOperation.Next, SetOperation.Stuck, SetOperation.Looks, ← hs,
        ← hasEqual_eq_true_iff id, and_assoc, exists_and_left, exists_eq_left, ← ih hr,
        allHaveEqual]
      cases hasEqual id v other with
      | error h => simp [halts_error]
      | ok b => cases b <;> simp [not_halts_ok]

theorem halts_someHasEqual_iff (ho : ∀ m ∈ other, m.dataType = t) (hv : ∀ v ∈ vs, v.dataType = t) :
    Halts (someHasEqual id other vs) ↔
      Stops (SetOperation.atLeastOneMemberOf.Next other)
        (SetOperation.atLeastOneMemberOf.Stuck other) kept vs := by
  induction vs with
  | nil => exact iff_of_false (not_halts_ok false) not_stops_nil
  | cons v rest ih =>
      obtain ⟨hv, hr⟩ := List.forall_mem_cons.mp hv
      have hs := halts_hasEqual_iff id fun m h => (ho m h).trans hv.symm
      simp only [stops_cons, SetOperation.Next, SetOperation.Stuck, SetOperation.Looks, ← hs,
        ← hasEqual_eq_false_iff id, and_assoc, exists_and_left, exists_eq_left, ← ih hr,
        someHasEqual]
      cases hasEqual id v other with
      | error h => simp [halts_error]
      | ok b => cases b <;> simp [not_halts_ok]

theorem put_of_dataType {v : Value} (hv : v.dataType = t) :
    put ⟨t, kept⟩ v = .ok ⟨t, kept ++ [v]⟩ := by
  rw [put, Bag.add, if_pos hv]

theorem halts_putDistinct_iff (hk : ∀ m ∈ kept, m.dataType = t) (hv : ∀ v ∈ vs, v.dataType = t) :
    Halts (putDistinct id ⟨t, kept⟩ vs) ↔
      Stops (SetOperation.union.Next other) (SetOperation.union.Stuck other) kept vs := by
  induction vs generalizing kept with
  | nil => exact iff_of_false (not_halts_ok _) not_stops_nil
  | cons v rest ih =>
      obtain ⟨hv, hr⟩ := List.forall_mem_cons.mp hv
      have hs := halts_hasEqual_iff id fun m h => (hk m h).trans hv.symm
      have hadd : ∀ m ∈ kept ++ [v], m.dataType = t :=
        List.forall_mem_append.mpr ⟨hk, List.forall_mem_singleton.mpr hv⟩
      simp only [stops_cons, SetOperation.Next, Adds, SetOperation.Stuck, SetOperation.Looks, ← hs,
        ← hasEqual_eq_true_iff id, ← hasEqual_eq_false_iff id, or_and_right, exists_or, and_assoc,
        exists_and_left, exists_eq_left, ← ih hk hr, ← ih hadd hr, putDistinct,
        put_of_dataType hv]
      cases hasEqual id v kept with
      | error h => simp [halts_error]
      | ok b => cases b <;> simp [not_halts_ok]

theorem halts_putShared_iff (ho : ∀ m ∈ other, m.dataType = t) (hk : ∀ m ∈ kept, m.dataType = t)
    (hv : ∀ v ∈ vs, v.dataType = t) :
    Halts (putShared id other ⟨t, kept⟩ vs) ↔
      Stops (SetOperation.intersection.Next other) (SetOperation.intersection.Stuck other) kept
        vs := by
  induction vs generalizing kept with
  | nil => exact iff_of_false (not_halts_ok _) not_stops_nil
  | cons v rest ih =>
      obtain ⟨hv, hr⟩ := List.forall_mem_cons.mp hv
      have hs := halts_hasEqual_iff id fun m h => (ho m h).trans hv.symm
      have hs' := halts_hasEqual_iff id fun m h => (hk m h).trans hv.symm
      have hadd : ∀ m ∈ kept ++ [v], m.dataType = t :=
        List.forall_mem_append.mpr ⟨hk, List.forall_mem_singleton.mpr hv⟩
      simp only [stops_cons, SetOperation.Next, Adds, SetOperation.Stuck, SetOperation.Looks, ← hs,
        ← hs', ← hasEqual_eq_true_iff id, ← hasEqual_eq_false_iff id, or_and_right, and_or_left,
        exists_or, and_assoc, exists_and_left, exists_eq_left, ← ih hk hr, ← ih hadd hr, putShared,
        put_of_dataType hv]
      cases hasEqual id v other with
      | error h => simp [halts_error]
      | ok b =>
          cases b with
          | false => simp [not_halts_ok]
          | true =>
              cases hasEqual id v kept with
              | error h => simp [halts_error]
              | ok b => cases b <;> simp [not_halts_ok]

theorem putDistinct_append (b : Bag) (vs ws : List Value) :
    putDistinct id b (vs ++ ws) = putDistinct id b vs >>= fun c => putDistinct id c ws := by
  induction vs generalizing b with
  | nil => rfl
  | cons v rest ih =>
      simp only [List.cons_append, putDistinct]
      split
      · rfl
      · exact ih b
      · split
        · rfl
        · exact ih _

/-- The union of several bags is that of all their values. -/
theorem putAllDistinct_eq (b : Bag) (bags : List Bag) :
    putAllDistinct id b bags = putDistinct id b (bags.flatMap Bag.values) := by
  induction bags generalizing b with
  | nil => rfl
  | cons c rest ih =>
      rw [putAllDistinct, List.flatMap_cons, putDistinct_append]
      cases putDistinct id b c.values with
      | error h => rfl
      | ok d => exact ih d

end

end Abac
