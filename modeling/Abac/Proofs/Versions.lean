import Mathlib.Data.List.TakeWhile
import Abac.Version
import Abac.Proofs.Inversion
import Abac.Proofs.Numerals

/-!
# Versions go on with zeros

A version stands for a sequence without an end: its components, and zeros for ever behind them.
Versions are compared by the part of their components up to the last that is not zero, and that
part is finite, so its order is the order of lists, in which a shorter list may come first for no
other reason than its length. Among lists that do not end in a zero this is still the order of the
sequences (`compareLex_eq_lt_iff`): where one list stops, the other goes on, and somewhere behind
that place it has a number greater than the zero it is compared with.

The text of a version is groups of digits with points between them, and reading takes it apart at
the points again.
-/

namespace Abac

namespace Version

/-! ## Sequences -/

/-- Whether the first sequence is smaller where the two differ first. -/
def Precedes (f g : Nat → UInt64) : Prop := ∃ k, (∀ i < k, f i = g i) ∧ f k < g k

/-- The sequence of the numbers of a list and zeros behind them. -/
def padded (xs : List UInt64) (i : Nat) : UInt64 := xs.getD i 0

/-- The sequence that a version stands for. -/
def sequence (v : Version) : Nat → UInt64 := padded v.components

theorem precedes_iff {f g : Nat → UInt64} :
    Precedes f g ↔ f 0 < g 0 ∨ f 0 = g 0 ∧ Precedes (fun i => f (i + 1)) fun i => g (i + 1) := by
  constructor
  · rintro ⟨k, heq, hlt⟩
    cases k with
    | zero => exact .inl hlt
    | succ k =>
        exact .inr ⟨heq 0 k.succ_pos, k, fun i hi => heq (i + 1) (Nat.succ_lt_succ hi), hlt⟩
  · rintro (hlt | ⟨h0, k, heq, hlt⟩)
    · exact ⟨0, fun i hi => absurd hi (Nat.not_lt_zero i), hlt⟩
    · refine ⟨k + 1, fun i hi => ?_, hlt⟩
      cases i with
      | zero => exact h0
      | succ i => exact heq i (Nat.lt_of_succ_lt_succ hi)

theorem not_precedes_self (f : Nat → UInt64) : ¬ Precedes f f := fun ⟨_, _, hlt⟩ =>
  UInt64.lt_irrefl _ hlt

/-- Nothing precedes the zeros. -/
theorem not_precedes_nil (f : Nat → UInt64) : ¬ Precedes f (padded []) := fun ⟨_, _, hlt⟩ =>
  absurd hlt UInt64.not_lt_zero

/-- The zeros precede every list that does not end in one. -/
theorem nil_precedes {xs : List UInt64} (hne : xs ≠ []) (hx : xs.getLast? ≠ some 0) :
    Precedes (padded []) (padded xs) := by
  induction xs with
  | nil => exact absurd rfl hne
  | cons x xs ih =>
      rw [precedes_iff]
      by_cases h0 : x = 0
      · -- a leading zero is not the last number, so the rest is not empty either
        have hxs : xs ≠ [] := fun hnil => hx (by rw [h0, hnil]; rfl)
        rw [List.getLast?_cons_of_ne_nil hxs] at hx
        exact .inr ⟨h0.symm, ih hxs hx⟩
      · exact .inl (UInt64.pos_iff_ne_zero.mpr h0)

/-- **Lists that do not end in a zero are ordered as the sequences they begin.** -/
theorem compareLex_eq_lt_iff {xs ys : List UInt64} (hx : xs.getLast? ≠ some 0)
    (hy : ys.getLast? ≠ some 0) :
    List.compareLex compare xs ys = .lt ↔ Precedes (padded xs) (padded ys) := by
  induction xs generalizing ys with
  | nil =>
      cases ys with
      | nil => exact iff_of_false nofun (not_precedes_self _)
      | cons y ys => exact iff_of_true rfl (nil_precedes (List.cons_ne_nil y ys) hy)
  | cons x xs ih =>
      cases ys with
      | nil => exact iff_of_false nofun (not_precedes_nil _)
      | cons y ys =>
          have htail {z : UInt64} {zs : List UInt64} (h : (z :: zs).getLast? ≠ some 0) :
              zs.getLast? ≠ some 0 := by
            cases zs with
            | nil => nofun
            | cons w zs => rwa [List.getLast?_cons_cons] at h
          rw [precedes_iff, List.compareLex_cons_cons, Ordering.then_eq_lt, Std.compare_eq_lt,
            Std.compare_eq_iff_eq, ih (htail hx) (htail hy)]
          rfl

/-! ## The order of versions -/

instance : Std.TransCmp cmp := inferInstanceAs (Std.TransCmp (compareOn significant))

/-- What stands behind the significant components is zeros. -/
theorem components_eq (v : Version) :
    ∃ n, v.components = v.significant ++ List.replicate n 0 := by
  have hzeros : ∀ c ∈ v.components.reverse.takeWhile (· == 0), c = 0 := fun c hc => by
    simpa using List.mem_takeWhile_imp hc
  refine ⟨(v.components.reverse.takeWhile (· == 0)).length, ?_⟩
  calc v.components
      = (v.components.reverse.takeWhile (· == 0) ++
          v.components.reverse.dropWhile (· == 0)).reverse := by
        rw [List.takeWhile_append_dropWhile, List.reverse_reverse]
    _ = v.significant ++ (v.components.reverse.takeWhile (· == 0)).reverse := by
        rw [List.reverse_append, significant]
    _ = v.significant ++ List.replicate _ 0 := by
        rw [List.eq_replicate_of_mem hzeros, List.reverse_replicate, List.length_replicate]

theorem getLast?_significant (v : Version) : v.significant.getLast? ≠ some 0 := by
  intro hlast
  have hhead := List.head?_dropWhile_not (· == 0) v.components.reverse
  rw [significant, List.getLast?_reverse] at hlast
  simp [hlast] at hhead

theorem padded_append_replicate (xs : List UInt64) (n : Nat) :
    padded (xs ++ List.replicate n 0) = padded xs := by
  funext i
  simp only [padded, List.getD_eq_getElem?_getD, List.getElem?_append, List.getElem?_replicate]
  split
  · rfl
  · rename_i hi
    rw [List.getElem?_eq_none (Nat.le_of_not_lt hi)]
    split <;> rfl

theorem padded_significant (v : Version) : padded v.significant = v.sequence := by
  obtain ⟨n, hn⟩ := v.components_eq
  rw [sequence, hn, padded_append_replicate]

variable {a b : Version}

/-- **Versions are ordered as their sequences.** -/
theorem cmp_eq_lt_iff : a.cmp b = .lt ↔ Precedes a.sequence b.sequence := by
  rw [cmp, compareLex_eq_lt_iff a.getLast?_significant b.getLast?_significant, padded_significant,
    padded_significant]

theorem cmp_eq_gt_iff : a.cmp b = .gt ↔ Precedes b.sequence a.sequence := by
  rw [Std.OrientedCmp.gt_iff_lt, cmp_eq_lt_iff]

theorem cmp_eq_eq_iff_significant : a.cmp b = .eq ↔ a.significant = b.significant := by
  rw [cmp, Std.LawfulEqCmp.compare_eq_iff_eq]

theorem cmp_eq_eq_iff : a.cmp b = .eq ↔ a.sequence = b.sequence := by
  constructor
  · intro h
    rw [← padded_significant, ← padded_significant, cmp_eq_eq_iff_significant.mp h]
  · intro h
    cases hcmp : a.cmp b with
    | lt => exact absurd (h ▸ cmp_eq_lt_iff.mp hcmp) (not_precedes_self _)
    | eq => rfl
    | gt => exact absurd (h ▸ cmp_eq_gt_iff.mp hcmp) (not_precedes_self _)

theorem beq_iff : (a == b) = true ↔ a.cmp b = .eq := by
  rw [BEq.beq, instBEq, beq_iff_eq]

theorem hashKey_eq_iff : a.hashKey = b.hashKey ↔ (a == b) = true :=
  cmp_eq_eq_iff_significant.symm.trans beq_iff.symm

/-- Equal versions differ in trailing zeros only. -/
theorem beq_iff_trailing :
    (a == b) = true ↔
      ∃ m n, a.components ++ List.replicate m 0 = b.components ++ List.replicate n 0 := by
  rw [beq_iff, cmp_eq_eq_iff]
  constructor
  · intro h
    obtain ⟨k, hk⟩ := a.components_eq
    obtain ⟨l, hl⟩ := b.components_eq
    have hsame := cmp_eq_eq_iff_significant.mp (cmp_eq_eq_iff.mpr h)
    refine ⟨l, k, ?_⟩
    rw [hk, hl, hsame, List.append_assoc, List.append_assoc, List.replicate_append_replicate,
      List.replicate_append_replicate, Nat.add_comm]
  · rintro ⟨m, n, h⟩
    rw [sequence, ← padded_append_replicate a.components m, h, padded_append_replicate, sequence]

/-! ## Text -/

open Text

/-- One or more digits of a number that is a word. -/
def IsGroup (part : List Char) : Prop :=
  (part ≠ [] ∧ ∀ c ∈ part, c.isDigit = true) ∧ ofDigits part < 2 ^ 64

/-- The number of a group of digits. -/
def number (part : List Char) : UInt64 := UInt64.ofNat (ofDigits part)

/-- A text as groups of digits with points between them. -/
structure Groups (s : String) (parts : List (List Char)) : Prop where
  /-- There is at least one group. -/
  nonempty : parts ≠ []
  /-- The text is the groups with points between them. -/
  text : s.toList = ['.'].intercalate parts
  /-- Each part is a group. -/
  group : ∀ p ∈ parts, IsGroup p

/-- The groups of a text are its pieces between the points. -/
theorem groups_iff {s : String} {parts : List (List Char)} :
    Groups s parts ↔ pieces '.' s.toList = parts ∧ ∀ p ∈ parts, IsGroup p := by
  rw [pieces_eq_iff]
  constructor
  · rintro ⟨hne, htext, hgroup⟩
    exact ⟨⟨hne, fun p hp hpoint => absurd ((hgroup p hp).1.2 _ hpoint) (by decide), htext⟩, hgroup⟩
  · rintro ⟨⟨hne, -, htext⟩, hgroup⟩
    exact ⟨hne, htext, hgroup⟩

theorem readComponent_eq_ok_iff {part : List Char} {c : UInt64} :
    readComponent part = .ok c ↔ IsGroup part ∧ c = number part := by
  refine readBounded_word_iff.trans ⟨fun h => ?_, fun h => ?_⟩
  · obtain ⟨hnumeral, hvalue⟩ := h
    refine ⟨⟨isNumeral_iff.mp hnumeral, hvalue ▸ c.toNat_lt⟩, ?_⟩
    rw [number, hvalue, UInt64.ofNat_toNat]
  · obtain ⟨hgroup, rfl⟩ := h
    exact ⟨isNumeral_iff.mpr hgroup.1, (UInt64.toNat_ofNat_of_lt' hgroup.2).symm⟩

theorem readComponents_eq_ok_iff {parts : List (List Char)} {cs : List UInt64} :
    readComponents parts = .ok cs ↔ (∀ p ∈ parts, IsGroup p) ∧ cs = parts.map number := by
  induction parts generalizing cs with
  | nil =>
      rw [readComponents, Except.ok.injEq]
      exact ⟨fun h => ⟨List.forall_mem_nil _, h.symm⟩, fun h => h.2.symm⟩
  | cons p parts ih =>
      rw [readComponents, List.forall_mem_cons, List.map_cons]
      cases hp : readComponent p with
      | error e =>
          have hno : ¬ IsGroup p := fun h => by
            rw [readComponent_eq_ok_iff.mpr ⟨h, rfl⟩] at hp
            cases hp
          exact iff_of_false nofun fun h => hno h.1.1
      | ok c =>
          obtain ⟨hgroup, rfl⟩ := readComponent_eq_ok_iff.mp hp
          simp only [Except.map_eq_ok_iff, ih, hgroup, true_and]
          constructor
          · rintro ⟨_, ⟨hall, rfl⟩, rfl⟩
            exact ⟨hall, rfl⟩
          · rintro ⟨hall, rfl⟩
            exact ⟨_, ⟨hall, rfl⟩, rfl⟩

theorem ofComponents_eq_ok_iff {cs : List UInt64} {v : Version} :
    ofComponents cs = .ok v ↔ v.components = cs := by
  unfold ofComponents
  split
  · rename_i hnil
    exact iff_of_false nofun fun h => v.nonempty (h.trans hnil)
  · rw [Except.ok.injEq]
    constructor
    · rintro rfl
      rfl
    · rintro rfl
      rfl

/-- **A text is read as the numbers of its groups.** -/
theorem read_eq_ok_iff {s : String} {v : Version} :
    read s = .ok v ↔ ∃ parts, Groups s parts ∧ v.components = parts.map number := by
  have hparts : (∃ parts, Groups s parts ∧ v.components = parts.map number) ↔
      (∀ p ∈ pieces '.' s.toList, IsGroup p) ∧
        v.components = (pieces '.' s.toList).map number := by
    simp only [groups_iff]
    constructor
    · rintro ⟨_, ⟨rfl, hgroup⟩, hv⟩
      exact ⟨hgroup, hv⟩
    · rintro ⟨hgroup, hv⟩
      exact ⟨_, ⟨rfl, hgroup⟩, hv⟩
  rw [hparts, read]
  split
  · -- the only piece of the empty text is empty
    rename_i hempty
    rw [hempty]
    exact iff_of_false nofun fun h => (h.1 [] List.mem_cons_self).1.1 rfl
  · refine Except.bind_eq_ok_iff.trans ?_
    simp only [readComponents_eq_ok_iff, ofComponents_eq_ok_iff]
    constructor
    · rintro ⟨_, ⟨hgroup, rfl⟩, hv⟩
      exact ⟨hgroup, hv⟩
    · rintro ⟨hgroup, hv⟩
      exact ⟨_, ⟨hgroup, rfl⟩, hv⟩

/-- The text of a word is a group of its digits. -/
theorem isGroup_digits (c : UInt64) : IsGroup (digits c.toNat) := by
  refine ⟨⟨digits_ne_nil _, fun d hd => isDigit_of_mem_digits hd⟩, ?_⟩
  rw [ofDigits_digits]
  exact c.toNat_lt

theorem number_digits (c : UInt64) : number (digits c.toNat) = c := by
  rw [number, ofDigits_digits, UInt64.ofNat_toNat]

theorem renderComponents_eq (cs : List UInt64) :
    renderComponents cs = ['.'].intercalate (cs.map fun c => digits c.toNat) := by
  match cs with
  | [] => rfl
  | [c] => simp [renderComponents]
  | c :: d :: cs => simp [renderComponents, renderComponents_eq (d :: cs)]

/-- **A version that is printed is read back**, zeros at its end included. -/
theorem read_render (v : Version) : read v.render = .ok v := by
  refine read_eq_ok_iff.mpr ⟨v.components.map fun c => digits c.toNat, ⟨?_, ?_, ?_⟩, ?_⟩
  · simpa using v.nonempty
  · rw [render, String.toList_ofList, renderComponents_eq]
  · intro p hp
    obtain ⟨c, -, rfl⟩ := List.mem_map.mp hp
    exact isGroup_digits c
  · rw [List.map_map]
    exact (List.map_id v.components).symm.trans
      (List.map_congr_left fun c _ => (number_digits c).symm)

/-- **Versions are ordered as sequences that go on with zeros**, lexicographically. This is a total
order up to equality; equal versions differ in zeros at the end only, and they are the ones that
hash alike. A text is read as a version just when it is groups of digits with points between them,
and every version is read back from its text with the same components. -/
theorem ordered_as_sequences :
    (∀ a b : Version,
      (a.cmp b = .lt ↔ Precedes a.sequence b.sequence) ∧
      (a.cmp b = .eq ↔ a.sequence = b.sequence) ∧
      (a.cmp b = .gt ↔ Precedes b.sequence a.sequence)) ∧
    (∀ a b c : Version,
      a.cmp a = .eq ∧
      (a.cmp b ≠ .gt → b.cmp c ≠ .gt → a.cmp c ≠ .gt) ∧
      (a.cmp b ≠ .gt → b.cmp a ≠ .gt → (a == b) = true) ∧
      (a.cmp b ≠ .gt ∨ b.cmp a ≠ .gt)) ∧
    (∀ a b : Version,
      ((a == b) = true ↔
        ∃ m n, a.components ++ List.replicate m 0 = b.components ++ List.replicate n 0) ∧
      (a.hashKey = b.hashKey ↔ (a == b) = true)) ∧
    (∀ s, (∃ v, read s = .ok v) ↔ ∃ parts, Groups s parts) ∧
    (∀ s v, read s = .ok v ↔ ∃ parts, Groups s parts ∧ v.components = parts.map number) ∧
    ∀ v : Version, read v.render = .ok v := by
  refine ⟨fun a b => ⟨cmp_eq_lt_iff, cmp_eq_eq_iff, cmp_eq_gt_iff⟩, fun a b c => ?order,
    fun a b => ⟨beq_iff_trailing, hashKey_eq_iff⟩, fun s => ?accepted,
    fun s v => read_eq_ok_iff, read_render⟩
  case order =>
    refine ⟨Std.ReflCmp.compare_self, Std.TransCmp.le_trans, fun hab hba => ?_, ?_⟩
    · rw [beq_iff]
      cases hcmp : a.cmp b with
      | lt => exact absurd (Std.OrientedCmp.gt_iff_lt.mpr hcmp) hba
      | eq => rfl
      | gt => exact absurd hcmp hab
    · cases hcmp : a.cmp b with
      | lt => exact .inl nofun
      | eq => exact .inl nofun
      | gt =>
          rw [Std.OrientedCmp.gt_iff_lt.mp hcmp]
          exact .inr nofun
  case accepted =>
    simp only [read_eq_ok_iff]
    constructor
    · rintro ⟨v, parts, hparts, -⟩
      exact ⟨parts, hparts⟩
    · rintro ⟨parts, hparts⟩
      exact ⟨⟨parts.map number, by simpa using hparts.nonempty⟩, parts, hparts, rfl⟩

/-- A zero behind `1.0` changes nothing, so what is not before the one is not before the other. -/
theorem ordered_as_sequences_of_zeros :
    ∃ a b c : Version, read "1.0" = .ok a ∧ read "1.0.0" = .ok b ∧ read "1.00.0.2" = .ok c ∧
      (a == b) = true ∧ a.hashKey = b.hashKey ∧ b.cmp c = .lt ∧ a.cmp c ≠ .gt ∧
      read c.render = .ok c := by
  obtain ⟨horder, htotal, hequal, -, -, hback⟩ := ordered_as_sequences
  refine ⟨⟨[1, 0], by simp⟩, ⟨[1, 0, 0], by simp⟩, ⟨[1, 0, 0, 2], by simp⟩, by rfl, by rfl, by rfl,
    ?_⟩
  have hsame := (hequal ⟨[1, 0], by simp⟩ ⟨[1, 0, 0], by simp⟩).1.mpr ⟨1, 0, rfl⟩
  have hlt := (horder ⟨[1, 0, 0], by simp⟩ ⟨[1, 0, 0, 2], by simp⟩).1.mpr ⟨3, by decide, by decide⟩
  refine ⟨hsame, (hequal _ _).2.mpr hsame, hlt, (htotal _ ⟨[1, 0, 0], by simp⟩ _).2.1 ?_ ?_,
    hback _⟩
  · rw [beq_iff.mp hsame]
    nofun
  · rw [hlt]
    nofun

end Version

end Abac
