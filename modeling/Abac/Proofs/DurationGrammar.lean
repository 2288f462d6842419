import Abac.Temporal.Duration
import Abac.Proofs.Inversion
import Abac.Proofs.Numerals

/-!
# The grammar of durations

A duration is read in two passes. The text is first cut into components, numbers with a designator
behind them, and then the components are taken one after the other. What the first pass does is
undone by writing the components down again (`components_ok_iff`), so that the second can be told
from the text.

Components that have to stand in order have one slot each in the text, which is empty or holds one
component (`Slot`), and the text is the slots one behind the other (`Slot.inOrder_iff`). Years and
months are read in this way, and so is all that stands behind the `T` of a duration of days.
-/

namespace Abac

namespace Temporal

open Text

/-! ## Components -/

/-- The text of a component. -/
def Component.text (c : Component) : List Char := c.number ++ [c.designator]

/-- Whether a character may stand in the number of a component. -/
def InNumber (c : Char) : Prop := c.isDigit = true ∨ c = '.'

theorem InNumber.not_isAlpha {c : Char} (h : InNumber c) : c.isAlpha = false := by
  rcases h with h | rfl
  · rw [Char.isDigit_iff_toNat] at h
    have h9 : '9'.toNat = 57 := rfl
    have hA : 'A'.val.toNat = 65 := rfl
    have ha : 'a'.val.toNat = 97 := rfl
    have hval : c.val.toNat = c.toNat := rfl
    -- the digits come before both runs of letters
    have hA' : ¬('A'.val ≤ c.val) := by rw [UInt32.le_iff_toNat_le]; omega
    have ha' : ¬('a'.val ≤ c.val) := by rw [UInt32.le_iff_toNat_le]; omega
    have hupper : c.isUpper = false := decide_eq_false fun h => hA' h.1
    have hlower : c.isLower = false :=
      Bool.and_eq_false_iff.mpr (.inl (decide_eq_false ha'))
    exact Bool.or_eq_false_iff.mpr ⟨hupper, hlower⟩
  · decide

/-- A component as it is cut from a text. -/
structure Component.IsCut (c : Component) : Prop where
  ne_nil : c.number ≠ []
  number : ∀ x ∈ c.number, InNumber x
  designator : c.designator.isAlpha = true

/-- What has been read as a number is carried along. -/
theorem componentsFrom_append {ds : List Char} (hd : ∀ x ∈ ds, InNumber x)
    (number rest : List Char) :
    componentsFrom number (ds ++ rest) = componentsFrom (number ++ ds) rest := by
  induction ds generalizing number with
  | nil => simp
  | cons c ds ih =>
      obtain ⟨hc, hd⟩ := List.forall_mem_cons.mp hd
      have hdigit : (c.isDigit || c == '.') = true := by
        rcases hc with hc | rfl
        · simp [hc]
        · rfl
      rw [List.cons_append, componentsFrom, hc.not_isAlpha, hdigit]
      simp only [Bool.false_eq_true, if_false, if_true]
      rw [ih hd, List.append_assoc, List.singleton_append]

theorem componentsFrom_ok {number s : List Char} {cs : List Component}
    (hn : ∀ x ∈ number, InNumber x) (h : componentsFrom number s = .ok cs) :
    number ++ s = cs.flatMap Component.text ∧ ∀ c ∈ cs, c.IsCut := by
  induction s generalizing number cs with
  | nil =>
      rw [componentsFrom] at h
      split at h
      · rename_i hempty
        cases h
        rw [List.isEmpty_iff.mp hempty]
        exact ⟨rfl, List.forall_mem_nil _⟩
      · cases h
  | cons c s ih =>
      rw [componentsFrom] at h
      split at h
      · rename_i halpha
        split at h
        · cases h
        · -- the designator ends the number that has been carried along
          rename_i hempty
          obtain ⟨rest, hrest, rfl⟩ := Except.map_eq_ok_iff.1 h
          obtain ⟨htext, hcut⟩ := ih (List.forall_mem_nil _) hrest
          have hne : number ≠ [] := fun hnil => hempty (by rw [hnil]; rfl)
          refine ⟨?_, List.forall_mem_cons.mpr ⟨⟨hne, hn, halpha⟩, hcut⟩⟩
          rw [List.flatMap_cons, ← htext]
          simp [Component.text]
      · split at h
        · rename_i hdigit
          have hc : InNumber c := by simpa [InNumber] using hdigit
          have hn' : ∀ x ∈ number ++ [c], InNumber x :=
            List.forall_mem_append.mpr ⟨hn, by simpa using hc⟩
          obtain ⟨htext, hcut⟩ := ih hn' h
          exact ⟨by rw [← htext]; simp, hcut⟩
        · cases h

/-- **A text is cut into the components that make it up.** -/
theorem components_ok_iff {s : List Char} {cs : List Component} :
    components s = .ok cs ↔ s = cs.flatMap Component.text ∧ ∀ c ∈ cs, c.IsCut := by
  constructor
  · exact componentsFrom_ok (List.forall_mem_nil _)
  · rintro ⟨rfl, hcut⟩
    induction cs with
    | nil => rfl
    | cons c cs ih =>
        obtain ⟨hc, hcs⟩ := List.forall_mem_cons.mp hcut
        have hempty : c.number.isEmpty = false := by simpa using hc.ne_nil
        have hrest : componentsFrom [] (cs.flatMap Component.text) = .ok cs := ih hcs
        rw [List.flatMap_cons, Component.text, List.append_assoc, components,
          componentsFrom_append hc.number, List.nil_append, List.singleton_append, componentsFrom,
          hc.designator, hempty, hrest]
        rfl

theorem components_append_iff {s : List Char} {cs cs' : List Component} :
    components s = .ok (cs ++ cs') ↔
      ∃ a b, s = a ++ b ∧ components a = .ok cs ∧ components b = .ok cs' := by
  simp only [components_ok_iff, List.flatMap_append, List.forall_mem_append]
  constructor
  · rintro ⟨rfl, hcs, hcs'⟩
    exact ⟨_, _, rfl, ⟨rfl, hcs⟩, rfl, hcs'⟩
  · rintro ⟨a, b, rfl, ⟨rfl, hcs⟩, rfl, hcs'⟩
    exact ⟨rfl, hcs, hcs'⟩

/-- A text that starts with a component. -/
theorem components_cons_iff {s : List Char} {c : Component} {cs : List Component} :
    components s = .ok (c :: cs) ↔ ∃ b, s = c.text ++ b ∧ c.IsCut ∧ components b = .ok cs := by
  simp only [components_ok_iff, List.flatMap_cons, List.forall_mem_cons]
  constructor
  · rintro ⟨rfl, hc, hcs⟩
    exact ⟨_, rfl, hc, rfl, hcs⟩
  · rintro ⟨b, rfl, hc, rfl, hcs⟩
    exact ⟨rfl, hc, hcs⟩

theorem components_nil_iff {s : List Char} {cs : List Component} (h : components s = .ok cs) :
    cs = [] ↔ s = [] := by
  obtain ⟨rfl, -⟩ := components_ok_iff.mp h
  cases cs <;> simp [Component.text]

/-! ## Numbers -/

/-- A numeral for a number that is a word. -/
def Writes (s : List Char) (n : UInt64) : Prop := isNumeral s = true ∧ ofDigits s = n.toNat

theorem wholeNumber_ok_iff {s : List Char} {n : UInt64} : wholeNumber s = .ok n ↔ Writes s n :=
  readBounded_word_iff

/-- Seconds with or without a fraction of one to nine digits, in seconds and nanoseconds. -/
inductive SecondsNumber : List Char → UInt64 × Nat → Prop
  | whole {s : List Char} {n : UInt64} (h : Writes s n) : SecondsNumber s (n, 0)
  | fraction {s f : List Char} {n : UInt64} (h : Writes s n) (hf : isNumeral f = true)
      (hlen : f.length ≤ 9) :
      SecondsNumber (s ++ '.' :: f) (n, ofDigits f * 10 ^ (9 - f.length))

theorem Writes.inNumber {s : List Char} {n : UInt64} (h : Writes s n) :
    s ≠ [] ∧ ∀ c ∈ s, InNumber c := by
  obtain ⟨hne, hd⟩ := isNumeral_iff.mp h.1
  exact ⟨hne, fun c hc => .inl (hd c hc)⟩

theorem SecondsNumber.inNumber {s : List Char} {p : UInt64 × Nat} (h : SecondsNumber s p) :
    s ≠ [] ∧ ∀ c ∈ s, InNumber c := by
  cases h with
  | whole h => exact h.inNumber
  | fraction h hf _ =>
      obtain ⟨-, hd⟩ := isNumeral_iff.mp hf
      refine ⟨by simp, List.forall_mem_append.mpr ⟨h.inNumber.2, ?_⟩⟩
      exact List.forall_mem_cons.mpr ⟨.inr rfl, fun c hc => .inl (hd c hc)⟩

theorem Writes.no_point {s : List Char} {n : UInt64} (h : Writes s n) : '.' ∉ s := fun hmem =>
  absurd ((isNumeral_iff.mp h.1).2 _ hmem) (by decide)

theorem secondsNumber_ok_iff {s : List Char} {p : UInt64 × Nat} :
    secondsNumber s = .ok p ↔ SecondsNumber s p := by
  constructor
  · intro h
    unfold secondsNumber at h
    split at h
    case h_1 =>
      obtain ⟨n, hn, rfl⟩ := Except.map_eq_ok_iff.1 h
      exact .whole (wholeNumber_ok_iff.mp hn)
    case h_2 whole fraction hcut =>
      split at h
      case isTrue hf =>
        obtain ⟨n, hn, rfl⟩ := Except.map_eq_ok_iff.1 h
        obtain ⟨rfl, -⟩ := cutFirst_eq_some hcut
        simp only [Bool.and_eq_true, decide_eq_true_eq] at hf
        exact .fraction (wholeNumber_ok_iff.mp hn) hf.1 hf.2
      case isFalse => cases h
  · intro h
    cases h with
    | whole h =>
        have hcut := cutFirst_eq_none_iff.mpr h.no_point
        rw [secondsNumber, hcut, wholeNumber_ok_iff.mpr h]
        rfl
    | fraction h hf hlen =>
        rw [secondsNumber, cutFirst_append _ h.no_point]
        simp only [hf, hlen, decide_true, Bool.and_self, if_true, wholeNumber_ok_iff.mpr h]
        rfl

/-! ## Slots -/

/-- A slot of a text holds a number with its designator, or nothing, which stands for `zero`. -/
inductive Optional {ν : Type} (designator : Char) (Number : List Char → ν → Prop) (zero : ν) :
    List Char → ν → Prop
  | absent : Optional designator Number zero [] zero
  | present {s : List Char} {n : ν} (h : Number s n) :
      Optional designator Number zero (s ++ [designator]) n

theorem Optional.mem {ν : Type} {designator : Char} {Number : List Char → ν → Prop} {zero n : ν}
    {s : List Char} (h : Optional designator Number zero s n)
    (hin : ∀ {x n}, Number x n → x ≠ [] ∧ ∀ c ∈ x, InNumber c) :
    ∀ c ∈ s, InNumber c ∨ c = designator := by
  cases h with
  | absent => exact List.forall_mem_nil _
  | present hn =>
      refine List.forall_mem_append.mpr ⟨fun c hc => .inl ((hin hn).2 c hc), ?_⟩
      exact List.forall_mem_singleton.mpr (.inr rfl)

/-- Components are taken in order of rank, all of them above `rank`. -/
inductive InOrder {δ : Type} (rank? : Char → Option Nat)
    (take : δ → Component → Except DurationError δ) : Nat → δ → List Component → δ → Prop
  | nil {rank : Nat} {d : δ} : InOrder rank? take rank d [] d
  | cons {rank r : Nat} {d d' out : δ} {c : Component} {rest : List Component}
      (hrank : rank? c.designator = some r) (hlt : rank < r) (htake : take d c = .ok d')
      (hrest : InOrder rank? take r d' rest out) : InOrder rank? take rank d (c :: rest) out

/-- The designator that comes next after a rank, how its number is read and where it is put. -/
structure Slot {δ ν : Type} (rank? : Char → Option Nat)
    (take : δ → Component → Except DurationError δ) (rank : Nat) (designator : Char)
    (parse : List Char → Except DurationError ν) (Number : List Char → ν → Prop)
    (set : δ → ν → δ) : Prop where
  rank_iff : ∀ x, rank? x = some (rank + 1) ↔ x = designator
  isAlpha : designator.isAlpha = true
  take_eq : ∀ d x, take d ⟨x, designator⟩ = (parse x).map (set d)
  parse_iff : ∀ {x n}, parse x = .ok n ↔ Number x n
  inNumber : ∀ {x n}, Number x n → x ≠ [] ∧ ∀ c ∈ x, InNumber c

section

variable {δ ν : Type} {rank? : Char → Option Nat} {take : δ → Component → Except DurationError δ}
  {rank : Nat} {designator : Char} {parse : List Char → Except DurationError ν}
  {Number : List Char → ν → Prop} {set : δ → ν → δ}

theorem InOrder.mono {r : Nat} {d out : δ} {cs : List Component} (h : InOrder rank? take r d cs out)
    (hle : rank ≤ r) : InOrder rank? take rank d cs out := by
  cases h with
  | nil => exact .nil
  | cons hrank hlt htake hrest => exact .cons hrank (by omega) htake hrest

theorem Slot.take_iff (hslot : Slot rank? take rank designator parse Number set) {d d' : δ}
    {x : List Char} : take d ⟨x, designator⟩ = .ok d' ↔ ∃ n, Number x n ∧ d' = set d n := by
  rw [hslot.take_eq, Except.map_eq_ok_iff]
  simp only [hslot.parse_iff, eq_comm]

/-- **The text of components in order** starts with the slot that comes next. -/
theorem Slot.inOrder_iff (hslot : Slot rank? take rank designator parse Number set) {d out : δ}
    (zero : ν) (hzero : set d zero = d) {s : List Char} :
    (∃ cs, components s = .ok cs ∧ InOrder rank? take rank d cs out) ↔
      ∃ a b n, s = a ++ b ∧ Optional designator Number zero a n ∧
        ∃ cs, components b = .ok cs ∧ InOrder rank? take (rank + 1) (set d n) cs out := by
  constructor
  · rintro ⟨cs, hs, h⟩
    cases h with
    | nil => exact ⟨[], s, zero, rfl, .absent, [], hs, by rw [hzero]; exact .nil⟩
    | @cons _ r _ d' _ c rest hrank hlt htake hrest =>
        rcases Nat.lt_or_eq_of_le (Nat.succ_le_of_lt hlt) with hlt | rfl
        · -- the first component ranks higher, so the slot is empty
          refine ⟨[], s, zero, rfl, .absent, c :: rest, hs, ?_⟩
          rw [hzero]
          exact .cons hrank hlt htake hrest
        · obtain ⟨x, y⟩ := c
          obtain rfl := (hslot.rank_iff y).mp hrank
          obtain ⟨n, hn, rfl⟩ := hslot.take_iff.mp htake
          obtain ⟨b, rfl, -, hb⟩ := components_cons_iff.mp hs
          exact ⟨x ++ [y], b, n, rfl, .present hn, rest, hb, hrest⟩
  · rintro ⟨a, b, n, rfl, ha, cs, hb, h⟩
    cases ha with
    | absent =>
        rw [hzero] at h
        exact ⟨cs, hb, h.mono (Nat.le_succ rank)⟩
    | @present x n hn =>
        obtain ⟨hne, hnumber⟩ := hslot.inNumber hn
        have hcut : Component.IsCut ⟨x, designator⟩ := ⟨hne, hnumber, hslot.isAlpha⟩
        refine ⟨⟨x, designator⟩ :: cs, components_cons_iff.mpr ⟨b, rfl, hcut, hb⟩, ?_⟩
        exact .cons ((hslot.rank_iff designator).mpr rfl) (Nat.lt_succ_self rank)
          (hslot.take_iff.mpr ⟨n, hn, rfl⟩) h

/-- Nothing stands behind the last slot. -/
theorem inOrder_last_iff (hlast : ∀ x r, rank? x = some r → r ≤ rank) {d out : δ} {s : List Char} :
    (∃ cs, components s = .ok cs ∧ InOrder rank? take rank d cs out) ↔ s = [] ∧ out = d := by
  constructor
  · rintro ⟨cs, hs, h⟩
    cases h with
    | nil => exact ⟨(components_ok_iff.mp hs).1, rfl⟩
    | cons hrank hlt _ _ => exact absurd (hlast _ _ hrank) (Nat.not_le.mpr hlt)
  · rintro ⟨rfl, rfl⟩
    exact ⟨[], rfl, .nil⟩

/-- A reader that takes every component above the rank of the one before takes them in order. -/
theorem inOrder_iff_of_read {read : Nat → δ → List Component → Except DurationError δ}
    (hnil : ∀ r d, read r d [] = .ok d)
    (hcons : ∀ r d c rest out, read r d (c :: rest) = .ok out ↔
      ∃ r' d', rank? c.designator = some r' ∧ r < r' ∧ take d c = .ok d' ∧
        read r' d' rest = .ok out)
    {d out : δ} {cs : List Component} :
    read rank d cs = .ok out ↔ InOrder rank? take rank d cs out := by
  induction cs generalizing rank d with
  | nil =>
      rw [hnil]
      constructor
      · intro h
        cases h
        exact .nil
      · intro h
        cases h
        rfl
  | cons c rest ih =>
      rw [hcons]
      constructor
      · rintro ⟨r, d', hrank, hlt, htake, hrest⟩
        exact .cons hrank hlt htake (ih.mp hrest)
      · intro h
        cases h with
        | cons hrank hlt htake hrest => exact ⟨_, _, hrank, hlt, htake, ih.mpr hrest⟩

end

/-! ## Signs -/

/-- The text of a sign. -/
def minus (sign : Bool) : List Char := if sign then ['-'] else []

theorem splitMinus_minus (sign : Bool) (body : List Char) :
    splitMinus (minus sign ++ 'P' :: body) = (sign, 'P' :: body) := by
  cases sign <;> rfl

theorem eq_of_splitMinus {s rest body : List Char} {sign : Bool} (hs : splitMinus s = (sign, rest))
    (hp : dropHead? 'P' rest = some body) : s = minus sign ++ 'P' :: body := by
  have hrest : rest = 'P' :: body := by
    unfold dropHead? at hp
    split at hp
    · split at hp
      · rename_i hc
        cases hp
        rw [hc]
      · cases hp
    · cases hp
  unfold splitMinus at hs
  split at hs
  · cases hs
    rw [hrest]
    rfl
  · cases hs
    exact hrest

end Temporal

namespace YearMonthDuration

open Temporal

/-! ## Years and months -/

/-- Take one component into a duration. -/
def takeComponent (d : YearMonthDuration) (c : Component) :
    Except DurationError YearMonthDuration :=
  (wholeNumber c.number).map fun n =>
    if c.designator = 'Y' then { d with years := n } else { d with months := n }

theorem rank?_eq_some_iff {x : Char} {r : Nat} :
    rank? x = some r ↔ (x = 'Y' ∧ r = 1) ∨ (x = 'M' ∧ r = 2) := by
  constructor
  · intro h
    unfold rank? at h
    split at h <;> cases h <;> simp
  · rintro (⟨rfl, rfl⟩ | ⟨rfl, rfl⟩) <;> rfl

theorem yearSlot : Slot rank? takeComponent 0 'Y' wholeNumber Writes
    fun d n => { d with years := n } where
  rank_iff x := by simp [rank?_eq_some_iff]
  isAlpha := by decide
  take_eq d x := rfl
  parse_iff := wholeNumber_ok_iff
  inNumber := Writes.inNumber

theorem monthSlot : Slot rank? takeComponent 1 'M' wholeNumber Writes
    fun d n => { d with months := n } where
  rank_iff x := by simp [rank?_eq_some_iff]
  isAlpha := by decide
  take_eq d x := rfl
  parse_iff := wholeNumber_ok_iff
  inNumber := Writes.inNumber

theorem readComponents_cons_iff {rank : Nat} {d out : YearMonthDuration} {c : Component}
    {rest : List Component} : readComponents rank d (c :: rest) = .ok out ↔
      ∃ r d', rank? c.designator = some r ∧ rank < r ∧ takeComponent d c = .ok d' ∧
        readComponents r d' rest = .ok out := by
  rw [readComponents, takeComponent]
  cases rank? c.designator with
  | none => simp
  | some r =>
      by_cases hr : r ≤ rank
      · have hnot : ¬rank < r := Nat.not_lt.mpr hr
        simp [hr, hnot]
      · have hlt : rank < r := Nat.not_le.mp hr
        cases wholeNumber c.number <;> simp [hr, hlt, Except.map]

/-- The components are the slots of years and months. -/
theorem readComponents_iff (negative : Bool) (out : YearMonthDuration) (s : List Char) :
    (∃ cs, components s = .ok cs ∧ readComponents 0 ⟨negative, 0, 0⟩ cs = .ok out) ↔
      ∃ a b y m, s = a ++ b ∧ Optional 'Y' Writes 0 a y ∧ Optional 'M' Writes 0 b m ∧
        out = ⟨negative, y, m⟩ := by
  have hread : ∀ cs, readComponents 0 ⟨negative, 0, 0⟩ cs = .ok out ↔
      InOrder rank? takeComponent 0 ⟨negative, 0, 0⟩ cs out := fun cs =>
    inOrder_iff_of_read (fun _ _ => rfl) (fun _ _ _ _ _ => readComponents_cons_iff)
  have hlast : ∀ x r, rank? x = some r → r ≤ 2 := fun x r h => by
    rcases rank?_eq_some_iff.mp h with ⟨-, rfl⟩ | ⟨-, rfl⟩ <;> decide
  simp only [hread]
  constructor
  · intro h
    obtain ⟨a, t, years, rfl, ha, h⟩ := (yearSlot.inOrder_iff 0 rfl).mp h
    obtain ⟨b, t, months, rfl, hb, h⟩ := (monthSlot.inOrder_iff 0 rfl).mp h
    obtain ⟨rfl, rfl⟩ := (inOrder_last_iff hlast).mp h
    exact ⟨a, b, years, months, by rw [List.append_nil], ha, hb, rfl⟩
  · rintro ⟨a, b, years, months, rfl, ha, hb, rfl⟩
    refine (yearSlot.inOrder_iff 0 rfl).mpr ⟨a, b, years, rfl, ha, ?_⟩
    refine (monthSlot.inOrder_iff 0 rfl).mpr ⟨b, [], months, (List.append_nil b).symm, hb, ?_⟩
    exact (inOrder_last_iff hlast).mpr ⟨rfl, rfl⟩

/-- **A duration and how it is written**: a sign, the start, years and months, one of which at least
is there. The duration is negative if there is a sign and it is not nothing. -/
inductive Written : List Char → YearMonthDuration → Prop
  | mk {sign : Bool} {a b : List Char} {v : YearMonthDuration}
      (hyears : Optional 'Y' Writes 0 a v.years) (hmonths : Optional 'M' Writes 0 b v.months)
      (hne : a ++ b ≠ []) (hneg : v.negative = true ↔ sign = true ∧ v.isZero = false) :
      Written (minus sign ++ 'P' :: (a ++ b)) v

/-- A duration of nothing loses its sign. -/
def settled (d : YearMonthDuration) : YearMonthDuration :=
  if d.isZero then { d with negative := false } else d

/-- What is read of a text with a start. -/
theorem read_body (sign : Bool) (body : List Char) :
    read (minus sign ++ 'P' :: body) =
      components body >>= fun cs => readComponents 0 ⟨sign, 0, 0⟩ cs >>= fun d =>
      if cs = [] then .error .noComponents else .ok d.settled := by
  unfold read
  simp only [splitMinus_minus, Text.dropHead?, if_true]
  refine bind_congr fun cs => bind_congr fun d => ?_
  cases cs <;> rfl

theorem eq_settled_iff {sign : Bool} {y m : UInt64} {v : YearMonthDuration} :
    v = settled ⟨sign, y, m⟩ ↔
      v.years = y ∧ v.months = m ∧ (v.negative = true ↔ sign = true ∧ v.isZero = false) := by
  have hsettled : settled ⟨sign, y, m⟩ = ⟨sign && !isZero ⟨sign, y, m⟩, y, m⟩ := by
    unfold settled
    cases isZero ⟨sign, y, m⟩ <;> simp
  rw [hsettled]
  constructor
  · rintro rfl
    refine ⟨rfl, rfl, ?_⟩
    rw [Bool.and_eq_true, Bool.not_eq_true']
    exact Iff.rfl
  · rintro ⟨rfl, rfl, hneg⟩
    obtain ⟨negative, years, months⟩ := v
    have hsign : negative = (sign && !isZero ⟨sign, years, months⟩) := by
      rw [Bool.eq_iff_iff, Bool.and_eq_true, Bool.not_eq_true']
      exact hneg
    rw [hsign]

theorem exists_body_of_read {s : List Char} {v : YearMonthDuration} (h : read s = .ok v) :
    ∃ sign body, s = minus sign ++ 'P' :: body := by
  cases hbody : Text.dropHead? 'P' (splitMinus s).2 with
  | none => simp [read, hbody, throw, throwThe, MonadExceptOf.throw] at h
  | some body => exact ⟨_, body, eq_of_splitMinus rfl hbody⟩

/-- **What is read as years and months.** -/
theorem read_iff {s : List Char} {v : YearMonthDuration} : read s = .ok v ↔ Written s v := by
  constructor
  · intro h
    obtain ⟨sign, body, rfl⟩ := exists_body_of_read h
    rw [read_body] at h
    obtain ⟨cs, hcs, h⟩ := Except.bind_eq_ok_iff.1 h
    obtain ⟨out, hout, h⟩ := Except.bind_eq_ok_iff.1 h
    by_cases hempty : cs = []
    · rw [if_pos hempty] at h
      cases h
    · rw [if_neg hempty] at h
      obtain ⟨a, b, y, m, rfl, ha, hb, rfl⟩ := (readComponents_iff sign out body).mp ⟨cs, hcs, hout⟩
      obtain ⟨rfl, rfl, hneg⟩ := eq_settled_iff.mp (Except.ok.inj h).symm
      exact .mk ha hb (fun hnil => hempty ((components_nil_iff hcs).mpr hnil)) hneg
  · intro h
    cases h with
    | @mk sign a b v ha hb hne hneg =>
        obtain ⟨cs, hcs, hout⟩ := (readComponents_iff sign ⟨sign, v.years, v.months⟩ (a ++ b)).mpr
          ⟨a, b, v.years, v.months, rfl, ha, hb, rfl⟩
        have hempty : cs ≠ [] := fun hnil => hne ((components_nil_iff hcs).mp hnil)
        rw [read_body, hcs]
        refine Except.bind_eq_ok_iff.2 ⟨cs, rfl, Except.bind_eq_ok_iff.2 ⟨_, hout, ?_⟩⟩
        rw [if_neg hempty, ← eq_settled_iff.mpr ⟨rfl, rfl, hneg⟩]

end YearMonthDuration

end Abac
