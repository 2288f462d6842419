import Mathlib.Algebra.Group.Nat.Defs
import Mathlib.Data.List.Induction
import Abac.Text.Numeral

/-!
# What is printed in digits is read back

The shortest digits of a number, and the same digits filled up with zeros, denote the number. Every
reader of numerals that is given them and nothing more returns it, as far as its bounds reach.

In the other direction, `readSigned_ok` says what an accepted signed numeral is: an optional sign
and a run of digits whose number lies within the bound of that sign.
-/

namespace Abac.Text

/-! ## The number that digits denote -/

theorem ofDigits_eq_ofDigitChars (s : List Char) : ofDigits s = Nat.ofDigitChars 10 s 0 := rfl

@[simp]
theorem ofDigits_digits (n : Nat) : ofDigits (digits n) = n := Nat.ofDigitChars_ten_toDigits

theorem ofDigits_append (a b : List Char) :
    ofDigits (a ++ b) = 10 ^ b.length * ofDigits a + ofDigits b := by
  simp only [ofDigits_eq_ofDigitChars, Nat.ofDigitChars_append]
  exact Nat.ofDigitChars_eq_ofDigitChars_zero

@[simp]
theorem ofDigits_replicate_zero (k : Nat) : ofDigits (List.replicate k '0') = 0 := by
  simp [ofDigits_eq_ofDigitChars, Nat.ofDigitChars_replicate_zero]

@[simp]
theorem ofDigits_paddedDigits (width n : Nat) : ofDigits (paddedDigits width n) = n := by
  simp [paddedDigits, ofDigits_append]

/-- A digit is the character of a number below ten. -/
theorem digitValue_le_nine {c : Char} (h : c.isDigit = true) : digitValue c ≤ 9 := by
  rw [Char.isDigit_iff_toNat] at h
  simp only [digitValue]
  have : '9'.toNat = 57 := rfl
  omega

/-- A run of digits denotes less than the power of ten with that many zeros. -/
theorem ofDigits_lt {s : List Char} (h : ∀ c ∈ s, c.isDigit = true) :
    ofDigits s < 10 ^ s.length := by
  induction s using List.reverseRecOn with
  | nil => simp [ofDigits]
  | append_singleton s c ih =>
    have hs := ih fun d hd => h d (List.mem_append_left _ hd)
    have hc := digitValue_le_nine (h c (by simp))
    have hlast : ofDigits [c] = digitValue c := by simp [ofDigits]
    rw [ofDigits_append, hlast, List.length_append, List.length_singleton, Nat.pow_succ]
    omega

/-- The first digits of a run denote its number without the last places. -/
theorem ofDigits_take {s : List Char} (h : ∀ c ∈ s, c.isDigit = true) (k : Nat) :
    ofDigits (s.take k) = ofDigits s / 10 ^ (s.length - k) := by
  have hsplit := ofDigits_append (s.take k) (s.drop k)
  rw [List.take_append_drop, List.length_drop] at hsplit
  have hlow : ofDigits (s.drop k) < 10 ^ (s.length - k) := by
    rw [← List.length_drop]
    exact ofDigits_lt fun c hc => h c (List.mem_of_mem_drop hc)
  rw [hsplit, Nat.mul_add_div (Nat.pow_pos (by decide)), Nat.div_eq_of_lt hlow, Nat.add_zero]

/-! ## The digits of a number -/

theorem digits_ne_nil (n : Nat) : digits n ≠ [] := Nat.toDigits_ne_nil

theorem isDigit_of_mem_digits {n : Nat} {c : Char} (h : c ∈ digits n) : c.isDigit = true :=
  Nat.isDigit_of_mem_toDigits (by decide) (by decide) h

theorem length_digits_le_iff {n k : Nat} (hk : 0 < k) : (digits n).length ≤ k ↔ n < 10 ^ k :=
  Nat.length_toDigits_le_iff (by decide) hk

theorem isDigit_of_mem_paddedDigits {width n : Nat} {c : Char} (h : c ∈ paddedDigits width n) :
    c.isDigit = true := by
  rcases List.mem_append.1 h with h | h
  · rw [List.eq_of_mem_replicate h]
    decide
  · exact isDigit_of_mem_digits h

theorem paddedDigits_ne_nil (width n : Nat) : paddedDigits width n ≠ [] := by
  simp [paddedDigits, digits_ne_nil]

theorem length_paddedDigits (width n : Nat) :
    (paddedDigits width n).length = max width (digits n).length := by
  simp only [paddedDigits, List.length_append, List.length_replicate]
  omega

/-- A number that fits is filled up to the width exactly. -/
theorem length_paddedDigits_of_lt {width n : Nat} (hw : 0 < width) (h : n < 10 ^ width) :
    (paddedDigits width n).length = width := by
  rw [length_paddedDigits, Nat.max_eq_left ((length_digits_le_iff hw).2 h)]

/-- A number that does not fit is written with more digits than the width. -/
theorem lt_length_paddedDigits {width n : Nat} (hw : 0 < width) (h : 10 ^ width ≤ n) :
    width < (paddedDigits width n).length := by
  have := (length_digits_le_iff (n := n) hw).not.2 (by omega)
  rw [length_paddedDigits]
  omega

/-- The shortest digits of a number below a power of ten start with a zero only if it is zero. -/
theorem head?_digits_eq_zero {n : Nat} (h : (digits n).head? = some '0') : n = 0 := by
  induction n using Nat.strongRecOn with
  | ind n ih =>
    rcases Nat.lt_or_ge n 10 with hn | hn
    · simpa [digits, Nat.toDigits_of_lt_base hn] using h
    · have hstep : digits n = digits (n / 10) ++ [(n % 10).digitChar] :=
        Nat.toDigits_of_base_le (by decide) hn
      obtain ⟨c, r, hcr⟩ := List.exists_cons_of_ne_nil (digits_ne_nil (n / 10))
      have := ih (n / 10) (by omega) (by simpa [hstep, hcr] using h)
      omega

/-! ## Runs of characters -/

/-- A run of characters of one kind ends where a character of another kind stands, or the text. -/
theorem run_append {p : Char → Bool} {a rest : List Char} (ha : ∀ c ∈ a, p c = true)
    (hrest : ∀ c ∈ rest.head?, p c = false) :
    (a ++ rest).takeWhile p = a ∧ (a ++ rest).dropWhile p = rest := by
  rw [List.takeWhile_append_of_pos ha, List.dropWhile_append_of_pos ha]
  cases rest with
  | nil => simp
  | cons c r => simp [hrest c rfl]

/-! ## Readers of whole numerals -/

theorem isNumeral_digits (n : Nat) : isNumeral (digits n) = true := by
  simp only [isNumeral, Bool.and_eq_true, Bool.not_eq_true', List.isEmpty_eq_false_iff,
    List.all_eq_true]
  exact ⟨digits_ne_nil n, fun c hc => isDigit_of_mem_digits hc⟩

theorem isNumeral_iff {s : List Char} :
    isNumeral s = true ↔ s ≠ [] ∧ ∀ c ∈ s, c.isDigit = true := by
  simp [isNumeral]

theorem readBounded_eq_some_iff {bound n : Nat} {s : List Char} :
    readBounded bound s = some n ↔ isNumeral s = true ∧ ofDigits s = n ∧ n ≤ bound := by
  unfold readBounded
  by_cases hs : isNumeral s = true
  · by_cases hb : ofDigits s ≤ bound
    · simp only [hs, hb, decide_true, Bool.and_self, if_true, Option.some.injEq, true_and]
      exact ⟨fun h => ⟨h, h ▸ hb⟩, And.left⟩
    · simp only [hs, hb, decide_false, Bool.and_false, Bool.false_eq_true, if_false, reduceCtorEq,
        true_and, false_iff, not_and]
      exact fun h hn => hb (h ▸ hn)
  · simp only [hs, Bool.false_and, Bool.false_eq_true, if_false, reduceCtorEq, false_and]

/-- A word is read from the numerals of its number. -/
theorem readBounded_word_iff {ε : Type} {e : ε} {s : List Char} {w : UInt64} :
    (match readBounded 0xFFFFFFFFFFFFFFFF s with
      | some n => Except.ok (UInt64.ofNat n)
      | none => Except.error e) = .ok w ↔ isNumeral s = true ∧ ofDigits s = w.toNat := by
  have hword : w.toNat ≤ 0xFFFFFFFFFFFFFFFF := Nat.le_of_lt_succ w.toNat_lt
  cases h : readBounded 0xFFFFFFFFFFFFFFFF s with
  | none =>
    refine iff_of_false nofun fun hs => ?_
    rw [readBounded_eq_some_iff.mpr ⟨hs.1, hs.2, hword⟩] at h
    cases h
  | some n =>
    obtain ⟨hs, hn, hbound⟩ := readBounded_eq_some_iff.mp h
    have hnat : (UInt64.ofNat n).toNat = n :=
      UInt64.toNat_ofNat_of_lt' (by simp only [UInt64.size]; omega)
    simp only [Except.ok.injEq, ← UInt64.toNat_inj, hnat, hs, hn, true_and]

theorem readBounded_digits {bound n : Nat} (h : n ≤ bound) :
    readBounded bound (digits n) = some n :=
  readBounded_eq_some_iff.mpr ⟨isNumeral_digits n, ofDigits_digits n, h⟩

/-- The shortest digits do not open with a sign. -/
theorem digits_eq_cons (n : Nat) : ∃ c r, digits n = c :: r ∧ c.isDigit = true := by
  obtain ⟨c, r, h⟩ := List.exists_cons_of_ne_nil (digits_ne_nil n)
  exact ⟨c, r, h, isDigit_of_mem_digits (n := n) (h ▸ List.mem_cons_self)⟩

theorem ne_of_isDigit {c d : Char} (hc : c.isDigit = true) (hd : d.isDigit = false) : c ≠ d := by
  rintro rfl
  simp [hc] at hd

/-- A numeral is read with a plus sign in front of it or without one. -/
theorem readUnsigned_eq_some_iff {bound n : Nat} {s : List Char} :
    readUnsigned bound s = some n ↔
      readBounded bound s = some n ∨ ∃ r, s = '+' :: r ∧ readBounded bound r = some n := by
  unfold readUnsigned
  split
  case h_1 r =>
    -- a plus sign is no digit
    have hno : readBounded bound ('+' :: r) ≠ some n := by
      intro h
      have hnumeral := (readBounded_eq_some_iff.mp h).1
      exact absurd ((isNumeral_iff.mp hnumeral).2 '+' List.mem_cons_self) (by decide)
    simp [hno]
  case h_2 hplus =>
    have hno : ¬∃ r, s = '+' :: r ∧ readBounded bound r = some n := by
      intro h
      obtain ⟨r, hr, -⟩ := h
      exact hplus r hr
    simp only [hno, or_false]

theorem readUnsigned_digits {bound n : Nat} (h : n ≤ bound) :
    readUnsigned bound (digits n) = some n :=
  readUnsigned_eq_some_iff.mpr (.inl (readBounded_digits h))

/-! ## The reader that stops at the bound -/

/-- The number after `n` when the digits `s` are appended to it. -/
theorem readDigitsWithin_ok_iff {bound n m : Nat} {excess : NumeralError} {s : List Char}
    (hn : n ≤ bound) :
    readDigitsWithin bound excess n s = .ok m ↔
      (∀ c ∈ s, c.isDigit = true) ∧ Nat.ofDigitChars 10 s n = m ∧ m ≤ bound := by
  induction s generalizing n with
  | nil =>
    simp only [readDigitsWithin, Except.ok.injEq, Nat.ofDigitChars_nil]
    constructor
    · rintro rfl
      exact ⟨by simp, rfl, hn⟩
    · exact fun h => h.2.1
  | cons c r ih =>
    have hcons : Nat.ofDigitChars 10 (c :: r) n = Nat.ofDigitChars 10 r (10 * n + digitValue c) :=
      Nat.ofDigitChars_cons
    have hgrow : 10 * n + digitValue c ≤ Nat.ofDigitChars 10 r (10 * n + digitValue c) := by
      rw [Nat.ofDigitChars_eq_ofDigitChars_zero]
      exact Nat.le_add_right_of_le (Nat.le_mul_of_pos_left _ (Nat.pow_pos (by decide)))
    by_cases hc : c.isDigit = true
    · by_cases hb : 10 * n + digitValue c ≤ bound
      · simp [readDigitsWithin, hc, hb, ih hb, hcons]
      · simp only [readDigitsWithin, hc, hb, Bool.not_true, Bool.false_eq_true, if_false,
          reduceCtorEq, false_iff, hcons]
        rintro ⟨-, rfl, h⟩
        omega
    · simp [readDigitsWithin, hc]

/-- Digits read from the start denote their number, if it is within the bound. -/
theorem readDigitsWithin_of_isDigit {bound : Nat} {excess : NumeralError} {s : List Char}
    (hd : ∀ c ∈ s, c.isDigit = true) (h : ofDigits s ≤ bound) :
    readDigitsWithin bound excess 0 s = .ok (ofDigits s) :=
  (readDigitsWithin_ok_iff (Nat.zero_le _)).2 ⟨hd, rfl, h⟩

/-- Digits without a sign are read as they are. -/
theorem readSigned_of_isDigit {below above : Nat} {s : List Char} (hne : s ≠ [])
    (hd : ∀ c ∈ s, c.isDigit = true) (h : ofDigits s ≤ above) :
    readSigned below above s = .ok (ofDigits s : Int) := by
  have hread : readDigitsWithin above .tooLarge 0 s = .ok (ofDigits s) :=
    readDigitsWithin_of_isDigit hd h
  obtain ⟨c, r, rfl⟩ := List.exists_cons_of_ne_nil hne
  have hplus : c ≠ '+' := ne_of_isDigit (hd c List.mem_cons_self) (by decide)
  have hminus : c ≠ '-' := ne_of_isDigit (hd c List.mem_cons_self) (by decide)
  rw [readSigned.eq_6 _ _ _ (by simp) (by simp [hplus]) (by simp [hminus]) (by simp [hplus])
    (by simp [hminus]), hread]
  rfl

theorem map_readDigitsWithin_ok {bound : Nat} {excess : NumeralError} {s : List Char}
    {f : Nat → Int} {i : Int} (h : (readDigitsWithin bound excess 0 s).map f = .ok i) :
    (∀ c ∈ s, c.isDigit = true) ∧ i = f (ofDigits s) ∧ ofDigits s ≤ bound := by
  cases hn : readDigitsWithin bound excess 0 s with
  | error e => simp [hn, Except.map] at h
  | ok n =>
    obtain ⟨hd, rfl, hle⟩ := (readDigitsWithin_ok_iff (Nat.zero_le _)).1 hn
    simp only [hn, Except.map, Except.ok.injEq] at h
    exact ⟨hd, h.symm, hle⟩

/-- **An accepted signed numeral** is a run of digits with an optional sign. -/
theorem readSigned_ok {below above : Nat} {s : List Char} {i : Int}
    (h : readSigned below above s = .ok i) :
    ∃ r, (∀ c ∈ r, c.isDigit = true) ∧
      ((s = '-' :: r ∧ i = -(ofDigits r : Int) ∧ ofDigits r ≤ below) ∨
        ((s = r ∨ s = '+' :: r) ∧ i = ofDigits r ∧ ofDigits r ≤ above)) := by
  unfold readSigned at h
  split at h
  case h_1 | h_2 | h_3 => simp at h
  case h_4 r _ =>
    obtain ⟨hd, hi, hle⟩ := map_readDigitsWithin_ok h
    exact ⟨r, hd, .inr ⟨.inr rfl, hi, hle⟩⟩
  case h_5 r _ =>
    obtain ⟨hd, hi, hle⟩ := map_readDigitsWithin_ok h
    exact ⟨r, hd, .inl ⟨rfl, hi, hle⟩⟩
  case h_6 =>
    obtain ⟨hd, hi, hle⟩ := map_readDigitsWithin_ok h
    exact ⟨s, hd, .inr ⟨.inl rfl, hi, hle⟩⟩

/-- **A signed numeral within the bounds is read back.** -/
theorem readSigned_signedDigits {below above : Nat} {i : Int} (hlow : -(below : Int) ≤ i)
    (hhigh : i ≤ above) : readSigned below above (signedDigits i) = .ok i := by
  have hall : ∀ c ∈ digits i.natAbs, c.isDigit = true := fun c => isDigit_of_mem_digits
  unfold signedDigits
  split
  case isTrue hneg =>
    obtain ⟨c, r, hcr, -⟩ := digits_eq_cons i.natAbs
    have hread : readDigitsWithin below .tooSmall 0 (digits i.natAbs) = .ok (ofDigits _) :=
      readDigitsWithin_of_isDigit hall (by rw [ofDigits_digits]; omega)
    rw [ofDigits_digits, hcr] at hread
    rw [hcr]
    simp only [readSigned, hread, Except.map, Except.ok.injEq, Int.ofNat_eq_natCast]
    omega
  case isFalse hpos =>
    rw [readSigned_of_isDigit (digits_ne_nil _) hall (by rw [ofDigits_digits]; omega),
      ofDigits_digits, Except.ok.injEq]
    omega

end Abac.Text
