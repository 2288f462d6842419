import Abac.Proofs.CanonicalText
import Abac.Proofs.DayTimeGrammar

/-!
# Durations read back from their canonical text

The two halves meet at the grammar. What is read is what is written (`read_iff`), so it is enough
that the canonical text of a duration is one way of writing it (`written_render`). That holds of
every duration whose nanoseconds are less than a second and which has no sign if it is nothing, and
only such durations are read.
-/

namespace Abac

namespace Temporal

open Text

/-! ## Components that are printed -/

theorem writes_digits (n : UInt64) : Writes (digits n.toNat) n :=
  ⟨isNumeral_digits n.toNat, ofDigits_digits n.toNat⟩

/-- A number that is not printed is zero. -/
theorem optional_renderComponent (n : UInt64) (designator : Char) :
    Optional designator Writes 0 (DayTimeDuration.renderComponent n designator) n := by
  unfold DayTimeDuration.renderComponent
  by_cases hn : n = 0
  · rw [if_pos hn, hn]
    exact .absent
  · rw [if_neg hn]
    exact .present (writes_digits n)

theorem renderComponent_eq_nil_iff {n : UInt64} {designator : Char} :
    DayTimeDuration.renderComponent n designator = [] ↔ n = 0 := by
  unfold DayTimeDuration.renderComponent
  by_cases hn : n = 0 <;> simp [hn]

/-- A fraction is less than a second. -/
theorem SecondsNumber.nanos_lt {s : List Char} {p : UInt64 × Nat} (h : SecondsNumber s p) :
    p.2 < nanosPerSecond := by
  cases h with
  | whole => exact (by decide : 0 < nanosPerSecond)
  | @fraction s f n _ hf hlen =>
      have hlt : ofDigits f < 10 ^ f.length := ofDigits_lt (isNumeral_iff.mp hf).2
      have hpow : 10 ^ f.length * 10 ^ (9 - f.length) = nanosPerSecond := by
        rw [← Nat.pow_add, Nat.add_sub_cancel' hlen]
        rfl
      calc ofDigits f * 10 ^ (9 - f.length)
          < 10 ^ f.length * 10 ^ (9 - f.length) :=
            Nat.mul_lt_mul_of_pos_right hlt (Nat.pow_pos (by decide))
        _ = nanosPerSecond := hpow

/-- The zeros that a fraction is printed without are those it is filled up with. -/
theorem secondsNumber_render (n : UInt64) {nanos : Nat} (h : nanos < nanosPerSecond) :
    SecondsNumber (digits n.toNat ++ renderFraction nanos) (n, nanos) := by
  unfold renderFraction
  by_cases hzero : nanos = 0
  · rw [if_pos hzero, hzero, List.append_nil]
    exact .whole (writes_digits n)
  · rw [if_neg hzero]
    obtain ⟨k, hk⟩ := exists_stripped (paddedDigits 9 nanos)
    have hne := @stripped_ne_nil 9 nanos hzero
    have hdigit := @isDigit_of_mem_stripped 9 nanos
    generalize ((paddedDigits 9 nanos).reverse.dropWhile (· == '0')).reverse = f at hk hne hdigit ⊢
    -- nine digits in all, those that are printed and the zeros behind them
    have hlen : f.length + k = 9 := by
      rw [← length_paddedDigits_of_lt (by decide : 0 < 9) h, hk, List.length_append,
        List.length_replicate]
    have hnanos : ofDigits f * 10 ^ (9 - f.length) = nanos := by
      rw [← ofDigits_paddedDigits 9 nanos, hk, ofDigits_append, ofDigits_replicate_zero,
        List.length_replicate, ← hlen, Nat.add_sub_cancel_left, Nat.add_zero, Nat.mul_comm]
    have hwritten := SecondsNumber.fraction (writes_digits n) (isNumeral_iff.mpr ⟨hne, @hdigit⟩)
      (by omega)
    rwa [hnanos] at hwritten

end Temporal

namespace DayTimeDuration

open Temporal

/-! ## Days -/

/-- Whether a duration can be read: its fraction is less than a second, and it has no sign if it is
nothing. -/
structure IsWellFormed (d : DayTimeDuration) : Prop where
  nanos_lt : d.nanos < nanosPerSecond
  sign : d.negative = true → d.isZero = false

theorem ClockText.nanos_lt {s : List Char} {h m : UInt64} {p : UInt64 × Nat}
    (hclock : ClockText s h m p) : p.2 < nanosPerSecond := by
  cases hclock with
  | absent => exact (by decide : 0 < nanosPerSecond)
  | present _ _ hs _ =>
      cases hs with
      | absent => exact (by decide : 0 < nanosPerSecond)
      | present hs => exact hs.nanos_lt

theorem wellFormed_of_read {s : List Char} {v : DayTimeDuration} (h : read s = .ok v) :
    v.IsWellFormed := by
  cases read_iff.mp h with
  | mk _ hclock _ hneg => exact ⟨hclock.nanos_lt, fun hnegative => (hneg.mp hnegative).2⟩

theorem optional_renderSeconds {v : DayTimeDuration} (h : v.nanos < nanosPerSecond) :
    Optional 'S' SecondsNumber (0, 0) v.renderSeconds (v.seconds, v.nanos) := by
  unfold renderSeconds
  by_cases hzero : v.seconds = 0 ∧ v.nanos = 0
  · rw [if_pos hzero, hzero.1, hzero.2]
    exact .absent
  · rw [if_neg hzero]
    exact .present (secondsNumber_render v.seconds h)

theorem renderSeconds_eq_nil_iff {v : DayTimeDuration} :
    v.renderSeconds = [] ↔ v.seconds = 0 ∧ v.nanos = 0 := by
  unfold renderSeconds
  by_cases hzero : v.seconds = 0 ∧ v.nanos = 0 <;> simp [hzero]

/-- The text of hours, minutes and seconds. -/
def clockChars (v : DayTimeDuration) : List Char :=
  renderComponent v.hours 'H' ++ (renderComponent v.minutes 'M' ++ v.renderSeconds)

theorem isZero_iff {v : DayTimeDuration} :
    v.isZero = true ↔ v.days = 0 ∧ v.clockChars = [] := by
  simp only [isZero, clockChars, List.append_eq_nil_iff, renderComponent_eq_nil_iff,
    renderSeconds_eq_nil_iff, Bool.and_eq_true, beq_iff_eq, and_assoc]

/-- The text of what stands behind the days. -/
def clockPart (v : DayTimeDuration) : List Char :=
  if v.clockChars = [] then [] else 'T' :: v.clockChars

theorem clockText_clockPart {v : DayTimeDuration} (h : v.nanos < nanosPerSecond) :
    ClockText v.clockPart v.hours v.minutes (v.seconds, v.nanos) := by
  unfold clockPart
  by_cases hempty : v.clockChars = []
  · -- only zeros are left out
    obtain ⟨hhours, hrest⟩ := List.append_eq_nil_iff.mp hempty
    obtain ⟨hminutes, hseconds⟩ := List.append_eq_nil_iff.mp hrest
    rw [renderComponent_eq_nil_iff] at hhours hminutes
    rw [renderSeconds_eq_nil_iff] at hseconds
    rw [if_pos hempty, hhours, hminutes, hseconds.1, hseconds.2]
    exact .absent
  · rw [if_neg hempty]
    exact .present (optional_renderComponent v.hours 'H') (optional_renderComponent v.minutes 'M')
      (optional_renderSeconds h) hempty

theorem clockPart_eq_nil_iff {v : DayTimeDuration} : v.clockPart = [] ↔ v.clockChars = [] := by
  unfold clockPart
  by_cases hempty : v.clockChars = [] <;> simp [hempty]

theorem render_of_not_isZero {v : DayTimeDuration} (h : v.isZero = false) :
    v.render = minus v.negative ++ 'P' :: (renderComponent v.days 'D' ++ v.clockPart) := by
  simp [render, h, minus, clockPart, clockChars, List.isEmpty_iff]

/-- There is one duration of nothing. -/
theorem IsWellFormed.eq_zero {v : DayTimeDuration} (h : v.IsWellFormed) (hzero : v.isZero = true) :
    v = zero := by
  have hsign : v.negative = false :=
    Bool.eq_false_iff.mpr fun hnegative => absurd hzero (by rw [h.sign hnegative]; decide)
  obtain ⟨negative, days, hours, minutes, seconds, nanos⟩ := v
  simp only [isZero, Bool.and_eq_true, beq_iff_eq] at hzero
  obtain ⟨⟨⟨⟨rfl, rfl⟩, rfl⟩, rfl⟩, rfl⟩ := hzero
  rw [zero, mk.injEq]
  exact ⟨hsign, rfl, rfl, rfl, rfl, rfl⟩

theorem written_zero : Written SingleDays zero.render zero := by
  have hnumber : Writes ['0'] 0 := writes_digits 0
  have hseconds : Optional 'S' SecondsNumber (0, 0) ['0', 'S'] (0, 0) :=
    @Optional.present _ _ SecondsNumber (0, 0) ['0'] (0, 0) (.whole hnumber)
  have hclock : ClockText ['T', '0', 'S'] 0 0 (0, 0) :=
    .present .absent .absent hseconds (by simp)
  exact @Written.mk SingleDays false [] _ zero .absent hclock (by simp) (by decide)

/-- **The canonical text is one way of writing a duration**, with days at most once. -/
theorem written_render {v : DayTimeDuration} (h : v.IsWellFormed) :
    Written SingleDays v.render v := by
  cases hzero : v.isZero with
  | true =>
      rw [h.eq_zero hzero]
      exact written_zero
  | false =>
      have hne : renderComponent v.days 'D' ++ v.clockPart ≠ [] := fun hnil => by
        obtain ⟨hdays, hclock⟩ := List.append_eq_nil_iff.mp hnil
        rw [renderComponent_eq_nil_iff] at hdays
        rw [clockPart_eq_nil_iff] at hclock
        rw [isZero_iff.mpr ⟨hdays, hclock⟩] at hzero
        cases hzero
      rw [render_of_not_isZero hzero]
      exact .mk (optional_renderComponent v.days 'D') (clockText_clockPart h.nanos_lt) hne
        (by simp [hzero])

/-- **What is read of the canonical text** is the duration, for those that can be read at all. -/
theorem read_render_iff {v : DayTimeDuration} : read v.render = .ok v ↔ v.IsWellFormed := by
  constructor
  · exact wellFormed_of_read
  · intro h
    exact read_iff.mpr (written_singleDays_iff.mp (written_render h)).1

theorem read_render_of_read {s : List Char} {v : DayTimeDuration} (h : read s = .ok v) :
    read v.render = .ok v :=
  read_render_iff.mpr (wellFormed_of_read h)

end DayTimeDuration

namespace YearMonthDuration

open Temporal

/-! ## Years and months -/

/-- Whether a duration can be read: it has no sign if it is nothing. -/
structure IsWellFormed (d : YearMonthDuration) : Prop where
  sign : d.negative = true → d.isZero = false

theorem wellFormed_of_read {s : List Char} {v : YearMonthDuration} (h : read s = .ok v) :
    v.IsWellFormed := by
  cases read_iff.mp h with
  | mk _ _ _ hneg => exact ⟨fun hnegative => (hneg.mp hnegative).2⟩

theorem written_zero : Written zero.render zero := by
  have hnumber : Writes ['0'] 0 := writes_digits 0
  exact @Written.mk false [] _ zero .absent (.present hnumber) (by simp) (by decide)

theorem IsWellFormed.eq_zero {v : YearMonthDuration} (h : v.IsWellFormed)
    (hzero : v.isZero = true) : v = zero := by
  have hsign : v.negative = false :=
    Bool.eq_false_iff.mpr fun hnegative => absurd hzero (by rw [h.sign hnegative]; decide)
  obtain ⟨negative, years, months⟩ := v
  simp only [isZero, Bool.and_eq_true, beq_iff_eq] at hzero
  rw [zero, mk.injEq]
  exact ⟨hsign, hzero⟩

theorem render_of_not_isZero {v : YearMonthDuration} (h : v.isZero = false) :
    v.render = minus v.negative ++ 'P' :: (DayTimeDuration.renderComponent v.years 'Y' ++
      DayTimeDuration.renderComponent v.months 'M') := by
  simp [render, h, minus]

/-- **The canonical text is one way of writing a duration.** -/
theorem written_render {v : YearMonthDuration} (h : v.IsWellFormed) : Written v.render v := by
  cases hzero : v.isZero with
  | true =>
      rw [h.eq_zero hzero]
      exact written_zero
  | false =>
      have hne : DayTimeDuration.renderComponent v.years 'Y' ++
          DayTimeDuration.renderComponent v.months 'M' ≠ [] := fun hnil => by
        simp only [List.append_eq_nil_iff, renderComponent_eq_nil_iff] at hnil
        simp [isZero, hnil] at hzero
      rw [render_of_not_isZero hzero]
      exact .mk (optional_renderComponent v.years 'Y') (optional_renderComponent v.months 'M') hne
        (by simp [hzero])

theorem read_render_iff {v : YearMonthDuration} : read v.render = .ok v ↔ v.IsWellFormed := by
  constructor
  · exact wellFormed_of_read
  · intro h
    exact read_iff.mpr (written_render h)

theorem read_render_of_read {s : List Char} {v : YearMonthDuration} (h : read s = .ok v) :
    read v.render = .ok v :=
  read_render_iff.mpr (wellFormed_of_read h)

end YearMonthDuration

namespace Value

/-! ## Values -/

/-- What is read as a duration is read back from its canonical text. -/
theorem read_render_of_duration {t : DataType} (ht : t = .dayTimeDuration ∨ t = .yearMonthDuration)
    {s : String} {v : Value} (h : read t s = .ok v) : read t v.render = .ok v := by
  rw [read_ok_iff] at h
  rcases ht with rfl | rfl
  · obtain ⟨d, hd, rfl⟩ := Except.map_eq_ok_iff.1 h
    have hback := DayTimeDuration.read_render_of_read (Except.mapError_eq_ok_iff.1 hd)
    rw [read_render, readAs, chars, hback]
    rfl
  · obtain ⟨d, hd, rfl⟩ := Except.map_eq_ok_iff.1 h
    have hback := YearMonthDuration.read_render_of_read (Except.mapError_eq_ok_iff.1 hd)
    rw [read_render, readAs, chars, hback]
    rfl

/-- What is read as a duration is the same as itself. -/
theorem beq_self_of_duration {t : DataType} (ht : t = .dayTimeDuration ∨ t = .yearMonthDuration)
    {s : String} {v : Value} (h : read t s = .ok v) : (v == v) = true := by
  rw [read_ok_iff] at h
  rcases ht with rfl | rfl
  all_goals
    obtain ⟨d, -, rfl⟩ := Except.map_eq_ok_iff.1 h
    exact beq_self_eq_true d

theorem eq_of_beq_of_duration {t : DataType} (ht : t = .dayTimeDuration ∨ t = .yearMonthDuration)
    {s s' : String} {v w : Value} (hv : read t s = .ok v) (hw : read t s' = .ok w)
    (h : (v == w) = true) : v = w := by
  rw [read_ok_iff] at hv hw
  rcases ht with rfl | rfl
  all_goals
    obtain ⟨d, -, rfl⟩ := Except.map_eq_ok_iff.1 hv
    obtain ⟨e, -, rfl⟩ := Except.map_eq_ok_iff.1 hw
    exact congrArg _ (beq_iff_eq.mp h)

/-- **Durations print canonically.** The canonical text of a duration that was read is read as the
same duration, so two of them have one text only if they are one; as values they are then equal, and
only then. What is read as years and months is `[-]P[nY][nM]` with one of both at least. -/
theorem duration_text :
    (∀ t, t = .dayTimeDuration ∨ t = .yearMonthDuration →
      (∀ s v, read t s = .ok v → read t v.render = .ok v) ∧
      ∀ s v s' w, read t s = .ok v → read t s' = .ok w →
        (v.render = w.render ↔ v = w) ∧ ((v == w) = true ↔ v = w)) ∧
      ∀ s v, read .yearMonthDuration s = .ok v ↔
        ∃ d, v = .yearMonthDuration d ∧ YearMonthDuration.Written s.toList d := by
  refine ⟨fun t ht => ⟨fun s v h => read_render_of_duration ht h, ?_⟩, fun s v => ?_⟩
  · intro s v s' w hv hw
    refine ⟨⟨fun htext => ?_, fun heq => by rw [heq]⟩, eq_of_beq_of_duration ht hv hw, ?_⟩
    · have hback := read_render_of_duration ht hv
      rw [htext, read_render_of_duration ht hw] at hback
      exact (Except.ok.inj hback).symm
    · rintro rfl
      exact beq_self_of_duration ht hv
  · rw [read_ok_iff, readAs, Except.map_eq_ok_iff]
    simp only [Except.mapError_eq_ok_iff, YearMonthDuration.read_iff]
    constructor
    · rintro ⟨d, hd, rfl⟩
      exact ⟨d, rfl, hd⟩
    · rintro ⟨d, rfl, hd⟩
      exact ⟨d, hd, rfl⟩

/-- A duration with leading zeros, a component of nothing and a fraction that ends in a zero. -/
theorem duration_text_of_one_day :
    read .dayTimeDuration "-P01DT0H30M1.250S" =
      .ok (.dayTimeDuration ⟨true, 1, 0, 30, 1, 250000000⟩) ∧
    read .dayTimeDuration "-P1DT30M1.25S" =
      .ok (.dayTimeDuration ⟨true, 1, 0, 30, 1, 250000000⟩) := by
  have hread : read .dayTimeDuration "-P01DT0H30M1.250S" =
      .ok (.dayTimeDuration ⟨true, 1, 0, 30, 1, 250000000⟩) := by rfl
  exact ⟨hread, (duration_text.1 .dayTimeDuration (.inl rfl)).1 _ _ hread⟩

end Value

end Abac
