import Mathlib.Algebra.Group.Int.Defs
import Mathlib.Algebra.Group.Nat.Defs
import Abac.Temporal.Duration

/-!
# The span of a duration

A duration keeps its days, hours, minutes and seconds as they were written, in words that no other
component bounds. Its span is reckoned from them by sums and products that refuse to wrap around, so
the question is whether one of them refuses a duration that is short enough for a span.

None does. All components count upward, so a product or a sum that is no word is already more than
the whole number of seconds may be, and the reckoning succeeds just when that number is a word
(`wholeSeconds?_eq_some_iff`). A span holds far less than that. The sign is applied last, which
never fails because spans reach as far back as they reach forward.
-/

namespace Abac

namespace Span

theorem make?_eq_some_iff {seconds : Int64} {nanos : Nat} {s : Span} :
    make? seconds nanos = some s ↔ s.seconds = seconds ∧ s.nanos = nanos := by
  unfold make?
  split
  · rw [Option.some.injEq]
    constructor
    · rintro rfl
      exact ⟨rfl, rfl⟩
    · rintro ⟨rfl, rfl⟩
      rfl
  · rename_i hinvalid
    simp only [reduceCtorEq, false_iff]
    rintro ⟨rfl, rfl⟩
    exact hinvalid s.valid

/-- Seconds and nanoseconds make a span unless they are too long. -/
theorem exists_make?_iff {seconds : Int64} {nanos : Nat} (hn : nanos < nanosPerSecond)
    (hs : 0 ≤ seconds.toInt) :
    (∃ s, make? seconds nanos = some s) ↔
      seconds.toInt * nanosPerSecond + nanos ≤ longestSpan := by
  have hvalid : isSpan seconds nanos = true ↔
      seconds.toInt * nanosPerSecond + nanos ≤ longestSpan := by
    rw [isSpan_iff]
    simp only [hn, true_and, and_iff_right_iff_imp]
    simp only [nanosPerSecond, longestSpan]
    omega
  rw [← hvalid]
  constructor
  · rintro ⟨s, hmake⟩
    obtain ⟨rfl, rfl⟩ := make?_eq_some_iff.mp hmake
    exact s.valid
  · intro h
    exact ⟨⟨seconds, nanos, h⟩, make?_eq_some_iff.mpr ⟨rfl, rfl⟩⟩

/-- **The opposite span is as long and goes the other way.** -/
theorem nanoseconds_negate (s : Span) : s.negate.nanoseconds = -s.nanoseconds :=
  s.nanoseconds_opposite

end Span

namespace DayTimeDuration

/-- The whole seconds of a duration, reckoned without bounds. -/
def exactSeconds (d : DayTimeDuration) : Nat :=
  d.days.toNat * 86400 + d.hours.toNat * 3600 + d.minutes.toNat * 60 + d.seconds.toNat

/-- The nanoseconds of a duration without its sign, reckoned without bounds. -/
def magnitude (d : DayTimeDuration) : Nat := d.exactSeconds * nanosPerSecond + d.nanos

/-- The nanoseconds of a duration with its sign. -/
def signedMagnitude (d : DayTimeDuration) : Int :=
  if d.negative then -d.magnitude else d.magnitude

theorem exists_word {n : Nat} (h : n < 2 ^ 64) : ∃ w : UInt64, w.toNat = n :=
  ⟨UInt64.ofNat n, UInt64.toNat_ofNat_of_lt' h⟩

/-- **The reckoning in words succeeds just when its result is a word.** -/
theorem wholeSeconds?_eq_some_iff {d : DayTimeDuration} {n : UInt64} :
    d.wholeSeconds? = some n ↔ n.toNat = d.exactSeconds := by
  have hdays : (86400 : UInt64).toNat = 86400 := by rfl
  have hhours : (3600 : UInt64).toNat = 3600 := by rfl
  have hminutes : (60 : UInt64).toNat = 60 := by rfl
  simp only [wholeSeconds?, Option.bind_eq_bind, Option.bind_eq_some_iff, Word.mul?_eq_some_iff,
    Word.add?_eq_some_iff, hdays, hhours, hminutes, exactSeconds]
  constructor
  · rintro ⟨days, hd, hours, hh, sum, hsum, minutes, hm, sum', hsum', hn⟩
    omega
  · intro hn
    have hword := n.toNat_lt
    -- each intermediate result is at most the last one
    obtain ⟨days, hd⟩ := exists_word (n := d.days.toNat * 86400) (by omega)
    obtain ⟨hours, hh⟩ := exists_word (n := d.hours.toNat * 3600) (by omega)
    obtain ⟨minutes, hm⟩ := exists_word (n := d.minutes.toNat * 60) (by omega)
    obtain ⟨sum, hsum⟩ := exists_word (n := days.toNat + hours.toNat) (by omega)
    obtain ⟨sum', hsum'⟩ := exists_word (n := sum.toNat + minutes.toNat) (by omega)
    exact ⟨days, hd.symm, hours, hh.symm, sum, hsum.symm, minutes, hm.symm, sum', hsum'.symm,
      by omega⟩

theorem toSpan?_eq_some_iff {d : DayTimeDuration} {s : Span} :
    d.toSpan? = some s ↔ ∃ (seconds : Int64) (forward : Span),
      seconds.toInt = d.exactSeconds ∧ Span.make? seconds d.nanos = some forward ∧
      s = if d.negative then forward.negate else forward := by
  simp only [toSpan?, Option.bind_eq_bind, Option.bind_eq_some_iff, Option.pure_def,
    Option.some.injEq, wholeSeconds?_eq_some_iff, Word.signed?_eq_some_iff]
  constructor
  · rintro ⟨word, hword, seconds, hseconds, forward, hforward, hs⟩
    exact ⟨seconds, forward, by rw [hseconds, hword], hforward, hs.symm⟩
  · rintro ⟨seconds, forward, hseconds, hforward, rfl⟩
    have hlt := seconds.toInt_lt
    obtain ⟨word, hword⟩ := exists_word (n := d.exactSeconds) (by omega)
    exact ⟨word, hword, seconds, by rw [hseconds, hword], forward, hforward, rfl⟩

/-- The whole seconds of a duration that is short enough are a signed word. -/
theorem exists_seconds {d : DayTimeDuration} (h : d.magnitude ≤ longestSpan) :
    ∃ seconds : Int64, seconds.toInt = d.exactSeconds := by
  have hlt : d.exactSeconds < 2 ^ 63 := by
    unfold magnitude nanosPerSecond longestSpan at h
    omega
  exact ⟨Int64.ofNat d.exactSeconds, Int64.toInt_ofNat_of_lt hlt⟩

/-- **A duration has a span just when its exact length is at most 2^63 - 1 milliseconds**, and the
span is that long, in the direction of the duration's sign. No sum or product on the way refuses a
duration of that length: its whole seconds are reckoned exactly. -/
theorem toSpan?_exact {d : DayTimeDuration} (hn : d.nanos < nanosPerSecond) :
    ((∃ s, d.toSpan? = some s) ↔ d.magnitude ≤ (2 ^ 63 - 1) * 1000000) ∧
      (∀ s, d.toSpan? = some s → s.nanoseconds = d.signedMagnitude) ∧
      (d.magnitude ≤ (2 ^ 63 - 1) * 1000000 →
        ∃ n, d.wholeSeconds? = some n ∧ n.toNat = d.exactSeconds) := by
  have hlimit : longestSpan = (2 ^ 63 - 1) * 1000000 := rfl
  have hlength {seconds : Int64} (hseconds : seconds.toInt = d.exactSeconds) :
      seconds.toInt * nanosPerSecond + d.nanos = (d.magnitude : Int) := by
    rw [hseconds, magnitude]
    push_cast
    rfl
  rw [← hlimit]
  refine ⟨⟨?some, ?fits⟩, ?exact, ?steps⟩
  case some =>
    rintro ⟨s, h⟩
    obtain ⟨seconds, forward, hseconds, hforward, -⟩ := toSpan?_eq_some_iff.mp h
    have hfits := (Span.exists_make?_iff hn (by omega)).mp ⟨forward, hforward⟩
    rw [hlength hseconds] at hfits
    exact Int.ofNat_le.mp hfits
  case fits =>
    intro h
    obtain ⟨seconds, hseconds⟩ := exists_seconds h
    have hpos : 0 ≤ seconds.toInt := by omega
    obtain ⟨forward, hforward⟩ := (Span.exists_make?_iff hn hpos).mpr
      (by rw [hlength hseconds]; exact Int.ofNat_le.mpr h)
    exact ⟨_, toSpan?_eq_some_iff.mpr ⟨seconds, forward, hseconds, hforward, rfl⟩⟩
  case exact =>
    intro s h
    obtain ⟨seconds, forward, hseconds, hforward, rfl⟩ := toSpan?_eq_some_iff.mp h
    obtain ⟨rfl, hnanos⟩ := Span.make?_eq_some_iff.mp hforward
    have hforward : forward.nanoseconds = d.magnitude := by
      rw [Span.nanoseconds, hnanos, hlength hseconds]
    rw [signedMagnitude]
    split
    · rw [Span.nanoseconds_negate, hforward]
    · exact hforward
  case steps =>
    intro h
    obtain ⟨seconds, hseconds⟩ := exists_seconds h
    have hlt := seconds.toInt_lt
    obtain ⟨n, hword⟩ := exists_word (n := d.exactSeconds) (by omega)
    exact ⟨n, wholeSeconds?_eq_some_iff.mpr hword, hword⟩

/-- The longest span in the direction of the past, and a duration that is longer by a nanosecond. -/
theorem toSpan?_exact_longest :
    (∃ s, toSpan? ⟨true, 106751991167, 7, 12, 55, 807000000⟩ = some s ∧
      s.nanoseconds = -((2 ^ 63 - 1) * 1000000)) ∧
    ¬ ∃ s, toSpan? ⟨true, 106751991167, 7, 12, 55, 807000001⟩ = some s := by
  have hlongest := toSpan?_exact (d := ⟨true, 106751991167, 7, 12, 55, 807000000⟩) (by decide)
  have hlonger := toSpan?_exact (d := ⟨true, 106751991167, 7, 12, 55, 807000001⟩) (by decide)
  obtain ⟨s, hs⟩ := hlongest.1.mpr (by decide)
  exact ⟨⟨s, hs, hlongest.2.1 s hs⟩, mt hlonger.1.mp (by decide)⟩

end DayTimeDuration

end Abac
