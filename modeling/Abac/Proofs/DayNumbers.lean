import Mathlib.Data.Int.Order.Basic
import Mathlib.Order.Compare
import Mathlib.Order.Lattice
import Abac.Temporal.Zoned
import Abac.Proofs.Fields

/-!
# The numbers of days

Days are numbered one after the other through months and years. The number of a
day is computed from its year, month and day by a formula, and three facts make
that formula a numbering: a month takes up as many numbers as it has days
(`daysBeforeMonth_add_daysInMonth`), the twelve months take up the year
(`daysBeforeMonth_thirteen`), and a year takes up as many numbers as its leap day
demands (`yearStart_succ`). So a later date has a greater number, and the order of
dates by year, month and day is the order of their numbers
(`CivilDate.cmp_eq_compare_number`).

The same goes for the clock: hours, minutes and seconds are ordered as the seconds
of the day that have passed. A leap second is kept inside second 59 and needs no
case of its own (`DateTime.wallCmp_eq_cmp`).
-/

namespace Abac

/-- A comparison that looks at one thing first and at the rest only where that makes no difference.
-/
theorem compare_then_eq {α : Type} [LinearOrder α] {x y : α} {rest o : Ordering}
    (hlt : x < y → o = .lt) (heq : x = y → rest = o) (hgt : y < x → o = .gt) :
    (compare x y).then rest = o := by
  rcases lt_trichotomy x y with h | h | h
  · rw [compare_lt_iff_lt.mpr h, hlt h]
    rfl
  · rw [compare_eq_iff_eq.mpr h]
    exact heq h
  · rw [compare_gt_iff_gt.mpr h, hgt h]
    rfl

/-- A comparison is known if it is known in the three cases of the order. -/
theorem compare_eq_of {α : Type} [LinearOrder α] {x y : α} {o : Ordering} (hlt : x < y → o = .lt)
    (heq : x = y → o = .eq) (hgt : y < x → o = .gt) : compare x y = o := by
  rw [← (compare x y).then_eq]
  exact compare_then_eq hlt (fun h => (heq h).symm) hgt

/-! ## Years and months -/

/-- The number of the last day before a year. -/
def yearStart (y : Int) : Int := 365 * (y - 1) + (y - 1) / 4 - (y - 1) / 100 + (y - 1) / 400

/-- The number of days of a year. -/
def daysInYear (y : Int) : Nat := if isLeapYear y then 366 else 365

theorem dayNumber_eq (y : Int) (m d : Nat) :
    dayNumber y m d = yearStart y + daysBeforeMonth y m + d := rfl

theorem isLeapYear_iff {y : Int} :
    isLeapYear y = true ↔ y % 4 = 0 ∧ (y % 100 ≠ 0 ∨ y % 400 = 0) := by
  simp [isLeapYear]

/-- **A year is as long as it has days.** -/
theorem yearStart_succ (y : Int) : yearStart (y + 1) = yearStart y + daysInYear y := by
  have hp : y + 1 - 1 = y := by omega
  unfold yearStart daysInYear
  rw [hp]
  by_cases h : isLeapYear y = true
  · rw [if_pos h]
    rw [isLeapYear_iff] at h
    omega
  · rw [if_neg h]
    rw [isLeapYear_iff] at h
    omega

theorem yearStart_mono {y z : Int} (h : y ≤ z) : yearStart y ≤ yearStart z := by
  unfold yearStart
  omega

/-- A month is as long as it has days. -/
theorem daysBeforeMonth_add_daysInMonth (y : Int) {m : Nat} (h : 1 ≤ m) :
    daysBeforeMonth y m + daysInMonth y m = daysBeforeMonth y (m + 1) := by
  obtain ⟨k, rfl⟩ := Nat.exists_eq_add_of_le' h
  rfl

/-- Twelve months make up a year. -/
theorem daysBeforeMonth_thirteen (y : Int) : daysBeforeMonth y 13 = daysInYear y := by
  unfold daysInYear
  cases h : isLeapYear y <;> simp [daysBeforeMonth, daysInMonth, h]

theorem daysBeforeMonth_mono (y : Int) {m n : Nat} (h : m ≤ n) :
    daysBeforeMonth y m ≤ daysBeforeMonth y n := by
  induction h with
  | refl => exact Nat.le_refl _
  | @step k _ ih =>
      refine Nat.le_trans ih ?_
      cases k with
      | zero => exact Nat.le_refl _
      | succ k => exact Nat.le_add_right _ _

/-! ## Dates -/

namespace CivilDate

/-- The first date of the calendar. -/
def first : CivilDate := ⟨firstYear, 1, 1, by decide⟩

/-- The last date of the calendar. -/
def last : CivilDate := ⟨lastYear, 12, 31, by decide⟩

/-- The order of dates by year, month and day. -/
def cmp (a b : CivilDate) : Ordering :=
  (compare a.year b.year).then ((compare a.month b.month).then (compare a.day b.day))

variable {a b d : CivilDate}

theorem day_le_daysInMonth (d : CivilDate) : d.day ≤ daysInMonth d.year d.month := by
  have h := d.valid
  simp only [isDate, Bool.and_eq_true, decide_eq_true_eq] at h
  exact h.2

/-- The days of a month lie before the next one. -/
theorem number_le_of_month_lt (d : CivilDate) {m : Nat} (h : d.month < m) :
    d.number ≤ yearStart d.year + daysBeforeMonth d.year m := by
  obtain ⟨-, -, ⟨hm, -⟩, -⟩ := d.bounds
  have hday := d.day_le_daysInMonth
  have hmonth := daysBeforeMonth_add_daysInMonth d.year hm
  have hmono : daysBeforeMonth d.year (d.month + 1) ≤ daysBeforeMonth d.year m :=
    daysBeforeMonth_mono d.year h
  rw [number, dayNumber_eq]
  omega

theorem yearStart_lt_number (d : CivilDate) : yearStart d.year < d.number := by
  obtain ⟨-, -, -, hday, -⟩ := d.bounds
  rw [number, dayNumber_eq]
  omega

theorem number_le_yearStart_succ (d : CivilDate) : d.number ≤ yearStart (d.year + 1) := by
  obtain ⟨-, -, ⟨-, hm⟩, -⟩ := d.bounds
  rw [yearStart_succ, ← daysBeforeMonth_thirteen]
  exact d.number_le_of_month_lt (Nat.lt_succ_of_le hm)

theorem number_lt_of_year_lt (h : a.year < b.year) : a.number < b.number := by
  have ha := a.number_le_yearStart_succ
  have hb := b.yearStart_lt_number
  have hmono : yearStart (a.year + 1) ≤ yearStart b.year := yearStart_mono h
  omega

theorem number_lt_of_month_lt (hy : a.year = b.year) (h : a.month < b.month) :
    a.number < b.number := by
  obtain ⟨-, -, -, hday, -⟩ := b.bounds
  have ha := a.number_le_of_month_lt h
  have hb : b.number = yearStart b.year + daysBeforeMonth b.year b.month + b.day := rfl
  rw [hy] at ha
  omega

/-- Within a month days are numbered as they are counted. -/
theorem number_sub_number (hy : a.year = b.year) (hm : a.month = b.month) :
    a.number - b.number = a.day - b.day := by
  rw [number, number, dayNumber_eq, dayNumber_eq, hy, hm]
  omega

/-- **Dates are ordered by their numbers.** -/
theorem cmp_eq_compare_number (a b : CivilDate) : a.cmp b = compare a.number b.number := by
  refine compare_then_eq (fun h => ?_) (fun hy => ?_) fun h => ?_
  · exact compare_lt_iff_lt.mpr (number_lt_of_year_lt h)
  · refine compare_then_eq (fun h => ?_) (fun hm => ?_) fun h => ?_
    · exact compare_lt_iff_lt.mpr (number_lt_of_month_lt hy h)
    · have hd := number_sub_number hy hm
      refine compare_eq_of (fun h => ?_) (fun h => ?_) fun h => ?_
      · exact compare_lt_iff_lt.mpr (by omega)
      · exact compare_eq_iff_eq.mpr (by omega)
      · exact compare_gt_iff_gt.mpr (by omega)
    · exact compare_gt_iff_gt.mpr (number_lt_of_month_lt hy.symm h)
  · exact compare_gt_iff_gt.mpr (number_lt_of_year_lt h)

/-- Different dates have different numbers. -/
theorem number_inj : a.number = b.number ↔ a = b := by
  refine ⟨fun h => ?_, congrArg number⟩
  have hcmp : a.cmp b = .eq := by rw [cmp_eq_compare_number, compare_eq_iff_eq.mpr h]
  obtain ⟨y, m, d, hv⟩ := a
  obtain ⟨y', m', d', hv'⟩ := b
  simpa [cmp, Ordering.then_eq_eq] using hcmp

/-- The numbers of the calendar run from the first date to the last one. -/
theorem number_mem (d : CivilDate) : first.number ≤ d.number ∧ d.number ≤ last.number := by
  obtain ⟨hlow, hhigh, -⟩ := d.bounds
  have hstart := d.yearStart_lt_number
  have hend := d.number_le_yearStart_succ
  have hfirst : first.number = yearStart firstYear + 1 := by decide
  have hlast : last.number = yearStart (lastYear + 1) := by decide
  have hmono : yearStart firstYear ≤ yearStart d.year := yearStart_mono hlow
  have hmono' : yearStart (d.year + 1) ≤ yearStart (lastYear + 1) := yearStart_mono (by omega)
  omega

end CivilDate

/-! ## Times of day -/

namespace ClockTime

/-- The order of times of day by hour, minute, second and nanosecond. -/
def cmp (a b : ClockTime) : Ordering :=
  (compare a.hour b.hour).then ((compare a.minute b.minute).then
    ((compare a.second b.second).then (compare a.nanos b.nanos)))

theorem secondOfDay_lt (t : ClockTime) : t.secondOfDay < 86400 := by
  obtain ⟨hh, hm, hs, -⟩ := t.bounds
  unfold secondOfDay
  omega

/-- **Times of day are ordered by the seconds that have passed.** -/
theorem cmp_eq (a b : ClockTime) :
    a.cmp b = (compare a.secondOfDay b.secondOfDay).then (compare a.nanos b.nanos) := by
  obtain ⟨-, hm, hs, -⟩ := a.bounds
  obtain ⟨-, hm', hs', -⟩ := b.bounds
  have hlt : ∀ r : Ordering, a.secondOfDay < b.secondOfDay →
      (compare a.secondOfDay b.secondOfDay).then r = .lt := by
    intro r h
    rw [compare_lt_iff_lt.mpr h]
    rfl
  have hgt : ∀ r : Ordering, b.secondOfDay < a.secondOfDay →
      (compare a.secondOfDay b.secondOfDay).then r = .gt := by
    intro r h
    rw [compare_gt_iff_gt.mpr h]
    rfl
  unfold secondOfDay at *
  refine compare_then_eq (fun h => hlt _ (by omega)) (fun hh => ?_) fun h => hgt _ (by omega)
  refine compare_then_eq (fun h => hlt _ (by omega)) (fun hm => ?_) fun h => hgt _ (by omega)
  refine compare_then_eq (fun h => hlt _ (by omega)) (fun hs => ?_) fun h => hgt _ (by omega)
  rw [hh, hm, hs, compare_eq_iff_eq.mpr rfl]
  rfl

end ClockTime

/-! ## Local times -/

/-- The order of local times by date and time of day. -/
def DateTime.wallCmp (a b : DateTime) : Ordering :=
  (a.wall.1.cmp b.wall.1).then (a.wall.2.cmp b.wall.2)

/-- Local times are ordered as their points are. -/
theorem DateTime.wallCmp_eq_cmp (a b : DateTime) :
    wallCmp a b = (DateTime.point a).wall.cmp (DateTime.point b).wall := by
  rw [wallCmp, CivilDate.cmp_eq_compare_number, ClockTime.cmp_eq]
  rfl

end Abac
