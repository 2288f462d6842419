import Abac.Proofs.CanonicalText
import Abac.Proofs.DayNumbers
import Abac.Proofs.Orders

/-!
# Zoned values are ordered by their instants

The instant of a zoned value is its local time minus its offset. Counted in
nanoseconds, it is a whole number without bounds (`DateTime.exact`). The code does
not count that far: it moves the local point by the offset and keeps a day, a
second of the day and a nanosecond. Three facts connect the two.

* Outside leap seconds, points are ordered by their nanoseconds
  (`Point.Regular.cmp_eq`), since neither seconds nor nanoseconds overflow into the
  unit above.
* Moving a point adds to its seconds and leaves it outside leap seconds
  (`Point.Regular.move`).
* The instant that is compared is therefore the exact one, unless the move leaves
  the calendar. Then the local time is compared instead, as if it had no offset
  (`DateTime.nanoseconds_instant`).

An offset is at most fourteen hours, so only a local time of the first day that is
ahead of universal time, or one of the last day that is behind it, can leave the
calendar (`DateTime.not_inCalendar_iff`). Such times are read without complaint, and
their order is not that of their instants (`Value.instants_out_of_order`).
-/

namespace Abac

/-! ## Points outside leap seconds -/

namespace Point

/-- A point that lies in no leap second. -/
structure Regular (p : Point) : Prop where
  /-- The second is one of the day. -/
  second_lt : p.second < 86400
  /-- The nanosecond is one of the second. -/
  nanos_lt : p.nanos < nanosPerSecond

/-- The seconds up to a point, counted from the day with the number 0. -/
def seconds (p : Point) : Int := p.day * 86400 + p.second

/-- The nanoseconds up to a point. -/
def nanoseconds (p : Point) : Int := p.seconds * nanosPerSecond + p.nanos

variable {p q : Point}

/-- **Points outside leap seconds are ordered by their nanoseconds.** -/
theorem Regular.cmp_eq (hp : p.Regular) (hq : q.Regular) :
    p.cmp q = compare p.nanoseconds q.nanoseconds := by
  obtain ⟨hs, hn⟩ := hp
  obtain ⟨hs', hn'⟩ := hq
  unfold nanoseconds seconds
  unfold nanosPerSecond at *
  refine compare_then_eq (fun h => ?_) (fun hd => ?_) fun h => ?_
  · exact compare_lt_iff_lt.mpr (by omega)
  · refine compare_then_eq (fun h => ?_) (fun hs => ?_) fun h => ?_
    · exact compare_lt_iff_lt.mpr (by omega)
    · refine compare_eq_of (fun h => ?_) (fun h => ?_) fun h => ?_
      · exact compare_lt_iff_lt.mpr (by omega)
      · exact compare_eq_iff_eq.mpr (by omega)
      · exact compare_gt_iff_gt.mpr (by omega)
    · exact compare_gt_iff_gt.mpr (by omega)
  · exact compare_gt_iff_gt.mpr (by omega)

/-- **A point that is moved by seconds is that many seconds later**, at the same nanosecond. -/
theorem Regular.move (hp : p.Regular) (n : Int) :
    (p.move n).Regular ∧ (p.move n).seconds = p.seconds + n ∧ (p.move n).nanos = p.nanos := by
  obtain ⟨hs, hn⟩ := hp
  by_cases h : n = 0
  · subst h
    exact ⟨⟨hs, hn⟩, (Int.add_zero _).symm, rfl⟩
  · have hleap : ¬ nanosPerSecond ≤ p.nanos := Nat.not_le.mpr hn
    have hmove : p.move n =
        ⟨p.day + (p.second + n) / 86400, ((p.second + n) % 86400 : Int).toNat, p.nanos⟩ := by
      simp only [Point.move, if_neg h, hleap, false_and, if_false]
    rw [hmove]
    refine ⟨⟨?_, hn⟩, ?_, rfl⟩
    · show ((p.second + n) % 86400 : Int).toNat < 86400
      omega
    · simp only [seconds]
      omega

/-- The calendar has the day of a point if the point lies between its ends. -/
theorem Regular.inCalendar_iff (hp : p.Regular) :
    p.inCalendar = true ↔ CivilDate.first.number * 86400 ≤ p.seconds ∧
      p.seconds < (CivilDate.last.number + 1) * 86400 := by
  have hs := hp.second_lt
  have hfirst : dayNumber firstYear 1 1 = CivilDate.first.number := rfl
  have hlast : dayNumber lastYear 12 31 = CivilDate.last.number := rfl
  rw [inCalendar, hfirst, hlast, Bool.and_eq_true, decide_eq_true_eq, decide_eq_true_eq, seconds]
  omega

end Point

/-! ## Instants -/

namespace DateTime

open Temporal

/-- The seconds up to a local time. -/
def localSecond (a : DateTime) : Int := a.wall.1.number * 86400 + a.wall.2.secondOfDay

/-- By how many seconds local time is ahead of universal time. -/
def ahead (a : DateTime) : Int :=
  match a.offset with
  | some o => o.seconds
  | none => 0

/-- The seconds up to the instant of a local time. -/
def exactSecond (a : DateTime) : Int := a.localSecond - a.ahead

/-- Whether the instant of a local time lies in the calendar. -/
def InCalendar (a : DateTime) : Prop :=
  CivilDate.first.number * 86400 ≤ a.exactSecond ∧
    a.exactSecond < (CivilDate.last.number + 1) * 86400

instance (a : DateTime) : Decidable a.InCalendar := inferInstanceAs (Decidable (_ ∧ _))

/-- **The exact instant of a local time**, in nanoseconds: the local time minus its offset. -/
def exact (a : DateTime) : Int := a.exactSecond * nanosPerSecond + a.wall.2.nanos

/-- The instant that is reckoned with: the exact one if the calendar has it, and otherwise the local
time. -/
def reckoned (a : DateTime) : Int :=
  (if a.InCalendar then a.exactSecond else a.localSecond) * nanosPerSecond + a.wall.2.nanos

variable {a b : DateTime}

theorem reckoned_of_inCalendar (h : a.InCalendar) : a.reckoned = a.exact := by
  rw [reckoned, if_pos h, exact]

/-- **Only the two ends of the calendar are in its way**: the first day where local time is ahead
of universal time, and the last day where it is behind. -/
theorem not_inCalendar_iff (ho : ∀ o, a.offset = some o → o.InRange) :
    ¬ a.InCalendar ↔
      (a.wall.1 = .first ∧ (a.wall.2.secondOfDay : Int) < a.ahead) ∨
        (a.wall.1 = .last ∧ 86400 + a.ahead ≤ a.wall.2.secondOfDay) := by
  obtain ⟨hlow, hhigh⟩ := a.wall.1.number_mem
  have hs := a.wall.2.secondOfDay_lt
  have hahead : -86400 < a.ahead ∧ a.ahead < 86400 := by
    unfold ahead
    cases hz : a.offset with
    | none => decide
    | some o =>
        obtain ⟨hw, he⟩ := ho o hz
        unfold maxOffset at hw he
        simp only [Offset.seconds]
        omega
  rw [InCalendar, exactSecond, localSecond, ← CivilDate.number_inj, ← CivilDate.number_inj]
  omega

/-- No time zone moves the first day of 1970 out of the calendar. -/
theorem inCalendar_of_epoch (ho : ∀ o, a.offset = some o → o.InRange) (h : a.wall.1 = .epoch) :
    a.InCalendar := by
  have hepoch : CivilDate.epoch ≠ .first ∧ CivilDate.epoch ≠ .last := by decide
  by_contra hout
  rw [not_inCalendar_iff ho, h] at hout
  rcases hout with ⟨hfirst, -⟩ | ⟨hlast, -⟩
  · exact hepoch.1 hfirst
  · exact hepoch.2 hlast

theorem instant_of_none (h : a.offset = none) : instant (point a) = (point a).wall := by
  simp only [instant, point, h]

theorem instant_of_some {o : Offset} (h : a.offset = some o) :
    instant (point a) = toUniversal (point a).wall o := by
  simp only [instant, point, h]

/-- The point of a local time lies outside leap seconds if its time of day does. -/
theorem regular_point (h : a.wall.2.isLeapSecond = false) : (point a).wall.Regular where
  second_lt := a.wall.2.secondOfDay_lt
  nanos_lt := by
    have hn : ¬ nanosPerSecond ≤ a.wall.2.nanos :=
      ClockTime.isLeapSecond_iff.not.mp (Bool.eq_false_iff.mp h)
    exact Nat.not_le.mp hn

/-- **The instant that a local time is given is the one that is reckoned with.** -/
theorem nanoseconds_instant (h : a.wall.2.isLeapSecond = false) :
    (instant (point a)).Regular ∧ (instant (point a)).nanoseconds = a.reckoned := by
  have hp := regular_point h
  have hlocal : (point a).wall.seconds = a.localSecond := rfl
  have hnanos : (point a).wall.nanos = a.wall.2.nanos := rfl
  cases hz : a.offset with
  | none =>
      have hsame : a.exactSecond = a.localSecond := by
        simp only [exactSecond, ahead, hz, Int.sub_zero]
      rw [instant_of_none hz, Point.nanoseconds, hlocal, hnanos, reckoned, hsame, ite_self]
      exact ⟨hp, rfl⟩
  | some o =>
      obtain ⟨hmoved, hseconds, hn⟩ := hp.move (-o.seconds)
      have hexact : ((point a).wall.move (-o.seconds)).seconds = a.exactSecond := by
        rw [hseconds, hlocal]
        simp only [exactSecond, ahead, hz]
        omega
      have hcalendar : ((point a).wall.move (-o.seconds)).inCalendar = true ↔ a.InCalendar := by
        rw [hmoved.inCalendar_iff, hexact]
        rfl
      rw [instant_of_some hz, toUniversal, reckoned]
      by_cases hin : a.InCalendar
      · rw [if_pos hin, if_pos (hcalendar.mpr hin), Point.nanoseconds, hexact, hn, hnanos]
        exact ⟨hmoved, rfl⟩
      · rw [if_neg hin, if_neg (hcalendar.not.mpr hin), Point.nanoseconds, hlocal, hnanos]
        exact ⟨hp, rfl⟩

end DateTime

/-! ## Values that were read -/

namespace Value

/-- The local time of a date, a time or an instant that was read, and what reading ensures. -/
theorem localTime?_of_read {t : DataType} (ht : t = .date ∨ t = .time ∨ t = .dateTime) {s : String}
    {v : Value} (h : read t s = .ok v) :
    v.dataType = t ∧ ∃ a : DateTime, v.localTime? = some a ∧
      (∀ o, a.offset = some o → o.InRange) ∧ a.wall.2.isLeapSecond = v.inLeapSecond ∧
      (t = .time → a.wall.1 = .epoch) := by
  rw [read_ok_iff] at h
  rcases ht with rfl | rfl | rfl
  all_goals
    obtain ⟨z, hz, rfl⟩ := Except.map_eq_ok_iff.1 h
    have ho := Temporal.inRange_of_readZoned (Except.mapError_eq_ok_iff.1 hz)
  case inl => exact ⟨rfl, ⟨(z.wall, .midnight), z.offset⟩, rfl, ho, rfl, fun h => nomatch h⟩
  case inr.inl => exact ⟨rfl, ⟨(.epoch, z.wall), z.offset⟩, rfl, ho, rfl, fun _ => rfl⟩
  case inr.inr => exact ⟨rfl, z, rfl, ho, rfl, fun h => nomatch h⟩

/-- **Zoned values are ordered by their instants.** Two dates, two times or two instants that were
read stand for local times. If both have a time zone and neither lies in a leap second, they compare
as their instants do, local time minus offset, provided that the calendar has both; an instant that
it has not is replaced by the local time. That happens on the first day of the calendar to the east
and on its last day to the west only, and to no time of day. If neither has a time zone they compare
as their local times do, and if one has and the other has not they do not compare. -/
theorem compare_instants {t : DataType} (ht : t = .date ∨ t = .time ∨ t = .dateTime)
    {s s' : String} {v w : Value} (hv : read t s = .ok v) (hw : read t s' = .ok w) :
    ∃ a b : DateTime, v.localTime? = some a ∧ w.localTime? = some b ∧
      (a.offset.isSome → b.offset.isSome → v.inLeapSecond = false → w.inLeapSecond = false →
        (a.InCalendar → b.InCalendar → v.compare w = .ok (Ord.compare a.exact b.exact)) ∧
        v.compare w = .ok (Ord.compare a.reckoned b.reckoned)) ∧
      (a.offset = none → b.offset = none → v.compare w = .ok (a.wallCmp b)) ∧
      (a.offset.isSome ≠ b.offset.isSome → v.compare w = .error .zoneMismatch) ∧
      (∀ c, c = a ∨ c = b → (¬ c.InCalendar ↔
        (c.wall.1 = .first ∧ (c.wall.2.secondOfDay : Int) < c.ahead) ∨
          (c.wall.1 = .last ∧ 86400 + c.ahead ≤ c.wall.2.secondOfDay))) ∧
      (t = .time → a.InCalendar ∧ b.InCalendar) := by
  obtain ⟨hvt, a, ha, hao, hal, hat⟩ := localTime?_of_read ht hv
  obtain ⟨hwt, b, hb, hbo, hbl, hbt⟩ := localTime?_of_read ht hw
  have hcmp : v.compare w =
      if a.offset.isSome = b.offset.isSome then
        .ok ((Temporal.instant (DateTime.point a)).cmp (Temporal.instant (DateTime.point b)))
      else .error .zoneMismatch :=
    (compare_of_localTime? (hvt.trans hwt.symm) ha hb).trans (ofZoned_cmpZoned _ _)
  refine ⟨a, b, ha, hb, fun haz hbz hv hw => ?zoned, fun haz hbz => ?unzoned, fun hne => ?mixed,
    ?ends, ?times⟩
  case zoned =>
    obtain ⟨har, hae⟩ := DateTime.nanoseconds_instant (hal.trans hv)
    obtain ⟨hbr, hbe⟩ := DateTime.nanoseconds_instant (hbl.trans hw)
    rw [if_pos (haz.trans hbz.symm), har.cmp_eq hbr, hae, hbe] at hcmp
    refine ⟨fun hac hbc => ?_, hcmp⟩
    rw [hcmp, DateTime.reckoned_of_inCalendar hac, DateTime.reckoned_of_inCalendar hbc]
  case unzoned =>
    rw [hcmp, if_pos (by rw [haz, hbz]), DateTime.instant_of_none haz,
      DateTime.instant_of_none hbz, DateTime.wallCmp_eq_cmp]
  case mixed => exact hcmp.trans (if_neg hne)
  case ends =>
    rintro c (rfl | rfl)
    · exact DateTime.not_inCalendar_iff hao
    · exact DateTime.not_inCalendar_iff hbo
  case times =>
    intro h
    exact ⟨DateTime.inCalendar_of_epoch hao (hat h), DateTime.inCalendar_of_epoch hbo (hbt h)⟩

/-- Half an hour before the new year west of the meridian is after a quarter past midnight on it. -/
theorem compare_instants_new_year :
    ∃ v w : Value, read .dateTime "2024-12-31T23:30:00-01:00" = .ok v ∧
      read .dateTime "2025-01-01T00:15:00Z" = .ok w ∧ v.compare w = .ok .gt := by
  have hv : read .dateTime "2024-12-31T23:30:00-01:00" =
      .ok (.dateTime ⟨(⟨2024, 12, 31, by decide⟩, ⟨23, 30, 0, 0, by decide⟩), some ⟨-60⟩⟩) := by
    rfl
  have hw : read .dateTime "2025-01-01T00:15:00Z" =
      .ok (.dateTime ⟨(⟨2025, 1, 1, by decide⟩, ⟨0, 15, 0, 0, by decide⟩), some .utc⟩) := by
    rfl
  obtain ⟨a, b, ha, hb, hzoned, -⟩ := compare_instants (.inr (.inr rfl)) hv hw
  obtain rfl := Option.some.inj ha
  obtain rfl := Option.some.inj hb
  exact ⟨_, _, hv, hw, (hzoned rfl rfl rfl rfl).1 (by decide) (by decide)⟩

/-- At the start of the calendar one in the morning, fourteen hours ahead of universal time, is
earlier than half past midnight by universal time, and compares as later. -/
theorem instants_out_of_order :
    ∃ a b : DateTime, read .dateTime "-262143-01-01T01:00:00+14:00" = .ok (.dateTime a) ∧
      read .dateTime "-262143-01-01T00:30:00Z" = .ok (.dateTime b) ∧
      a.offset.isSome ∧ b.offset.isSome ∧ a.wall.2.isLeapSecond = false ∧
      b.wall.2.isLeapSecond = false ∧ Ord.compare a.exact b.exact = .lt ∧
      (Value.dateTime a).compare (.dateTime b) = .ok .gt := by
  refine ⟨⟨(.first, ⟨1, 0, 0, 0, by decide⟩), some ⟨840⟩⟩,
    ⟨(.first, ⟨0, 30, 0, 0, by decide⟩), some .utc⟩, ?_⟩
  exact ⟨by rfl, by rfl, rfl, rfl, rfl, rfl, by decide, by rfl⟩

end Value

end Abac
