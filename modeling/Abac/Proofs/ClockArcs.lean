import Abac.Proofs.Instants

/-!
# Ranges of the clock

A range of times of day is an arc of the clock: it goes from its lower bound forward to its upper
bound, past midnight if the clock strikes it on the way. The code does not reckon on the clock. It
puts the three times on one fixed day, moves each of them by its own offset, and asks how the
moments that come out (`Time.moment`) are ordered on a line. If the upper bound is earlier than the
lower one, everything from the one and everything up to the other is in the range
(`Time.LiesBetween`).

Both views are about the order of three points, once around the clock and once along the line, and
they agree if the points are less than a day apart (`Time.liesBetween_iff_forward_le`). Times
without a zone are, and so are times of one zone and times that stay on the fixed day when they are
moved to universal time.

Other times need not be. Half past midnight one hour east of the meridian falls on the day before,
where a range that ends then looks as if it went around the whole clock
(`Time.inRange_around_the_clock`).
-/

namespace Abac

/-- The number of nanoseconds of a day. -/
def nanosPerDay : Int := 86400 * nanosPerSecond

namespace Time

/-! ## Moments of the fixed day -/

/-- A time of day on the fixed day. -/
def onEpoch (t : Time) : DateTime := ⟨(.epoch, t.wall), t.offset⟩

/-- The nanoseconds from the start of the fixed day to a time of day, both by universal time if the
time has a zone. The zone can move it to the day before or to the day after. -/
def moment (t : Time) : Int :=
  (t.wall.secondOfDay - t.onEpoch.ahead) * nanosPerSecond + t.wall.nanos

/-- What a clock shows at a time of day, by universal time if the time has a zone: the nanoseconds
since midnight. -/
def clock (t : Time) : Int := t.moment % nanosPerDay

/-- How far a clock goes forward from one time of day to another. -/
def forward (a b : Time) : Int := (b.clock - a.clock) % nanosPerDay

/-- Two moments are less than a day apart. -/
def Near (a b : Time) : Prop :=
  a.moment - b.moment < nanosPerDay ∧ b.moment - a.moment < nanosPerDay

/-- The moment of a time of day is on the fixed day. -/
def StaysOnDay (t : Time) : Prop := 0 ≤ t.moment ∧ t.moment < nanosPerDay

instance (t : Time) : Decidable t.StaysOnDay := inferInstanceAs (Decidable (_ ∧ _))

/-- A time of day lies between two others on the line of moments, or outside of them if the upper
one is earlier than the lower one. -/
def LiesBetween (t lower upper : Time) : Prop :=
  if lower.moment ≤ upper.moment then lower.moment ≤ t.moment ∧ t.moment ≤ upper.moment
  else lower.moment ≤ t.moment ∨ t.moment ≤ upper.moment

instance (t lower upper : Time) : Decidable (t.LiesBetween lower upper) := by
  unfold LiesBetween
  infer_instance

variable {a b t lower upper : Time}

/-- The exact instant of a time of day is its moment, counted from the fixed day. -/
theorem exact_onEpoch (t : Time) :
    t.onEpoch.exact = CivilDate.epoch.number * nanosPerDay + t.moment := by
  have hsecond : t.onEpoch.exactSecond =
      CivilDate.epoch.number * 86400 + (t.wall.secondOfDay - t.onEpoch.ahead) := by
    show CivilDate.epoch.number * 86400 + t.wall.secondOfDay - t.onEpoch.ahead = _
    omega
  have hnanos : t.onEpoch.wall.2.nanos = t.wall.nanos := rfl
  unfold DateTime.exact moment nanosPerDay nanosPerSecond
  rw [hsecond, hnanos]
  omega

/-- How far it is forward depends on the moments only through their difference. -/
theorem forward_eq (a b : Time) : a.forward b = (b.moment - a.moment) % nanosPerDay :=
  (Int.sub_emod b.moment a.moment nanosPerDay).symm

/-- **Along the line and around the clock the order is the same** for three moments less than a day
apart. -/
theorem liesBetween_iff_forward_le (htl : t.Near lower) (htu : t.Near upper)
    (hlu : lower.Near upper) :
    t.LiesBetween lower upper ↔ lower.forward t ≤ lower.forward upper := by
  unfold Near at htl htu hlu
  unfold LiesBetween
  rw [forward_eq, forward_eq]
  unfold nanosPerDay nanosPerSecond at *
  by_cases h : lower.moment ≤ upper.moment
  · -- the upper bound is ahead on the line, and what is behind the lower one is a day ahead of it
    rw [if_pos h]
    omega
  · -- the way forward to the upper bound leads past midnight
    rw [if_neg h]
    omega

/-- Times of day that are moved alike stay less than a day apart. -/
theorem near_of_offset_eq (h : a.offset = b.offset) (ha : a.wall.isLeapSecond = false)
    (hb : b.wall.isLeapSecond = false) : a.Near b := by
  have hahead : a.onEpoch.ahead = b.onEpoch.ahead := by
    simp only [DateTime.ahead, onEpoch, h]
  have hs := a.wall.secondOfDay_lt
  have hs' := b.wall.secondOfDay_lt
  have hn := ClockTime.isLeapSecond_iff.not.mp (Bool.eq_false_iff.mp ha)
  have hn' := ClockTime.isLeapSecond_iff.not.mp (Bool.eq_false_iff.mp hb)
  unfold Near moment nanosPerDay
  unfold nanosPerSecond at *
  omega

theorem near_of_staysOnDay (ha : a.StaysOnDay) (hb : b.StaysOnDay) : a.Near b := by
  unfold StaysOnDay at ha hb
  unfold Near
  omega

/-! ## The order that is asked for -/

/-- A time of day as it is read, outside leap seconds. -/
structure IsRegular (t : Time) : Prop where
  /-- The offset is one that a zone can denote. -/
  inRange : ∀ o, t.offset = some o → o.InRange
  /-- The time lies in no leap second. -/
  noLeap : t.wall.isLeapSecond = false

theorem regular_of_read {s : String} (h : Value.read .time s = .ok (.time t))
    (hleap : t.wall.isLeapSecond = false) : t.IsRegular where
  inRange := by
    obtain ⟨-, d, hd, hrange, -, -⟩ := Value.localTime?_of_read (.inr (.inl rfl)) h
    obtain rfl := Option.some.inj hd
    exact hrange
  noLeap := hleap

/-- **Times of day are ordered by their moments**, if both have a zone or neither has. -/
theorem compare_of_regular (ha : a.IsRegular) (hb : b.IsRegular)
    (hz : a.offset.isSome = b.offset.isSome) :
    (Value.time a).compare (.time b) = .ok (compare a.moment b.moment) := by
  obtain ⟨har, hae⟩ := DateTime.nanoseconds_instant (a := a.onEpoch) ha.noLeap
  obtain ⟨hbr, hbe⟩ := DateTime.nanoseconds_instant (a := b.onEpoch) hb.noLeap
  have hac : a.onEpoch.InCalendar := DateTime.inCalendar_of_epoch ha.inRange rfl
  have hbc : b.onEpoch.InCalendar := DateTime.inCalendar_of_epoch hb.inRange rfl
  have hcmp : (Value.time a).compare (.time b) =
      .ok ((Temporal.instant (DateTime.point a.onEpoch)).cmp
        (Temporal.instant (DateTime.point b.onEpoch))) :=
    (Value.ofZoned_cmpZoned _ _).trans (if_pos hz)
  rw [hcmp, har.cmp_eq hbr, hae, hbe, DateTime.reckoned_of_inCalendar hac,
    DateTime.reckoned_of_inCalendar hbc, exact_onEpoch, exact_onEpoch]
  -- both instants are counted from the same day
  refine congrArg Except.ok (compare_eq_of (fun h => ?_) (fun h => ?_) fun h => ?_)
  · exact compare_lt_iff_lt.mpr (by omega)
  · exact compare_eq_iff_eq.mpr (by omega)
  · exact compare_gt_iff_gt.mpr (by omega)

end Time

/-! ## The function -/

namespace StandardFunction

variable {env : Surroundings} {t lower upper : Value} {x y z : Ordering}

/-- What the function of three times makes of the order in which they compare. -/
theorem apply_timeInRange (ht : t.dataType = .time) (hl : lower.dataType = .time)
    (hu : upper.dataType = .time) (htl : t.compare lower = .ok x) (htu : t.compare upper = .ok y)
    (hlu : lower.compare upper = .ok z) :
    (Function.standard .timeInRange).apply [.value t, .value lower, .value upper] env =
      .ok (.bool (if z == .gt then x != .lt || y != .gt else x != .lt && y != .gt)) := by
  have hf : timeInRange.IsFirstOrder := fun _ h => nomatch h
  have hn : checkArity timeInRange.id timeInRange.arity
      [.value t, .value lower, .value upper] = .ok () := checkArity_eq_ok_iff.mpr rfl
  have h0 : valueAt timeInRange.id [.value t, .value lower, .value upper] 0 .time = .ok t :=
    takeValue_eq_ok_iff.mpr ⟨rfl, ht⟩
  have h1 : valueAt timeInRange.id [.value t, .value lower, .value upper] 1 .time = .ok lower :=
    takeValue_eq_ok_iff.mpr ⟨rfl, hl⟩
  have h2 : valueAt timeInRange.id [.value t, .value lower, .value upper] 2 .time = .ok upper :=
    takeValue_eq_ok_iff.mpr ⟨rfl, hu⟩
  rw [apply_eq_of_isFirstOrder hf, hn]
  simp only [applyFirstOrder, applyTimeInRange, h0, h1, h2, htl, htu, hlu, compared, bind,
    Except.bind, pure, Except.pure]

end StandardFunction

namespace Time

/-- The call of the function that asks whether a time of day is in a range. -/
def inRange (env : Surroundings) (t lower upper : Time) : Except Halt Outcome :=
  (Function.standard .timeInRange).apply [.value (.time t), .value (.time lower),
    .value (.time upper)] env

variable (env : Surroundings) {t lower upper : Time}

/-- The function asks whether the moment lies between two others. -/
theorem inRange_of_regular (ht : t.IsRegular) (hl : lower.IsRegular) (hu : upper.IsRegular)
    (htl : t.offset.isSome = lower.offset.isSome)
    (hlu : lower.offset.isSome = upper.offset.isSome) :
    t.inRange env lower upper = .ok (.bool (decide (t.LiesBetween lower upper))) := by
  rw [inRange, StandardFunction.apply_timeInRange rfl rfl rfl (compare_of_regular ht hl htl)
    (compare_of_regular ht hu (htl.trans hlu)) (compare_of_regular hl hu hlu)]
  refine congrArg (fun b => Except.ok (Outcome.bool b)) (Bool.eq_iff_iff.mpr ?_)
  have hgt : (compare lower.moment upper.moment == .gt) = true ↔ upper.moment < lower.moment := by
    rw [beq_iff_eq, compare_gt_iff_gt]
  have hfrom : (compare t.moment lower.moment != .lt) = true ↔ lower.moment ≤ t.moment := by
    rw [bne_iff_ne, ne_eq, compare_lt_iff_lt, Int.not_lt]
  have hupTo : (compare t.moment upper.moment != .gt) = true ↔ t.moment ≤ upper.moment := by
    rw [bne_iff_ne, ne_eq, compare_gt_iff_gt, Int.not_lt]
  rw [decide_eq_true_iff]
  unfold LiesBetween
  by_cases h : lower.moment ≤ upper.moment
  · rw [if_pos h, if_neg (hgt.not.mpr (Int.not_lt.mpr h)), Bool.and_eq_true, hfrom, hupTo]
  · rw [if_neg h, if_pos (hgt.mpr (Int.not_le.mp h)), Bool.or_eq_true, hfrom, hupTo]

/-- **A range of times of day is an arc of the clock** as long as the three moments lie less than a
day apart: a time is in the range if the clock, going forward from the lower bound, comes to it no
later than to the upper one. Three times of one zone or without a zone lie so, and three times that
universal time leaves on the fixed day. In general the moments are ordered on a line, and a time is
in the range if its moment lies between the other two, or outside of them if the upper bound is the
earlier one. -/
theorem inRange_arc {s s' s'' : String} (ht : Value.read .time s = .ok (.time t))
    (hl : Value.read .time s' = .ok (.time lower)) (hu : Value.read .time s'' = .ok (.time upper))
    (htl : t.offset.isSome = lower.offset.isSome) (hlu : lower.offset.isSome = upper.offset.isSome)
    (hleap : ∀ a ∈ [t, lower, upper], a.wall.isLeapSecond = false) :
    t.inRange env lower upper = .ok (.bool (decide (t.LiesBetween lower upper))) ∧
      (t.Near lower → t.Near upper → lower.Near upper →
        t.inRange env lower upper = .ok (.bool (decide (lower.forward t ≤ lower.forward upper)))) ∧
      (t.offset = lower.offset → lower.offset = upper.offset →
        t.Near lower ∧ t.Near upper ∧ lower.Near upper) ∧
      (t.StaysOnDay → lower.StaysOnDay → upper.StaysOnDay →
        t.Near lower ∧ t.Near upper ∧ lower.Near upper) := by
  obtain ⟨ht', hl', hu', -⟩ : _ ∧ _ ∧ _ ∧ True := by simpa using hleap
  have hline := inRange_of_regular env (regular_of_read ht ht') (regular_of_read hl hl')
    (regular_of_read hu hu') htl hlu
  refine ⟨hline, fun htl htu hlu => ?_, fun htl hlu => ?_, fun htd hld hud => ?_⟩
  · rw [hline]
    simp only [liesBetween_iff_forward_le htl htu hlu]
  · exact ⟨near_of_offset_eq htl ht' hl', near_of_offset_eq (htl.trans hlu) ht' hu',
      near_of_offset_eq hlu hl' hu'⟩
  · exact ⟨near_of_staysOnDay htd hld, near_of_staysOnDay htd hud, near_of_staysOnDay hld hud⟩

/-- Half past midnight one hour east of the meridian is between eleven in the evening two hours east
and six in the morning by universal time. -/
theorem inRange_arc_past_midnight :
    ∃ t lower upper : Time, Value.read .time "00:30:00+01:00" = .ok (.time t) ∧
      Value.read .time "23:00:00+02:00" = .ok (.time lower) ∧
      Value.read .time "06:00:00Z" = .ok (.time upper) ∧
      lower.forward t ≤ lower.forward upper ∧ t.inRange .bare lower upper = .ok (.bool true) := by
  let t : Time := ⟨⟨0, 30, 0, 0, by decide⟩, some ⟨60⟩⟩
  let lower : Time := ⟨⟨23, 0, 0, 0, by decide⟩, some ⟨120⟩⟩
  let upper : Time := ⟨⟨6, 0, 0, 0, by decide⟩, some .utc⟩
  have ht : Value.read .time "00:30:00+01:00" = .ok (.time t) := by rfl
  have hl : Value.read .time "23:00:00+02:00" = .ok (.time lower) := by rfl
  have hu : Value.read .time "06:00:00Z" = .ok (.time upper) := by rfl
  have hforward : lower.forward t ≤ lower.forward upper := by decide
  obtain ⟨-, harc, -, -⟩ := inRange_arc .bare ht hl hu rfl rfl (by decide)
  have hcall := harc ⟨by decide, by decide⟩ ⟨by decide, by decide⟩ ⟨by decide, by decide⟩
  rw [decide_eq_true hforward] at hcall
  exact ⟨t, lower, upper, ht, hl, hu, hforward, hcall⟩

/-- A quarter to midnight is not between ten in the evening and half past eleven. It is said to be
if half past eleven is written as half past midnight one hour east of the meridian, which falls on
the day before. -/
theorem inRange_around_the_clock :
    ∃ t lower upper upper' : Time, Value.read .time "23:45:00Z" = .ok (.time t) ∧
      Value.read .time "22:00:00Z" = .ok (.time lower) ∧
      Value.read .time "00:30:00+01:00" = .ok (.time upper) ∧
      Value.read .time "23:30:00Z" = .ok (.time upper') ∧ upper.clock = upper'.clock ∧
      lower.forward upper < lower.forward t ∧ t.inRange .bare lower upper = .ok (.bool true) ∧
      t.inRange .bare lower upper' = .ok (.bool false) :=
  ⟨⟨⟨23, 45, 0, 0, by decide⟩, some .utc⟩, ⟨⟨22, 0, 0, 0, by decide⟩, some .utc⟩,
    ⟨⟨0, 30, 0, 0, by decide⟩, some ⟨60⟩⟩, ⟨⟨23, 30, 0, 0, by decide⟩, some .utc⟩,
    by rfl, by rfl, by rfl, by rfl, by decide, by decide, by rfl, by rfl⟩

end Time

end Abac
