import Abac.Proofs.DurationGrammar

/-!
# The grammar of durations of days

What stands behind the `T` of a duration of days is read slot by slot, in order. Days are not taken
in order: nothing but days may stand in front of the `T`, but any number of them may, and the last
one counts (`RepeatedDays`). So more is read than the grammar `[-]P[nD][T[nH][nM][n[.f]S]]` has,
and nothing more than that.
-/

namespace Abac

namespace DayTimeDuration

open Temporal

/-! ## Days -/

/-- Any number of days, of which the last ones count. -/
inductive RepeatedDays : List Char → UInt64 → Prop
  | absent : RepeatedDays [] 0
  | again {s t : List Char} {m n : UInt64} (h : RepeatedDays s m) (hn : Writes t n) :
      RepeatedDays (s ++ (t ++ ['D'])) n

/-- Days at most once, as they are meant to be written. -/
abbrev SingleDays : List Char → UInt64 → Prop := Optional 'D' Writes 0

theorem RepeatedDays.mem {s : List Char} {n : UInt64} (h : RepeatedDays s n) :
    ∀ c ∈ s, c.isDigit = true ∨ c = 'D' := by
  induction h with
  | absent => exact List.forall_mem_nil _
  | again _ hn ih =>
      refine List.forall_mem_append.mpr ⟨ih, List.forall_mem_append.mpr ⟨fun c hc => ?_, by simp⟩⟩
      exact .inl ((Text.isNumeral_iff.mp hn.1).2 c hc)

theorem SingleDays.repeated {s : List Char} {n : UInt64} (h : SingleDays s n) :
    RepeatedDays s n := by
  cases h with
  | absent => exact .absent
  | present hn => exact .again .absent hn

theorem Writes.count_eq_zero {s : List Char} {n : UInt64} (h : Writes s n) {c : Char}
    (hc : c.isDigit = false) : s.count c = 0 :=
  List.count_eq_zero.mpr fun hmem =>
    absurd ((Text.isNumeral_iff.mp h.1).2 c hmem) (Bool.eq_false_iff.mp hc)

/-- Days that are not repeated are those with one `D`. -/
theorem singleDays_iff {s : List Char} {n : UInt64} :
    SingleDays s n ↔ RepeatedDays s n ∧ s.count 'D' ≤ 1 := by
  constructor
  · intro h
    refine ⟨h.repeated, ?_⟩
    cases h with
    | absent => simp
    | present hn => simp [Writes.count_eq_zero hn (by decide : Char.isDigit 'D' = false)]
  · rintro ⟨h, hcount⟩
    cases h with
    | absent => exact .absent
    | again h hn =>
        cases h with
        | absent => exact .present hn
        | again h _ =>
            simp only [List.count_append, List.count_singleton_self] at hcount
            omega

theorem readDatePart_days (d : DayTimeDuration) (x : List Char) (rest : List Component) :
    d.readDatePart (⟨x, 'D'⟩ :: rest) =
      wholeNumber x >>= fun n => readDatePart { d with days := n } rest := rfl

theorem readDatePart_append (d : DayTimeDuration) (cs cs' : List Component) :
    d.readDatePart (cs ++ cs') = d.readDatePart cs >>= fun d => d.readDatePart cs' := by
  induction cs generalizing d with
  | nil => rfl
  | cons c cs ih =>
      obtain ⟨x, y⟩ := c
      by_cases hy : y = 'D'
      · subst hy
        rw [List.cons_append, readDatePart_days, readDatePart_days]
        cases wholeNumber x with
        | error e => rfl
        | ok n => exact ih { d with days := n }
      · rw [List.cons_append, readDatePart, readDatePart, if_neg hy, if_neg hy]
        rfl

/-- What is read goes on behind days that have been read before. -/
theorem exists_days_of_readDatePart {cs : List Component} {d out : DayTimeDuration}
    {front back : List Char} (hd : RepeatedDays front d.days) (hback : components back = .ok cs)
    (h : d.readDatePart cs = .ok out) :
    ∃ n, RepeatedDays (front ++ back) n ∧ out = { d with days := n } := by
  induction cs generalizing d front back with
  | nil =>
      cases h
      obtain ⟨rfl, -⟩ := components_ok_iff.mp hback
      exact ⟨_, by simpa using hd, rfl⟩
  | cons c rest ih =>
      obtain ⟨x, y⟩ := c
      by_cases hy : y = 'D'
      · subst hy
        rw [readDatePart_days] at h
        obtain ⟨n, hn, h⟩ := Except.bind_eq_ok_iff.1 h
        obtain ⟨b, rfl, -, hb⟩ := components_cons_iff.mp hback
        -- the days before this component no longer count
        have hagain := hd.again (wholeNumber_ok_iff.mp hn)
        obtain ⟨m, hm, rfl⟩ := @ih { d with days := n } _ b hagain hb h
        exact ⟨m, by simpa [Component.text] using hm, rfl⟩
      · have hthrow : d.readDatePart (⟨x, y⟩ :: rest) = .error .unexpectedInDatePart := by
          rw [readDatePart, if_neg hy]
          rfl
        rw [hthrow] at h
        cases h

/-- **Days are read as the last ones of any number.** -/
theorem readDatePart_iff {d out : DayTimeDuration} (hd : d.days = 0) {s : List Char} :
    (∃ cs, components s = .ok cs ∧ d.readDatePart cs = .ok out) ↔
      ∃ n, RepeatedDays s n ∧ out = { d with days := n } := by
  constructor
  · rintro ⟨cs, hs, h⟩
    have hnone : RepeatedDays [] d.days := by rw [hd]; exact .absent
    exact exists_days_of_readDatePart hnone hs h
  · rintro ⟨n, h, rfl⟩
    induction h with
    | absent => exact ⟨[], rfl, by rw [← hd]; rfl⟩
    | @again s t m n _ hn ih =>
        obtain ⟨cs, hs, h⟩ := ih
        obtain ⟨hne, hnumber⟩ := hn.inNumber
        have hday : components (t ++ ['D']) = .ok [⟨t, 'D'⟩] :=
          components_cons_iff.mpr ⟨[], (List.append_nil _).symm, ⟨hne, hnumber, rfl⟩, rfl⟩
        refine ⟨cs ++ [⟨t, 'D'⟩], components_append_iff.mpr ⟨s, _, rfl, hs, hday⟩, ?_⟩
        rw [readDatePart_append, h]
        show readDatePart { d with days := m } [⟨t, 'D'⟩] = _
        rw [readDatePart_days, wholeNumber_ok_iff.mpr hn]
        rfl

/-! ## The part after the `T` -/

/-- A part after the `T`, in hours, minutes and seconds with nanoseconds. -/
inductive ClockText : List Char → UInt64 → UInt64 → UInt64 × Nat → Prop
  | absent : ClockText [] 0 0 (0, 0)
  | present {a b c : List Char} {h m : UInt64} {p : UInt64 × Nat} (hh : Optional 'H' Writes 0 a h)
      (hm : Optional 'M' Writes 0 b m) (hs : Optional 'S' SecondsNumber (0, 0) c p)
      (hne : a ++ (b ++ c) ≠ []) : ClockText ('T' :: (a ++ (b ++ c))) h m p

theorem timeRank?_eq_some_iff {x : Char} {r : Nat} : timeRank? x = some r ↔
    (x = 'H' ∧ r = 1) ∨ (x = 'M' ∧ r = 2) ∨ (x = 'S' ∧ r = 3) := by
  constructor
  · intro h
    unfold timeRank? at h
    split at h <;> cases h <;> simp
  · rintro (⟨rfl, rfl⟩ | ⟨rfl, rfl⟩ | ⟨rfl, rfl⟩) <;> rfl

theorem hourSlot : Slot timeRank? readTimeComponent 0 'H' wholeNumber Writes
    fun d n => { d with hours := n } where
  rank_iff x := by simp [timeRank?_eq_some_iff]
  isAlpha := by decide
  take_eq d x := by cases h : wholeNumber x <;> simp [readTimeComponent, h] <;> rfl
  parse_iff := wholeNumber_ok_iff
  inNumber := Writes.inNumber

theorem minuteSlot : Slot timeRank? readTimeComponent 1 'M' wholeNumber Writes
    fun d n => { d with minutes := n } where
  rank_iff x := by simp [timeRank?_eq_some_iff]
  isAlpha := by decide
  take_eq d x := by cases h : wholeNumber x <;> simp [readTimeComponent, h] <;> rfl
  parse_iff := wholeNumber_ok_iff
  inNumber := Writes.inNumber

theorem secondSlot : Slot timeRank? readTimeComponent 2 'S' secondsNumber SecondsNumber
    fun d p => { d with seconds := p.1, nanos := p.2 } where
  rank_iff x := by simp [timeRank?_eq_some_iff]
  isAlpha := by decide
  take_eq d x := by cases h : secondsNumber x <;> simp [readTimeComponent, h] <;> rfl
  parse_iff := secondsNumber_ok_iff
  inNumber := SecondsNumber.inNumber

theorem readTimePart_cons_iff {rank : Nat} {d out : DayTimeDuration} {c : Component}
    {rest : List Component} : readTimePart rank d (c :: rest) = .ok out ↔
      ∃ r d', timeRank? c.designator = some r ∧ rank < r ∧ readTimeComponent d c = .ok d' ∧
        readTimePart r d' rest = .ok out := by
  rw [readTimePart]
  cases timeRank? c.designator with
  | none => simp
  | some r =>
      by_cases hr : r ≤ rank
      · have hnot : ¬rank < r := Nat.not_lt.mpr hr
        simp [hr, hnot]
      · have hlt : rank < r := Nat.not_le.mp hr
        cases readTimeComponent d c <;> simp [hr, hlt]

/-- **Behind the `T`** stand the slots of hours, minutes and seconds. -/
theorem readTimePart_iff (negative : Bool) (days : UInt64) (out : DayTimeDuration)
    (s : List Char) :
    (∃ cs, components s = .ok cs ∧ readTimePart 0 ⟨negative, days, 0, 0, 0, 0⟩ cs = .ok out) ↔
      ∃ a b c h m p, s = a ++ (b ++ c) ∧ Optional 'H' Writes 0 a h ∧ Optional 'M' Writes 0 b m ∧
        Optional 'S' SecondsNumber (0, 0) c p ∧ out = ⟨negative, days, h, m, p.1, p.2⟩ := by
  have hread : ∀ cs, readTimePart 0 ⟨negative, days, 0, 0, 0, 0⟩ cs = .ok out ↔
      InOrder timeRank? readTimeComponent 0 ⟨negative, days, 0, 0, 0, 0⟩ cs out := fun cs =>
    inOrder_iff_of_read (fun _ _ => rfl) (fun _ _ _ _ _ => readTimePart_cons_iff)
  have hlast : ∀ x r, timeRank? x = some r → r ≤ 3 := fun x r h => by
    rcases timeRank?_eq_some_iff.mp h with ⟨-, rfl⟩ | ⟨-, rfl⟩ | ⟨-, rfl⟩ <;> decide
  simp only [hread]
  constructor
  · intro h
    obtain ⟨a, t, hours, rfl, ha, h⟩ := (hourSlot.inOrder_iff 0 rfl).mp h
    obtain ⟨b, t, minutes, rfl, hb, h⟩ := (minuteSlot.inOrder_iff 0 rfl).mp h
    obtain ⟨c, t, p, rfl, hc, h⟩ := (secondSlot.inOrder_iff (0, 0) rfl).mp h
    obtain ⟨rfl, rfl⟩ := (inOrder_last_iff hlast).mp h
    exact ⟨a, b, c, hours, minutes, p, by rw [List.append_nil], ha, hb, hc, rfl⟩
  · rintro ⟨a, b, c, hours, minutes, p, rfl, ha, hb, hc, rfl⟩
    refine (hourSlot.inOrder_iff 0 rfl).mpr ⟨a, b ++ c, hours, rfl, ha, ?_⟩
    refine (minuteSlot.inOrder_iff 0 rfl).mpr ⟨b, c, minutes, rfl, hb, ?_⟩
    refine (secondSlot.inOrder_iff (0, 0) rfl).mpr
      ⟨c, [], p, (List.append_nil c).symm, hc, ?_⟩
    exact (inOrder_last_iff hlast).mpr ⟨rfl, rfl⟩

/-! ## The whole text -/

/-- A duration of nothing loses its sign. -/
def settled (d : DayTimeDuration) : DayTimeDuration :=
  if d.isZero then { d with negative := false } else d

/-- The text of a part behind the `T`, if there is one. -/
def afterT : Option (List Char) → List Char
  | none => []
  | some s => 'T' :: s

/-- What is read is given if anything has been read. -/
theorem settled_of_components (ds cs : List Component) (d : DayTimeDuration) :
    (if ds.isEmpty && cs.isEmpty then
      (throw .noComponents >>= fun _ : PUnit => pure d.settled : Except DurationError _)
    else pure d.settled) = if ds = [] ∧ cs = [] then .error .noComponents else .ok d.settled := by
  cases ds <;> cases cs <;> rfl

/-- What is read of a text when it has been cut. -/
theorem read_parts {sign : Bool} {a : List Char} (hT : 'T' ∉ a) (t : Option (List Char)) :
    read (minus sign ++ 'P' :: (a ++ afterT t)) =
      (if t = some [] then .error .emptyTimePart
      else
        components a >>= fun ds => readDatePart ⟨sign, 0, 0, 0, 0, 0⟩ ds >>= fun d =>
        timeComponents t >>= fun cs => readTimePart 0 d cs >>= fun d =>
        if ds = [] ∧ cs = [] then .error .noComponents else .ok d.settled) := by
  cases t with
  | none =>
      have hcut : Text.cutFirst 'T' (a ++ afterT none) = none := by
        rw [Text.cutFirst_eq_none_iff]
        simpa [afterT] using hT
      unfold read
      simp only [splitMinus_minus, Text.dropHead?, if_true, hcut, reduceCtorEq, if_false]
      rw [afterT, List.append_nil]
      exact bind_congr fun ds => bind_congr fun d => bind_congr fun cs => bind_congr fun d =>
        settled_of_components ds cs d
  | some b =>
      have hcut : Text.cutFirst 'T' (a ++ afterT (some b)) = some (a, b) :=
        Text.cutFirst_append b hT
      unfold read
      simp only [splitMinus_minus, Text.dropHead?, if_true, hcut]
      by_cases hb : some b = some []
      · rw [if_pos hb, if_pos hb]
        rfl
      · rw [if_neg hb, if_neg hb]
        exact bind_congr fun ds => bind_congr fun d => bind_congr fun cs => bind_congr fun d =>
          settled_of_components ds cs d

theorem eq_settled_iff {sign : Bool} {days hours minutes seconds : UInt64} {nanos : Nat}
    {v : DayTimeDuration} : v = settled ⟨sign, days, hours, minutes, seconds, nanos⟩ ↔
      v.days = days ∧ v.hours = hours ∧ v.minutes = minutes ∧ v.seconds = seconds ∧
        v.nanos = nanos ∧ (v.negative = true ↔ sign = true ∧ v.isZero = false) := by
  have hsettled : settled ⟨sign, days, hours, minutes, seconds, nanos⟩ =
      ⟨sign && !isZero ⟨sign, days, hours, minutes, seconds, nanos⟩, days, hours, minutes, seconds,
        nanos⟩ := by
    unfold settled
    cases isZero ⟨sign, days, hours, minutes, seconds, nanos⟩ <;> simp
  rw [hsettled]
  constructor
  · rintro rfl
    refine ⟨rfl, rfl, rfl, rfl, rfl, ?_⟩
    rw [Bool.and_eq_true, Bool.not_eq_true']
    exact Iff.rfl
  · rintro ⟨rfl, rfl, rfl, rfl, rfl, hneg⟩
    obtain ⟨negative, days, hours, minutes, seconds, nanos⟩ := v
    have hsign : negative = (sign && !isZero ⟨sign, days, hours, minutes, seconds, nanos⟩) := by
      rw [Bool.eq_iff_iff, Bool.and_eq_true, Bool.not_eq_true']
      exact hneg
    rw [hsign]

/-- What is read has a start. -/
theorem exists_body_of_read {s : List Char} {v : DayTimeDuration} (h : read s = .ok v) :
    ∃ sign body, s = minus sign ++ 'P' :: body := by
  cases hbody : Text.dropHead? 'P' (splitMinus s).2 with
  | none => simp [read, hbody, throw, throwThe, MonadExceptOf.throw] at h
  | some body => exact ⟨_, body, eq_of_splitMinus rfl hbody⟩

/-- A text has a front without a `T`. -/
theorem exists_parts (body : List Char) : ∃ a t, body = a ++ afterT t ∧ 'T' ∉ a := by
  cases hcut : Text.cutFirst 'T' body with
  | none => exact ⟨body, none, (List.append_nil body).symm, Text.cutFirst_eq_none_iff.mp hcut⟩
  | some p =>
      obtain ⟨hbody, hT⟩ := Text.cutFirst_eq_some hcut
      exact ⟨p.1, some p.2, hbody, hT⟩

theorem clockText_iff {t : Option (List Char)} {negative : Bool} {days : UInt64}
    {out : DayTimeDuration} :
    (t ≠ some [] ∧ ∃ cs, timeComponents t = .ok cs ∧
      readTimePart 0 ⟨negative, days, 0, 0, 0, 0⟩ cs = .ok out) ↔
      ∃ h m p, ClockText (afterT t) h m p ∧ out = ⟨negative, days, h, m, p.1, p.2⟩ := by
  cases t with
  | none =>
      constructor
      · rintro ⟨-, cs, hcs, h⟩
        cases hcs
        cases h
        exact ⟨0, 0, (0, 0), .absent, rfl⟩
      · rintro ⟨h, m, p, hclock, rfl⟩
        cases hclock
        exact ⟨nofun, [], rfl, rfl⟩
  | some b =>
      have hread := readTimePart_iff negative days out b
      constructor
      · rintro ⟨hne, hb⟩
        obtain ⟨x, y, z, h, m, p, rfl, hh, hm, hs, rfl⟩ := hread.mp hb
        exact ⟨h, m, p, .present hh hm hs fun hnil => hne (by rw [hnil]), rfl⟩
      · rintro ⟨h, m, p, hclock, rfl⟩
        cases hclock with
        | present hh hm hs hne =>
            exact ⟨by simpa using hne, hread.mpr ⟨_, _, _, h, m, p, rfl, hh, hm, hs, rfl⟩⟩

/-- **A duration and how it is written**: a sign, the start, days as `Days` has them, and the part
behind the `T`, one of which at least is there. The duration is negative if there is a sign and it
is not nothing. -/
inductive Written (Days : List Char → UInt64 → Prop) : List Char → DayTimeDuration → Prop
  | mk {sign : Bool} {a b : List Char} {v : DayTimeDuration} (hdays : Days a v.days)
      (hclock : ClockText b v.hours v.minutes (v.seconds, v.nanos)) (hne : a ++ b ≠ [])
      (hneg : v.negative = true ↔ sign = true ∧ v.isZero = false) :
      Written Days (minus sign ++ 'P' :: (a ++ b)) v

theorem RepeatedDays.no_T {s : List Char} {n : UInt64} (h : RepeatedDays s n) : 'T' ∉ s := by
  intro hT
  rcases h.mem _ hT with hdigit | heq
  · exact absurd hdigit (by decide)
  · exact absurd heq (by decide)

theorem timeComponents_nil_iff {t : Option (List Char)} {cs : List Component} (ht : t ≠ some [])
    (h : timeComponents t = .ok cs) : cs = [] ↔ afterT t = [] := by
  cases t with
  | none =>
      cases h
      exact ⟨fun _ => rfl, fun _ => rfl⟩
  | some b =>
      have hb : b ≠ [] := fun hnil => ht (by rw [hnil])
      rw [components_nil_iff h]
      simp [afterT, hb]

theorem ClockText.exists_afterT {b : List Char} {h m : UInt64} {p : UInt64 × Nat}
    (hclock : ClockText b h m p) : ∃ t, b = afterT t := by
  cases hclock with
  | absent => exact ⟨none, rfl⟩
  | present => exact ⟨some _, rfl⟩

/-- **What is read**, with days as they are read. -/
theorem read_iff {s : List Char} {v : DayTimeDuration} :
    read s = .ok v ↔ Written RepeatedDays s v := by
  constructor
  · intro h
    obtain ⟨sign, body, rfl⟩ := exists_body_of_read h
    obtain ⟨a, t, rfl, hT⟩ := exists_parts body
    rw [read_parts hT] at h
    by_cases ht : t = some []
    · rw [if_pos ht] at h
      cases h
    · rw [if_neg ht] at h
      obtain ⟨ds, hds, h⟩ := Except.bind_eq_ok_iff.1 h
      obtain ⟨d, hd, h⟩ := Except.bind_eq_ok_iff.1 h
      obtain ⟨cs, hcs, h⟩ := Except.bind_eq_ok_iff.1 h
      obtain ⟨out, hout, h⟩ := Except.bind_eq_ok_iff.1 h
      obtain ⟨days, hdays, rfl⟩ := (readDatePart_iff rfl).mp ⟨ds, hds, hd⟩
      obtain ⟨hours, minutes, p, hclock, rfl⟩ := clockText_iff.mp ⟨ht, cs, hcs, hout⟩
      by_cases hempty : ds = [] ∧ cs = []
      · rw [if_pos hempty] at h
        cases h
      · rw [if_neg hempty] at h
        obtain ⟨rfl, rfl, rfl, hseconds, hnanos, hneg⟩ := eq_settled_iff.mp (Except.ok.inj h).symm
        obtain rfl : p = (v.seconds, v.nanos) := Prod.ext hseconds.symm hnanos.symm
        refine .mk hdays hclock (fun hnil => hempty ?_) hneg
        obtain ⟨ha, hb⟩ := List.append_eq_nil_iff.mp hnil
        exact ⟨(components_nil_iff hds).mpr ha, (timeComponents_nil_iff ht hcs).mpr hb⟩
  · intro h
    cases h with
    | @mk sign a b v hdays hclock hne hneg =>
        obtain ⟨t, rfl⟩ := hclock.exists_afterT
        obtain ⟨ds, hds, hd⟩ : ∃ ds, components a = .ok ds ∧
            readDatePart ⟨sign, 0, 0, 0, 0, 0⟩ ds = .ok ⟨sign, v.days, 0, 0, 0, 0⟩ :=
          (readDatePart_iff rfl).mpr ⟨v.days, hdays, rfl⟩
        obtain ⟨ht, cs, hcs, hout⟩ := clockText_iff.mpr ⟨_, _, _, hclock, rfl⟩
        have hempty : ¬(ds = [] ∧ cs = []) := by
          rwa [components_nil_iff hds, timeComponents_nil_iff ht hcs, ← List.append_eq_nil_iff]
        rw [read_parts hdays.no_T, if_neg ht, hds]
        refine Except.bind_eq_ok_iff.2 ⟨ds, rfl, ?_⟩
        refine Except.bind_eq_ok_iff.2 ⟨_, hd, ?_⟩
        refine Except.bind_eq_ok_iff.2 ⟨cs, hcs, ?_⟩
        refine Except.bind_eq_ok_iff.2 ⟨_, hout, ?_⟩
        rw [if_neg hempty, ← eq_settled_iff.mpr ⟨rfl, rfl, rfl, rfl, rfl, hneg⟩]

/-! ## Days at most once -/

theorem ClockText.no_D {b : List Char} {h m : UInt64} {p : UInt64 × Nat}
    (hclock : ClockText b h m p) : 'D' ∉ b := by
  have hD : ¬InNumber 'D' := by simp [InNumber]
  cases hclock with
  | absent => exact List.not_mem_nil
  | present hh hm hs _ =>
      have hh' : 'D' ∉ _ := fun hmem => (hh.mem Writes.inNumber _ hmem).elim hD (by decide)
      have hm' : 'D' ∉ _ := fun hmem => (hm.mem Writes.inNumber _ hmem).elim hD (by decide)
      have hs' : 'D' ∉ _ := fun hmem => (hs.mem SecondsNumber.inNumber _ hmem).elim hD (by decide)
      simp [hh', hm', hs']

/-- Behind the days no `D` is written. -/
theorem count_days {sign : Bool} {a b : List Char} {h m : UInt64} {p : UInt64 × Nat}
    (hclock : ClockText b h m p) : (minus sign ++ 'P' :: (a ++ b)).count 'D' = a.count 'D' := by
  have hminus : (minus sign).count 'D' = 0 := by cases sign <;> rfl
  have hb : b.count 'D' = 0 := List.count_eq_zero.mpr hclock.no_D
  simp [List.count_append, hminus, hb]

theorem written_singleDays_iff {s : List Char} {v : DayTimeDuration} :
    Written SingleDays s v ↔ Written RepeatedDays s v ∧ s.count 'D' ≤ 1 := by
  constructor
  · intro h
    cases h with
    | mk hdays hclock hne hneg =>
        rw [count_days hclock]
        exact ⟨.mk hdays.repeated hclock hne hneg, (singleDays_iff.mp hdays).2⟩
  · rintro ⟨h, hcount⟩
    cases h with
    | mk hdays hclock hne hneg =>
        rw [count_days hclock] at hcount
        exact .mk (singleDays_iff.mpr ⟨hdays, hcount⟩) hclock hne hneg

/-- **The texts that are read as durations of days** are those of the grammar
`[-]P[nD][T[nH][nM][n[.f]S]]` and, besides them, those that give days more than once; of these the
last ones are read. Every component is what is written for it, and nothing is zero. -/
theorem read_grammar (s : List Char) (v : DayTimeDuration) :
    (read s = .ok v ↔ Written RepeatedDays s v) ∧
      (Written SingleDays s v ↔ read s = .ok v ∧ s.count 'D' ≤ 1) := by
  have hread := @read_iff s v
  exact ⟨hread, by rw [hread, written_singleDays_iff]⟩

/-- A day and two days are two days, though days are to be given once. -/
theorem repeated_days_accepted :
    read "P1D2D".toList = .ok ⟨false, 2, 0, 0, 0, 0⟩ ∧ ∀ v, ¬Written SingleDays "P1D2D".toList v :=
  ⟨by rfl, fun _ h => absurd (written_singleDays_iff.mp h).2 (by decide)⟩

end DayTimeDuration

end Abac
