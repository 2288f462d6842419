import Mathlib.Data.List.TakeWhile
import Abac.Temporal.Field
import Abac.Proofs.Numerals

/-!
# What the readers make of a printed date and a printed time of day

The printer writes every field in a fixed shape and the reader takes the fields one by one from the
left, so each field has one lemma that says what it takes off the front of a printed text and what
it leaves. Two fields do not take what was printed.

* A year above 9999 is printed without a sign, and four digits are all that is read of it. The fifth
  stands where the hyphen is expected.
* The fraction of a leap second is printed with ten digits, since its nanoseconds count from the
  start of second 59. Nine are read, and what they denote is less than a second.
-/

namespace Abac

/-! ## What a date and a time of day carry -/

theorem daysInMonth_le (y : Int) (m : Nat) : daysInMonth y m ≤ 31 := by
  unfold daysInMonth
  split_ifs <;> omega

theorem CivilDate.bounds (d : CivilDate) :
    firstYear ≤ d.year ∧ d.year ≤ lastYear ∧ (1 ≤ d.month ∧ d.month ≤ 12) ∧
      1 ≤ d.day ∧ d.day ≤ 31 := by
  have h := d.valid
  simp only [isDate, Bool.and_eq_true, decide_eq_true_eq] at h
  obtain ⟨⟨⟨⟨⟨hlow, hhigh⟩, hm⟩, hm'⟩, hd⟩, hd'⟩ := h
  exact ⟨hlow, hhigh, ⟨hm, hm'⟩, hd, Nat.le_trans hd' (daysInMonth_le _ _)⟩

theorem ClockTime.bounds (t : ClockTime) :
    t.hour ≤ 23 ∧ t.minute ≤ 59 ∧ t.second ≤ 59 ∧ t.nanos < 2 * nanosPerSecond := by
  have h := t.valid
  simp only [isClockTime, Bool.and_eq_true, decide_eq_true_eq] at h
  omega

namespace ClockTime

theorem isLeapSecond_iff {t : ClockTime} : t.isLeapSecond = true ↔ nanosPerSecond ≤ t.nanos :=
  decide_eq_true_iff

/-- The nanoseconds that the text of a time of day denotes: in a leap second the last of the ten
digits does not count. -/
def shownNanos (t : ClockTime) : Nat := if t.isLeapSecond then t.nanos / 10 else t.nanos

theorem shownNanos_lt (t : ClockTime) : t.shownNanos < nanosPerSecond := by
  have hn : t.nanos < 2 * nanosPerSecond := t.bounds.2.2.2
  simp only [shownNanos, isLeapSecond_iff, nanosPerSecond] at hn ⊢
  split <;> omega

/-- The time of day that the text of a time of day denotes. -/
def shown (t : ClockTime) : ClockTime where
  hour := t.hour
  minute := t.minute
  second := t.second
  nanos := t.shownNanos
  valid := by
    have h := t.valid
    have := t.shownNanos_lt
    simp only [isClockTime, Bool.and_eq_true, Bool.or_eq_true, decide_eq_true_eq] at h ⊢
    omega

/-- Only a leap second is not what its text denotes. -/
theorem shown_eq_self_iff {t : ClockTime} : t.shown = t ↔ t.isLeapSecond = false := by
  constructor
  · intro h
    have hn : t.shownNanos < nanosPerSecond := t.shownNanos_lt
    rw [show t.shownNanos = t.nanos from congrArg ClockTime.nanos h] at hn
    exact Bool.eq_false_iff.2 (isLeapSecond_iff.not.2 (Nat.not_le.2 hn))
  · intro h
    simp [shown, shownNanos, h]

end ClockTime

/-- Whether a year has more than the four digits that are read without a sign. -/
def CivilDate.hasLongYear (d : CivilDate) : Bool := 9999 < d.year

namespace Temporal

open Text

/-! ## Single fields -/

theorem trimLeft_of_isDigit {c : Char} (h : c.isDigit = true) (r : List Char) :
    trimLeft (c :: r) = c :: r := by
  have hblank : isBlank c = false := by
    rw [Char.isDigit_iff_toNat] at h
    have h9 : '9'.toNat = 57 := rfl
    have h0 : '0'.toNat = 48 := rfl
    simp only [isBlank, Bool.or_eq_false_iff, Bool.and_eq_false_iff, beq_eq_false_iff_ne,
      decide_eq_false_iff_not]
    omega
  simp [trimLeft, hblank]

theorem trimLeft_paddedDigits (width n : Nat) (rest : List Char) :
    trimLeft (paddedDigits width n ++ rest) = paddedDigits width n ++ rest := by
  obtain ⟨c, r, h⟩ := List.exists_cons_of_ne_nil (paddedDigits_ne_nil width n)
  rw [h, List.cons_append]
  exact trimLeft_of_isDigit (isDigit_of_mem_paddedDigits (h ▸ List.mem_cons_self)) _

theorem number_ok {ds s rest : List Char} (hs : s ≠ []) (hds : ds ≠ [])
    (hmax : ofDigits ds ≤ maxNumber) : number ds s rest = .ok (ofDigits ds, rest) := by
  obtain ⟨c, r, rfl⟩ := List.exists_cons_of_ne_nil hs
  simp [number, hds, Nat.not_lt.2 hmax]

/-- A field of up to eighteen digits takes as many characters as it may, when all of them are
digits. -/
theorem shortNumber_of_isDigit {width : Nat} {s : List Char} (hs : s ≠ []) (hpos : 0 < width)
    (hwidth : width ≤ 18) (h : ∀ c ∈ s.take width, c.isDigit = true) :
    shortNumber width s = .ok (ofDigits (s.take width), s.drop width) := by
  have hne : s.take width ≠ [] := by simp [hs, Nat.pos_iff_ne_zero.1 hpos]
  have hmax : ofDigits (s.take width) ≤ maxNumber := by
    have hlt := ofDigits_lt h
    have hpow : 10 ^ (s.take width).length ≤ 10 ^ 18 :=
      Nat.pow_le_pow_right (by decide) (Nat.le_trans (List.length_take_le _ _) hwidth)
    have : 10 ^ 18 ≤ maxNumber := by decide
    omega
  have hdrop : s.drop (s.take width).length = s.drop width := by
    rw [List.length_take]
    rcases Nat.le_total width s.length with hle | hle
    · rw [Nat.min_eq_left hle]
    · rw [Nat.min_eq_right hle, List.drop_length, List.drop_eq_nil_of_le hle]
  rw [shortNumber, List.takeWhile_eq_self_iff.2 h, number_ok hs hne hmax, hdrop]

/-- A printed field of exactly the width is taken whole. -/
theorem shortNumber_paddedDigits {width n : Nat} (hpos : 0 < width) (hwidth : width ≤ 18)
    (hn : n < 10 ^ width) (rest : List Char) :
    shortNumber width (paddedDigits width n ++ rest) = .ok (n, rest) := by
  have hlen := length_paddedDigits_of_lt hpos hn
  have htake : (paddedDigits width n ++ rest).take width = paddedDigits width n :=
    List.take_left' hlen
  rw [shortNumber_of_isDigit (by simp [paddedDigits_ne_nil]) hpos hwidth
    (by rw [htake]; exact fun c => isDigit_of_mem_paddedDigits), htake, List.drop_left' hlen,
    ofDigits_paddedDigits]

theorem field_paddedDigits {low high n : Nat} (hhigh : high < 100) (hl : low ≤ n) (hh : n ≤ high)
    (rest : List Char) : field low high (paddedDigits 2 n ++ rest) = .ok (n, rest) := by
  have hread : shortNumber 2 (paddedDigits 2 n ++ rest) = .ok (n, rest) :=
    shortNumber_paddedDigits (by decide) (by decide) (by omega) rest
  simp [field, trimLeft_paddedDigits, hread, bind, Except.bind, hl, hh, pure, Except.pure]

theorem separator_cons (c : Char) (r : List Char) : separator c (c :: r) = .ok r := by
  simp [separator]

theorem longNumber_paddedDigits {width n : Nat} (hn : n ≤ maxNumber) {c : Char}
    (hc : c.isDigit = false) (rest : List Char) :
    longNumber (paddedDigits width n ++ c :: rest) = .ok (n, c :: rest) := by
  have hall : ∀ d ∈ paddedDigits width n, d.isDigit = true := fun d => isDigit_of_mem_paddedDigits
  have hstop : ∀ d ∈ (c :: rest).head?, d.isDigit = false := by simpa using hc
  obtain ⟨htake, hdrop⟩ := run_append hall hstop
  rw [longNumber, htake, hdrop, number_ok (by simp) (paddedDigits_ne_nil _ _)
    (by rwa [ofDigits_paddedDigits]), ofDigits_paddedDigits]

/-! ## The year -/

/-- Without a sign at most four digits are read of a year. -/
theorem yearField_of_isDigit {c : Char} (hc : c.isDigit = true) {r rest : List Char} {n : Nat}
    (hread : shortNumber 4 (c :: r) = .ok (n, rest)) (hn : n < 0x80000000) :
    yearField (c :: r) = .ok (n, rest) := by
  have hbounds : -0x80000000 ≤ (n : Int) ∧ (n : Int) < 0x80000000 := by omega
  unfold yearField
  rw [trimLeft_of_isDigit hc]
  split
  case h_1 heq =>
    obtain ⟨rfl, -⟩ := List.cons.inj heq
    simp at hc
  case h_2 heq =>
    obtain ⟨rfl, -⟩ := List.cons.inj heq
    simp at hc
  case h_3 =>
    simp [hread, Except.map, bind, Except.bind, hbounds, pure, Except.pure]

theorem yearField_renderYear {y : Int} (hlow : firstYear ≤ y) (hhigh : y ≤ 9999)
    (rest : List Char) : yearField (renderYear y ++ '-' :: rest) = .ok (y, '-' :: rest) := by
  simp only [firstYear] at hlow
  unfold renderYear
  split
  case isTrue hneg =>
    obtain ⟨n, rfl⟩ : ∃ n : Nat, y = -(n : Int) := ⟨y.natAbs, by omega⟩
    have hread : longNumber (paddedDigits 3 n ++ '-' :: rest) = .ok (n, '-' :: rest) :=
      longNumber_paddedDigits (by simp only [maxNumber]; omega) (by decide) rest
    have hblank : isBlank '-' = false := by decide
    have hbounds : -0x80000000 ≤ -(n : Int) ∧ -(n : Int) < 0x80000000 := by omega
    rw [Int.natAbs_neg, Int.natAbs_natCast]
    simp only [yearField, trimLeft, List.cons_append, List.dropWhile_cons, hblank,
      Bool.false_eq_true, if_false, hread, Except.map, bind, Except.bind, if_pos hbounds]
    rfl
  case isFalse hpos =>
    have hread : shortNumber 4 (paddedDigits 4 y.natAbs ++ '-' :: rest) =
        .ok (y.natAbs, '-' :: rest) :=
      shortNumber_paddedDigits (by decide) (by decide) (by omega) _
    have hy : (y.natAbs : Int) = y := by omega
    obtain ⟨c, r, hcr⟩ := List.exists_cons_of_ne_nil (paddedDigits_ne_nil 4 y.natAbs)
    have hc : c.isDigit = true := isDigit_of_mem_paddedDigits (hcr ▸ List.mem_cons_self)
    rw [hcr, List.cons_append] at hread ⊢
    rw [yearField_of_isDigit hc hread (by omega), hy]

/-- Of a year above 9999 four digits are read, and what is left starts with the fifth. -/
theorem yearField_longYear {y : Int} (hy : 9999 < y) (rest : List Char) :
    ∃ n c r, yearField (renderYear y ++ rest) = .ok (n, c :: r) ∧ c.isDigit = true := by
  have hrender : renderYear y = paddedDigits 4 y.natAbs := by
    rw [renderYear, if_neg (by omega)]
  have hlen : 4 < (paddedDigits 4 y.natAbs).length :=
    lt_length_paddedDigits (by decide) (by omega)
  -- four digits and at least one more
  obtain ⟨c, front, d, back, hsplit, hfront⟩ : ∃ c front d back,
      paddedDigits 4 y.natAbs = c :: front ++ d :: back ∧ (c :: front).length = 4 := by
    match h : paddedDigits 4 y.natAbs with
    | c :: c₂ :: c₃ :: c₄ :: d :: back => exact ⟨c, [c₂, c₃, c₄], d, back, rfl, rfl⟩
    | [] | [_] | [_, _] | [_, _, _] | [_, _, _, _] => simp [h] at hlen
  have hdigit : ∀ e ∈ c :: front ++ d :: back, e.isDigit = true := fun e he =>
    isDigit_of_mem_paddedDigits (hsplit ▸ he)
  have htake : (c :: front ++ (d :: back ++ rest)).take 4 = c :: front := List.take_left' hfront
  have hread : shortNumber 4 (c :: front ++ (d :: back ++ rest)) =
      .ok (ofDigits (c :: front), d :: back ++ rest) := by
    rw [shortNumber_of_isDigit (by simp) (by decide) (by decide)
      (by rw [htake]; exact fun e he => hdigit e (List.mem_append_left _ he)), htake,
      List.drop_left' hfront]
  have hlt : ofDigits (c :: front) < 10 ^ 4 := by
    rw [← hfront]
    exact ofDigits_lt fun e he => hdigit e (List.mem_append_left _ he)
  refine ⟨ofDigits (c :: front), d, back ++ rest, ?_, hdigit d (by simp)⟩
  rw [hrender, hsplit, List.append_assoc]
  exact yearField_of_isDigit (hdigit c (by simp)) hread (by omega)

/-! ## The fraction -/

/-- The digits of a fraction and the zeros that are left out at their end. -/
theorem exists_stripped (s : List Char) :
    ∃ k, s = (s.reverse.dropWhile (· == '0')).reverse ++ List.replicate k '0' := by
  refine ⟨(s.reverse.takeWhile (· == '0')).length, ?_⟩
  have hzeros : s.reverse.takeWhile (· == '0') =
      List.replicate (s.reverse.takeWhile (· == '0')).length '0' :=
    List.eq_replicate_iff.2 ⟨rfl, fun c hc => by simpa using List.mem_takeWhile_imp hc⟩
  rw [← List.reverse_replicate, ← hzeros, ← List.reverse_append, List.takeWhile_append_dropWhile,
    List.reverse_reverse]

theorem stripped_ne_nil {width n : Nat} (hn : n ≠ 0) :
    ((paddedDigits width n).reverse.dropWhile (· == '0')).reverse ≠ [] := by
  intro hnil
  obtain ⟨k, hk⟩ := exists_stripped (paddedDigits width n)
  rw [hnil, List.nil_append] at hk
  exact hn (by rw [← ofDigits_paddedDigits width n, hk, ofDigits_replicate_zero])

theorem isDigit_of_mem_stripped {width n : Nat} {c : Char}
    (hc : c ∈ ((paddedDigits width n).reverse.dropWhile (· == '0')).reverse) : c.isDigit = true :=
  isDigit_of_mem_paddedDigits
    (List.mem_reverse.1 ((List.dropWhile_sublist _).subset (List.mem_reverse.1 hc)))

/-- The first nine digits of a fraction are read, and the zeros left out at its end make no
difference to what they denote. -/
theorem fractionField_stripped {st : List Char} (hst : st ≠ []) {k : Nat}
    (hd : ∀ c ∈ st, c.isDigit = true) (hlen : 9 ≤ (st ++ List.replicate k '0').length) :
    fractionField ('.' :: st) = .ok (ofDigits ((st ++ List.replicate k '0').take 9), []) := by
  have htake : ∀ c ∈ st.take 9, c.isDigit = true := fun c hc => hd c (List.mem_of_mem_take hc)
  have hread := shortNumber_of_isDigit hst (by decide) (by decide) htake
  have hrest : (st.drop 9).dropWhile Char.isDigit = [] :=
    List.dropWhile_eq_nil_iff.2 fun c hc => hd c (List.mem_of_mem_drop hc)
  have hzeros : (st ++ List.replicate k '0').take 9 =
      st.take 9 ++ List.replicate (9 - (st.take 9).length) '0' := by
    simp only [List.length_append, List.length_replicate] at hlen
    rw [List.take_append, List.take_replicate, List.length_take]
    congr 2
    omega
  simp only [fractionField, hread, bind, Except.bind, pure, Except.pure, hrest,
    List.takeWhile_eq_self_iff.2 htake]
  rw [hzeros, ofDigits_append, ofDigits_replicate_zero, List.length_replicate, Nat.add_zero,
    Nat.mul_comm]
  rfl

/-- **The fraction of a printed second** is read as what its first nine digits denote. -/
theorem fractionField_renderFraction (t : ClockTime) :
    fractionField (renderFraction t.nanos) = .ok (t.shownNanos, []) := by
  by_cases hzero : t.nanos = 0
  · simp [renderFraction, hzero, fractionField, ClockTime.shownNanos, ClockTime.isLeapSecond]
  have hn : t.nanos < 2 * nanosPerSecond := t.bounds.2.2.2
  obtain ⟨k, hk⟩ := exists_stripped (paddedDigits 9 t.nanos)
  have hlen : 9 ≤ (paddedDigits 9 t.nanos).length := by
    rw [length_paddedDigits]
    exact Nat.le_max_left _ _
  rw [renderFraction, if_neg hzero, fractionField_stripped (stripped_ne_nil hzero)
    (fun c => isDigit_of_mem_stripped) (hk ▸ hlen), ← hk,
    ofDigits_take (fun c => isDigit_of_mem_paddedDigits), ofDigits_paddedDigits]
  simp only [ClockTime.shownNanos, ClockTime.isLeapSecond_iff, nanosPerSecond] at hn ⊢
  split
  case isTrue hleap =>
    have hten : (paddedDigits 9 t.nanos).length ≤ 10 := by
      rw [length_paddedDigits]
      exact Nat.max_le.2 ⟨by decide, (length_digits_le_iff (by decide)).2 (by omega)⟩
    have hmore : 9 < (paddedDigits 9 t.nanos).length :=
      lt_length_paddedDigits (by decide) (by omega)
    rw [show (paddedDigits 9 t.nanos).length - 9 = 1 by omega, Nat.pow_one]
  case isFalse hleap =>
    rw [length_paddedDigits_of_lt (by decide) (by omega), Nat.sub_self, Nat.pow_zero, Nat.div_one]

/-! ## Dates -/

theorem dateFields_renderDate {d : CivilDate} (hyear : d.hasLongYear = false) (rest : List Char) :
    dateFields (renderDate d ++ rest) = .ok (⟨d.year, d.month, d.day⟩, rest) := by
  obtain ⟨hlow, -, ⟨hm, hm'⟩, hd, hd'⟩ := d.bounds
  have hhigh : d.year ≤ 9999 := by simpa [CivilDate.hasLongYear] using hyear
  simp [renderDate, dateFields, yearField_renderYear hlow hhigh, separator_cons,
    field_paddedDigits (by decide) hm hm', field_paddedDigits (by decide) hd hd', bind, Except.bind,
    pure, Except.pure]

/-- The fifth digit of a year stands where a hyphen is expected. -/
theorem dateFields_longYear {d : CivilDate} (hyear : d.hasLongYear = true) (rest : List Char) :
    dateFields (renderDate d ++ rest) = .error .invalid := by
  have hlong : 9999 < d.year := by simpa [CivilDate.hasLongYear] using hyear
  obtain ⟨n, c, r, hread, hc⟩ := yearField_longYear hlong
    ('-' :: paddedDigits 2 d.month ++ '-' :: paddedDigits 2 d.day ++ rest)
  have hhyphen : c ≠ '-' := ne_of_isDigit hc (by decide)
  simp only [List.cons_append, List.append_assoc] at hread
  simp [renderDate, dateFields, hread, separator, hhyphen, bind, Except.bind]

theorem resolve_dateFields (d : CivilDate) :
    DateFields.resolve ⟨d.year, d.month, d.day⟩ = .ok d := by
  simp [DateFields.resolve, CivilDate.make?, d.valid]

/-- **A printed date** is read back unless its year has more than four digits. -/
theorem readDate_renderDate (d : CivilDate) :
    readDate (renderDate d) = if d.hasLongYear then .error .invalid else .ok d := by
  cases hyear : d.hasLongYear with
  | false =>
    have hfields := dateFields_renderDate hyear []
    rw [List.append_nil] at hfields
    simp [readDate, hfields, finished, resolve_dateFields, bind, Except.bind]
  | true =>
    have hfields := dateFields_longYear hyear []
    rw [List.append_nil] at hfields
    simp [readDate, hfields, bind, Except.bind]

/-! ## Times of day -/

theorem timeFields_renderTime (t : ClockTime) :
    timeFields (renderTime t) = .ok (⟨t.hour, t.minute, t.second, t.shownNanos⟩, []) := by
  obtain ⟨hh, hm, hs, -⟩ := t.bounds
  have hs' : t.second ≤ 60 := by omega
  simp [renderTime, timeFields, separator_cons, field_paddedDigits (by decide) (Nat.zero_le _) hh,
    field_paddedDigits (by decide) (Nat.zero_le _) hm,
    field_paddedDigits (by decide) (Nat.zero_le _) hs', fractionField_renderFraction, bind,
    Except.bind, pure, Except.pure]

theorem resolve_timeFields (t : ClockTime) :
    TimeFields.resolve ⟨t.hour, t.minute, t.second, t.shownNanos⟩ = .ok t.shown := by
  have hsecond : t.second ≠ 60 := by
    have := t.bounds
    omega
  have hmake : ClockTime.make? t.hour t.minute t.second t.shownNanos = some t.shown :=
    dif_pos t.shown.valid
  simp [TimeFields.resolve, hsecond, hmake]

/-- **A printed time of day** is read as the time that its text denotes. -/
theorem readTime_renderTime (t : ClockTime) : readTime (renderTime t) = .ok t.shown := by
  simp [readTime, timeFields_renderTime, finished, resolve_timeFields, bind, Except.bind]

/-- **A printed date with a time of day.** The year decides whether it is read at all. -/
theorem readDateTime_render (d : CivilDate) (t : ClockTime) :
    readDateTime (renderDate d ++ 'T' :: renderTime t) =
      if d.hasLongYear then .error .invalid else .ok (d, t.shown) := by
  cases hyear : d.hasLongYear with
  | false =>
    simp [readDateTime, dateFields_renderDate hyear, separator_cons, timeFields_renderTime,
      finished, resolve_dateFields, resolve_timeFields, bind, Except.bind, pure, Except.pure]
  | true => simp [readDateTime, dateFields_longYear hyear, bind, Except.bind]

end Temporal

end Abac
