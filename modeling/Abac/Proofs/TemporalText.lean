import Abac.Temporal.Zoned
import Abac.Proofs.Fields
import Abac.Proofs.ZoneText

/-!
# What the readers make of a printed zone

A canonical text is a body and a zone. The zone is cut off the end before anything else is looked
at, and this undoes the printer: a printed zone is one (`Abac.Proofs.ZoneText`) and so is found, and
where none was printed the end of the body is never mistaken for one, because no colon stands where
a zone has its colon, or, in a time of day without a fraction, because the minutes have a colon
where a zone has its sign.

What is left is the body, and `Abac.Proofs.Fields` says what is read of it. Together they decide for
every date, time and instant what its text denotes: nothing if the year has more than four digits,
another time if it lies in a leap second, and the value itself in all other cases.
-/

namespace Abac

namespace Temporal

open Text

/-! ## Zones -/

/-- Without a colon in the third place from the end there is no zone. -/
theorem cutZone?_eq_none {s : List Char} {a b c : Char} {r : List Char}
    (hs : s.reverse = a :: b :: c :: r) (ha : a.utf8Size = 1) (hb : b.utf8Size = 1) (hc : c ≠ ':') :
    cutZone? s = none := by
  simp [cutZone?, hs, takeOctets_two ha hb, hc]

theorem two_digits {n : Nat} (hn : n < 100) :
    ∃ a b, paddedDigits 2 n = [a, b] ∧ a.isDigit = true ∧ b.isDigit = true := by
  have hlen : (paddedDigits 2 n).length = 2 := length_paddedDigits_of_lt (by decide) hn
  obtain ⟨a, b, hab⟩ : ∃ a b, paddedDigits 2 n = [a, b] := by
    match h : paddedDigits 2 n with
    | [a, b] => exact ⟨a, b, rfl⟩
    | [] | [_] | _ :: _ :: _ :: _ => simp [h] at hlen
  have hd : ∀ c ∈ [a, b], c.isDigit = true := fun c hc => isDigit_of_mem_paddedDigits (hab ▸ hc)
  exact ⟨a, b, hab, hd a (by simp), hd b (by simp)⟩

/-- A number with two places is a number of a zone. -/
theorem zoneNumber_paddedDigits {n : Nat} (hn : n < 100) :
    ∃ a b, paddedDigits 2 n = [a, b] ∧ ZoneNumber a b n := by
  obtain ⟨a, b, hab, ha, hb⟩ := two_digits hn
  have hvalue : ofDigits [a, b] = n := by rw [← hab, ofDigits_paddedDigits]
  exact ⟨a, b, hab, hvalue ▸ .digits ha hb⟩

/-- **A printed zone is the text of its offset.** -/
theorem zoneText_renderZone {o : Offset} (ho : o.InRange) : ZoneText (renderZone (some o)) o := by
  obtain ⟨m⟩ := o
  obtain ⟨hlow, hhigh⟩ := ho
  simp only [maxOffset] at hlow hhigh
  by_cases hzero : m = 0
  · subst hzero
    exact .utc
  obtain ⟨a, b, hab, hh⟩ := zoneNumber_paddedDigits (n := m.natAbs / 60) (by omega)
  obtain ⟨c, d, hcd, hm⟩ := zoneNumber_paddedDigits (n := m.natAbs % 60) (by omega)
  have htext : renderZone (some ⟨m⟩) = [if m < 0 then '-' else '+', a, b, ':', c, d] := by
    simp [renderZone, hzero, hab, hcd]
  have hsign : (if m < 0 then '-' else '+') = '+' ∨ (if m < 0 then '-' else '+') = '-' := by
    by_cases hneg : m < 0 <;> simp [hneg]
  have hoffset : zoneOffset (if m < 0 then '-' else '+') (m.natAbs / 60 : Nat)
      (m.natAbs % 60 : Nat) = ⟨m⟩ := by
    unfold zoneOffset
    by_cases hneg : m < 0
    · simp only [hneg, if_true, Offset.mk.injEq]
      omega
    · simp only [hneg, if_false, Offset.mk.injEq]
      rw [if_neg (by decide)]
      omega
  have hzone := ZoneText.numeric hsign hh hm (by omega) (by simp only [maxOffset]; omega)
  rwa [← htext, hoffset] at hzone

/-- **A printed zone is found** at the end of the text, and its offset is read back. -/
theorem splitZone_render {body : List Char} (hne : body ≠ [])
    (hbody : splitZone body = .ok (body, none)) {o : Option Offset}
    (ho : ∀ p, o = some p → p.InRange) : splitZone (body ++ renderZone o) = .ok (body, o) := by
  cases o with
  | none => simpa [renderZone] using hbody
  | some o => exact splitZone_append hne (zoneText_renderZone (ho o rfl))

/-! ## Bodies without a zone -/

theorem splitZone_of_cutZone? {s r : List Char} {a : Char} (hs : s.reverse = a :: r)
    (ha : a.isDigit = true) (hcut : cutZone? s = none) : splitZone s = .ok (s, none) := by
  have hlast : s.getLast? ≠ some 'Z' := by
    rw [← List.head?_reverse, hs]
    simpa using ne_of_isDigit ha (by decide)
  rw [splitZone, if_neg hlast, hcut]

/-- The end of a printed date is no zone: a hyphen stands in the third place. -/
theorem splitZone_renderDate (d : CivilDate) :
    splitZone (renderDate d) = .ok (renderDate d, none) := by
  obtain ⟨a, b, hab, ha, hb⟩ := two_digits (n := d.day) (by have := d.bounds; omega)
  have hs : (renderDate d).reverse =
      b :: a :: '-' :: (renderYear d.year ++ '-' :: paddedDigits 2 d.month).reverse := by
    simp [renderDate, hab]
  exact splitZone_of_cutZone? hs hb
    (cutZone?_eq_none hs (utf8Size_of_isDigit hb) (utf8Size_of_isDigit ha) (by decide))

/-- The end of a fraction: its last digits, or its point and the second before it. -/
theorem fraction_end {st front : List Char} {c : Char} (hst : st ≠ [])
    (hd : ∀ e ∈ st, e.isDigit = true) (hc : c.isDigit = true) :
    ∃ x y z r, (front ++ c :: '.' :: st).reverse = x :: y :: z :: r ∧ x.isDigit = true ∧
      y.utf8Size = 1 ∧ z ≠ ':' := by
  have hdigit : ∀ e ∈ st.reverse, e.isDigit = true := fun e he => hd e (List.mem_reverse.1 he)
  have hrev : (front ++ c :: '.' :: st).reverse = st.reverse ++ '.' :: c :: front.reverse := by simp
  rw [hrev]
  match h : st.reverse, hdigit with
  | [], _ => exact absurd (List.reverse_eq_nil_iff.1 h) hst
  | [x], hx => exact ⟨x, '.', c, _, rfl, hx x (by simp), by decide, ne_of_isDigit hc (by decide)⟩
  | [x, y], hx =>
    exact ⟨x, y, '.', _, rfl, hx x (by simp), utf8Size_of_isDigit (hx y (by simp)), by decide⟩
  | x :: y :: z :: r, hx =>
    exact ⟨x, y, z, _, rfl, hx x (by simp), utf8Size_of_isDigit (hx y (by simp)),
      ne_of_isDigit (hx z (by simp)) (by decide)⟩

/-- The end of a printed time of day is no zone. With a fraction there is no colon in the third
place; without one there is, but the minutes have a colon before them and no sign. -/
theorem splitZone_renderTime (front : List Char) (t : ClockTime) :
    splitZone (front ++ renderTime t) = .ok (front ++ renderTime t, none) := by
  obtain ⟨-, hminute, hsecond, -⟩ := t.bounds
  obtain ⟨a, b, hab, ha, hb⟩ := two_digits (n := t.second) (by omega)
  obtain ⟨m, n, hmn, hm, hn⟩ := two_digits (n := t.minute) (by omega)
  by_cases hzero : t.nanos = 0
  · have hs : (front ++ renderTime t).reverse =
        b :: a :: ':' :: n :: m :: ':' :: (front ++ paddedDigits 2 t.hour).reverse := by
      simp [renderTime, renderFraction, hzero, hab, hmn]
    refine splitZone_of_cutZone? hs hb ?_
    simp [cutZone?, hs, takeOctets_two, utf8Size_of_isDigit, ha, hb, hm, hn]
  · have hbody : front ++ renderTime t =
        (front ++ paddedDigits 2 t.hour ++ ':' :: paddedDigits 2 t.minute ++ [':', a]) ++
          b :: '.' :: ((paddedDigits 9 t.nanos).reverse.dropWhile (· == '0')).reverse := by
      simp [renderTime, renderFraction, hzero, hab]
    obtain ⟨x, y, z, r, hs, hx, hy, hz⟩ := fraction_end (stripped_ne_nil hzero)
      (fun e => isDigit_of_mem_stripped) hb
    rw [← hbody] at hs
    exact splitZone_of_cutZone? hs hx (cutZone?_eq_none hs (utf8Size_of_isDigit hx) hy hz)

/-! ## Zoned values -/

variable {α : Type}

/-- What is read of a printed body with a printed zone after it. -/
theorem readZoned_render {body : List Char → Except FieldError α} {text : List Char}
    (hne : text ≠ []) (htext : splitZone text = .ok (text, none)) {o : Option Offset}
    (ho : ∀ p, o = some p → p.InRange) :
    readZoned body (text ++ renderZone o) =
      ((body text).mapError .fields).map fun wall => ⟨wall, o⟩ := by
  rw [readZoned, splitZone_render hne htext ho]
  cases h : body text <;> simp [h, Except.map, Except.mapError]

/-- The offset of a value that was read is one that a zone can denote. -/
theorem inRange_of_readZoned {body : List Char → Except FieldError α} {s : List Char} {z : Zoned α}
    (h : readZoned body s = .ok z) : ∀ p, z.offset = some p → p.InRange := by
  unfold readZoned at h
  split at h
  case h_1 => simp at h
  case h_2 b offset hsplit =>
    split at h
    case h_1 => simp at h
    case h_2 wall _ =>
      obtain rfl := Except.ok.inj h
      rintro p rfl
      obtain ⟨z, -, hz⟩ := exists_zone_of_splitZone hsplit
      exact hz.inRange

end Temporal

/-! ## Dates, times and instants -/

open Temporal

theorem Date.read_render {d : Date} (ho : ∀ p, d.offset = some p → p.InRange) :
    Date.read d.render =
      if d.wall.hasLongYear then .error (.fields .invalid) else .ok d := by
  have hne : renderDate d.wall ≠ [] := by simp [renderDate]
  rw [Date.read, Date.render, readZoned_render hne (splitZone_renderDate _) ho, readDate_renderDate]
  split <;> rfl

theorem Time.read_render {t : Time} (ho : ∀ p, t.offset = some p → p.InRange) :
    Time.read t.render = .ok ⟨t.wall.shown, t.offset⟩ := by
  have hne : renderTime t.wall ≠ [] := by simp [renderTime]
  rw [Time.read, Time.render, readZoned_render hne (splitZone_renderTime [] _) ho,
    readTime_renderTime]
  rfl

theorem DateTime.read_render {d : DateTime} (ho : ∀ p, d.offset = some p → p.InRange) :
    DateTime.read d.render =
      if d.wall.1.hasLongYear then .error (.fields .invalid)
      else .ok ⟨(d.wall.1, d.wall.2.shown), d.offset⟩ := by
  have hbody : renderDate d.wall.1 ++ 'T' :: renderTime d.wall.2 =
      (renderDate d.wall.1 ++ ['T']) ++ renderTime d.wall.2 := by simp
  have hsplit : splitZone (renderDate d.wall.1 ++ 'T' :: renderTime d.wall.2) =
      .ok (renderDate d.wall.1 ++ 'T' :: renderTime d.wall.2, none) := by
    rw [hbody]
    exact splitZone_renderTime _ _
  rw [DateTime.read, DateTime.render, readZoned_render (by simp) hsplit ho, readDateTime_render]
  split <;> rfl

end Abac
