import Abac.Proofs.CanonicalText
import Abac.Proofs.Comparing

/-!
# What may stand behind a date or a time

A zone is cut off the end of a text by counting characters, before anyone has looked at what is in
front of it. That this finds the zone and nothing else rests on two facts.

* The fields of a date or a time of day take digits, and a fraction its point. A character of
  another kind behind a text that is one changes nothing in how its fields are read, so that it is
  left over and the longer text is refused (`Temporal.TakesAll`).
* What is cut off is a `Z` or a sign and two numbers with a colon between them
  (`Temporal.ZoneText`). It opens with a character that no field takes.

So a text in front of a zone cannot end within the body or beyond it, and the zone is exactly what
was added to the body (`Temporal.readZoned_append_iff`).

Each number of a zone is read like any integer. It has two characters, and the first may be a sign
of its own (`Temporal.ZoneNumber`), which the grammar of zones does not have. All zones without such
signs are those of the grammar.
-/

namespace Abac

namespace Temporal

open Text

/-! ## What no field takes -/

/-- A text that opens with a character that is no part of a field. -/
def Foreign (t : List Char) : Prop := ∃ c r, t = c :: r ∧ c.isDigit = false ∧ c ≠ '.'

/-- Whether a text is foreign is decided by its first character. -/
theorem Foreign.of_append {t u : List Char} (h : Foreign (t ++ u)) (ht : t ≠ []) : Foreign t := by
  obtain ⟨c, r, hcr, hc⟩ := h
  obtain ⟨d, q, rfl⟩ := List.exists_cons_of_ne_nil ht
  obtain ⟨rfl, -⟩ := List.cons.inj hcr
  exact ⟨d, q, rfl, hc⟩

/-- A run of characters of one kind is not made longer by a text that opens with another kind. -/
theorem run_append_of_stop {p : Char → Bool} (s : List Char) {t : List Char}
    (ht : ∀ c ∈ t.head?, p c = false) :
    (s ++ t).takeWhile p = s.takeWhile p ∧ (s ++ t).dropWhile p = s.dropWhile p ++ t := by
  induction s with
  | nil =>
      cases t with
      | nil => exact ⟨rfl, rfl⟩
      | cons c r => simp [ht c rfl]
  | cons d s ih =>
      obtain ⟨htake, hdrop⟩ := ih
      by_cases hd : p d = true
      · simp [hd, htake, hdrop]
      · simp [hd]

theorem Foreign.head_not_digit {t : List Char} (h : Foreign t) :
    ∀ c ∈ t.head?, c.isDigit = false := by
  obtain ⟨c, r, rfl, hc, -⟩ := h
  intro d hd
  obtain rfl : c = d := by simpa using hd
  exact hc

/-- A reader of a field takes the same off the front of a text when `t` stands behind it. -/
def Ignores {α : Type} (t : List Char) (read : List Char → Except FieldError (α × List Char)) :
    Prop :=
  ∀ s x rest, read s = .ok (x, rest) → read (s ++ t) = .ok (x, rest ++ t)

section

variable {t : List Char}

theorem number_append {ds s rest out : List Char} {n : Nat}
    (h : number ds s rest = .ok (n, out)) (t : List Char) :
    number ds (s ++ t) (rest ++ t) = .ok (n, out ++ t) := by
  cases s with
  | nil => cases h
  | cons c r =>
      unfold number at h ⊢
      simp only [List.cons_append] at h ⊢
      split at h
      · cases h
      · rename_i hds
        rw [if_neg hds]
        split at h
        · cases h
        · rename_i hmax
          rw [if_neg hmax]
          cases h
          rfl

/-- The digits at the start of a field stay the same. -/
theorem takeWhile_take_append (ht : Foreign t) (width : Nat) (s : List Char) :
    ((s ++ t).take width).takeWhile Char.isDigit = (s.take width).takeWhile Char.isDigit := by
  have hstop : ∀ c ∈ (t.take (width - s.length)).head?, c.isDigit = false := by
    intro c hc
    cases hw : width - s.length with
    | zero =>
        rw [hw] at hc
        simp at hc
    | succ k =>
        rw [hw, List.head?_take, if_neg (Nat.succ_ne_zero k)] at hc
        exact ht.head_not_digit c hc
  rw [List.take_append]
  exact (run_append_of_stop _ hstop).1

theorem ignores_shortNumber (ht : Foreign t) (width : Nat) : Ignores t (shortNumber width) := by
  intro s n rest h
  have hlen : ((s.take width).takeWhile Char.isDigit).length ≤ s.length :=
    Nat.le_trans (List.takeWhile_prefix _).length_le (List.length_take_le' _ _)
  unfold shortNumber at h ⊢
  simp only at h ⊢
  rw [takeWhile_take_append ht, List.drop_append_of_le_length hlen]
  exact number_append h t

theorem ignores_longNumber (ht : Foreign t) : Ignores t longNumber := by
  intro s n rest h
  obtain ⟨htake, hdrop⟩ := run_append_of_stop s ht.head_not_digit
  unfold longNumber at h ⊢
  rw [htake, hdrop]
  exact number_append h t

/-- Blanks are only skipped in front of something. -/
theorem trimLeft_append {s : List Char} (h : trimLeft s ≠ []) (t : List Char) :
    trimLeft (s ++ t) = trimLeft s ++ t := by
  unfold trimLeft at h ⊢
  rw [List.dropWhile_append, if_neg (by simpa using h)]

theorem ne_nil_of_shortNumber {width n : Nat} {s rest : List Char}
    (h : shortNumber width s = .ok (n, rest)) : s ≠ [] := by
  rintro rfl
  cases h

theorem ignores_field (ht : Foreign t) (low high : Nat) : Ignores t (field low high) := by
  intro s n rest h
  obtain ⟨⟨m, r⟩, hm, h⟩ := Except.bind_eq_ok_iff.1 h
  have hread := ignores_shortNumber ht 2 _ _ _ hm
  obtain ⟨hin, hout⟩ := Except.ite_throw_eq_ok_iff.1 h
  cases hout
  rw [field, trimLeft_append (ne_nil_of_shortNumber hm), hread]
  exact if_pos hin

/-- The bounds of a year, asked for when its number has been read. -/
def boundYear (x : Except FieldError (Int × List Char)) : Except FieldError (Int × List Char) := do
  let (y, rest) ← x
  if -0x80000000 ≤ y ∧ y < 0x80000000 then return (y, rest) else throw .outOfRange

theorem boundYear_append {read : List Char → Except FieldError (Nat × List Char)}
    (hr : Ignores t read) (sign : Nat → Int) {s rest : List Char} {y : Int}
    (h : boundYear ((read s).map fun p => (sign p.1, p.2)) = .ok (y, rest)) :
    boundYear ((read (s ++ t)).map fun p => (sign p.1, p.2)) = .ok (y, rest ++ t) := by
  obtain ⟨⟨y', r⟩, hy, h⟩ := Except.bind_eq_ok_iff.1 h
  obtain ⟨⟨n, r'⟩, hn, heq⟩ := Except.map_eq_ok_iff.1 hy
  cases heq
  obtain ⟨hin, hout⟩ := Except.ite_throw_eq_ok_iff.1 h
  cases hout
  rw [hr _ _ _ hn]
  exact if_pos hin

theorem ignores_yearField (ht : Foreign t) : Ignores t yearField := by
  intro s y rest h
  have hne : trimLeft s ≠ [] := by
    intro hnil
    rw [yearField, hnil] at h
    cases h
  unfold yearField at h ⊢
  rw [trimLeft_append hne]
  obtain ⟨c, q, hcq⟩ := List.exists_cons_of_ne_nil hne
  rw [hcq] at h ⊢
  rw [List.cons_append]
  -- with a sign the year is as long as its digits, without one it has four of them at most
  split at h
  case h_1 r heq =>
    obtain ⟨rfl, rfl⟩ := List.cons.inj heq
    exact boundYear_append (ignores_longNumber ht) (fun n => -(n : Int)) h
  case h_2 r heq =>
    obtain ⟨rfl, rfl⟩ := List.cons.inj heq
    exact boundYear_append (ignores_longNumber ht) (fun n => (n : Int)) h
  case h_3 hminus hplus =>
    split
    case h_1 heq => exact absurd (by rw [(List.cons.inj heq).1]) (hminus q)
    case h_2 heq => exact absurd (by rw [(List.cons.inj heq).1]) (hplus q)
    case h_3 => exact boundYear_append (ignores_shortNumber ht 4) (fun n => (n : Int)) h

theorem separator_append {c : Char} {s rest : List Char} (h : separator c s = .ok rest)
    (t : List Char) : separator c (s ++ t) = .ok (rest ++ t) := by
  cases s with
  | nil => cases h
  | cons d q =>
      unfold separator at h ⊢
      simp only [List.cons_append] at h ⊢
      split at h
      · rename_i hd
        cases h
        rw [if_pos hd]
      · cases h

theorem ignores_fractionField (ht : Foreign t) : Ignores t fractionField := by
  intro s n rest h
  unfold fractionField at h
  split at h
  case h_1 r =>
    obtain ⟨⟨m, q⟩, hm, h⟩ := Except.bind_eq_ok_iff.1 h
    cases h
    have hread := ignores_shortNumber ht 9 _ _ _ hm
    have hdrop := (run_append_of_stop q ht.head_not_digit).2
    rw [List.cons_append]
    simp only [fractionField, takeWhile_take_append ht, hread, hdrop, bind, Except.bind, pure,
      Except.pure]
  case h_2 hpoint =>
    cases h
    obtain ⟨c, q, rfl, -, hc⟩ := ht
    cases s with
    | nil =>
        unfold fractionField
        split
        · rename_i heq
          exact absurd (List.cons.inj heq).1 hc
        · rfl
    | cons d s =>
        unfold fractionField
        split
        · rename_i heq
          exact absurd (by rw [(List.cons.inj heq).1]) (hpoint s)
        · rfl

theorem ignores_dateFields (ht : Foreign t) : Ignores t dateFields := by
  intro s f rest h
  obtain ⟨⟨y, s₁⟩, hy, h⟩ := Except.bind_eq_ok_iff.1 h
  obtain ⟨s₂, h₂, h⟩ := Except.bind_eq_ok_iff.1 h
  obtain ⟨⟨m, s₃⟩, hm, h⟩ := Except.bind_eq_ok_iff.1 h
  obtain ⟨s₄, h₄, h⟩ := Except.bind_eq_ok_iff.1 h
  obtain ⟨⟨d, s₅⟩, hd, h⟩ := Except.bind_eq_ok_iff.1 h
  cases h
  simp only [dateFields, ignores_yearField ht _ _ _ hy, separator_append h₂,
    ignores_field ht _ _ _ _ _ hm, separator_append h₄, ignores_field ht _ _ _ _ _ hd, bind,
    Except.bind, pure, Except.pure]

theorem ignores_timeFields (ht : Foreign t) : Ignores t timeFields := by
  intro s f rest h
  obtain ⟨⟨hour, s₁⟩, hh, h⟩ := Except.bind_eq_ok_iff.1 h
  obtain ⟨s₂, h₂, h⟩ := Except.bind_eq_ok_iff.1 h
  obtain ⟨⟨m, s₃⟩, hm, h⟩ := Except.bind_eq_ok_iff.1 h
  obtain ⟨s₄, h₄, h⟩ := Except.bind_eq_ok_iff.1 h
  obtain ⟨⟨sec, s₅⟩, hs, h⟩ := Except.bind_eq_ok_iff.1 h
  obtain ⟨⟨n, s₆⟩, hn, h⟩ := Except.bind_eq_ok_iff.1 h
  cases h
  simp only [timeFields, ignores_field ht _ _ _ _ _ hh, separator_append h₂,
    ignores_field ht _ _ _ _ _ hm, separator_append h₄, ignores_field ht _ _ _ _ _ hs,
    ignores_fractionField ht _ _ _ hn, bind, Except.bind, pure, Except.pure]

/-- The fields of a date and of a time of day with a `T` between them. -/
def instantFields (s : List Char) : Except FieldError ((DateFields × TimeFields) × List Char) := do
  let (f, s) ← dateFields s
  let s ← separator 'T' s
  let (g, s) ← timeFields s
  return ((f, g), s)

theorem ignores_instantFields (ht : Foreign t) : Ignores t instantFields := by
  intro s f rest h
  obtain ⟨⟨d, s₁⟩, hd, h⟩ := Except.bind_eq_ok_iff.1 h
  obtain ⟨s₂, h₂, h⟩ := Except.bind_eq_ok_iff.1 h
  obtain ⟨⟨c, s₃⟩, hc, h⟩ := Except.bind_eq_ok_iff.1 h
  cases h
  simp only [instantFields, ignores_dateFields ht _ _ _ hd, separator_append h₂,
    ignores_timeFields ht _ _ _ hc, bind, Except.bind, pure, Except.pure]

end

/-! ## Readers of whole texts -/

/-- A reader takes a whole text: it refuses the empty text and all that goes on where a text it
accepts has ended. -/
structure TakesAll {α : Type} (body : List Char → Except FieldError α) : Prop where
  ne_nil : ∀ {s x}, body s = .ok x → s ≠ []
  refuses : ∀ {s x t}, body s = .ok x → Foreign t → ∀ y, body (s ++ t) ≠ .ok y

theorem Foreign.finished_ne_ok {t : List Char} (h : Foreign t) (u : Unit) :
    finished t ≠ .ok u := by
  obtain ⟨c, r, rfl, -, -⟩ := h
  exact nofun

theorem eq_nil_of_finished {s : List Char} {u : Unit} (h : finished s = .ok u) : s = [] := by
  cases s with
  | nil => rfl
  | cons c r => cases h

/-- Fields with the end of the text behind them. -/
theorem takesAll_of_fields {φ α : Type} {fields : List Char → Except FieldError (φ × List Char)}
    {resolve : φ → Except FieldError α} {body : List Char → Except FieldError α}
    (hbody : ∀ s, body s = fields s >>= fun p => finished p.2 >>= fun _ => resolve p.1)
    (hnil : ∀ p, fields [] ≠ .ok p) (hfields : ∀ {t}, Foreign t → Ignores t fields) :
    TakesAll body where
  ne_nil := by
    rintro s x h rfl
    rw [hbody] at h
    obtain ⟨p, hp, -⟩ := Except.bind_eq_ok_iff.1 h
    exact hnil p hp
  refuses := by
    intro s x t h ht y hy
    rw [hbody] at h hy
    obtain ⟨⟨f, rest⟩, hf, h⟩ := Except.bind_eq_ok_iff.1 h
    obtain ⟨u, hu, -⟩ := Except.bind_eq_ok_iff.1 h
    obtain rfl := eq_nil_of_finished hu
    obtain ⟨⟨f', rest⟩, hf', hy⟩ := Except.bind_eq_ok_iff.1 hy
    -- the same fields are read, and what stands behind them is left over
    cases (hfields ht _ _ _ hf).symm.trans hf'
    obtain ⟨u, hu, -⟩ := Except.bind_eq_ok_iff.1 hy
    exact ht.finished_ne_ok u hu

theorem takesAll_readDate : TakesAll readDate :=
  takesAll_of_fields (fun _ => rfl) (fun _ => nofun) ignores_dateFields

theorem takesAll_readTime : TakesAll readTime :=
  takesAll_of_fields (fun _ => rfl) (fun _ => nofun) ignores_timeFields

/-- The date and the time of day that the fields name. -/
def resolveInstant (f : DateFields × TimeFields) : Except FieldError (CivilDate × ClockTime) := do
  return (← f.1.resolve, ← f.2.resolve)

theorem takesAll_readDateTime : TakesAll readDateTime := by
  have hbody : ∀ s, readDateTime s =
      instantFields s >>= fun p => finished p.2 >>= fun _ => resolveInstant p.1 := by
    intro s
    simp only [readDateTime, instantFields, resolveInstant, bind_assoc, pure_bind]
  have hnil : ∀ p, instantFields [] ≠ .ok p := by
    intro p h
    cases h
  exact takesAll_of_fields hbody hnil ignores_instantFields

/-! ## Bodies and zones -/

theorem ZoneText.foreign {z : List Char} {o : Offset} (h : ZoneText z o) : Foreign z := by
  cases h with
  | utc => exact ⟨'Z', [], rfl, by decide, by decide⟩
  | numeric hsign =>
      rcases hsign with rfl | rfl
      · exact ⟨'+', _, rfl, by decide, by decide⟩
      · exact ⟨'-', _, rfl, by decide, by decide⟩

/-- **What follows a body is a zone or the text is refused**, unless it could be more of the body.
-/
theorem readZoned_append_iff {α : Type} {body : List Char → Except FieldError α}
    (hb : TakesAll body) {s t : List Char} {x : α} (hx : body s = .ok x) (ht : Foreign t)
    {z : Zoned α} :
    readZoned body (s ++ t) = .ok z ↔ ∃ o, ZoneText t o ∧ z = ⟨x, some o⟩ := by
  constructor
  · intro h
    unfold readZoned at h
    split at h
    case h_1 => cases h
    case h_2 front offset hsplit =>
      split at h
      case h_1 => cases h
      case h_2 wall hwall =>
        cases h
        cases offset with
        | none =>
            obtain rfl := eq_of_splitZone_none hsplit
            exact absurd hwall (hb.refuses hx ht wall)
        | some o =>
            obtain ⟨u, hu, hzone⟩ := exists_zone_of_splitZone hsplit
            rcases List.append_eq_append_iff.mp hu with ⟨w, rfl, rfl⟩ | ⟨w, rfl, rfl⟩
            · -- the zone was looked for behind the end of the body
              by_cases hw : w = []
              · subst hw
                rw [List.append_nil, hx] at hwall
                cases hwall
                exact ⟨o, hzone, rfl⟩
              · exact absurd hwall (hb.refuses hx (ht.of_append hw) wall)
            · -- the zone was found to begin within the body
              by_cases hw : w = []
              · subst hw
                rw [List.append_nil, hwall] at hx
                cases hx
                exact ⟨o, hzone, rfl⟩
              · exact absurd hx (hb.refuses hwall (hzone.foreign.of_append hw) x)
  · rintro ⟨o, hzone, rfl⟩
    rw [readZoned, splitZone_append (hb.ne_nil hx) hzone]
    simp only [hx]

/-- A body that is read without a zone is read whole. -/
theorem body_of_readZoned {α : Type} {body : List Char → Except FieldError α} {s : List Char}
    {x : α} (h : readZoned body s = .ok ⟨x, none⟩) : body s = .ok x := by
  unfold readZoned at h
  split at h
  case h_1 => cases h
  case h_2 front offset hsplit =>
    split at h
    case h_1 => cases h
    case h_2 wall hwall =>
      cases h
      rwa [eq_of_splitZone_none hsplit] at hwall

/-- The texts of six characters with a sign in front that are zones. -/
theorem zoneText_numeric_iff {sign a b c d : Char} {o : Offset} (hsign : sign = '+' ∨ sign = '-') :
    ZoneText [sign, a, b, ':', c, d] o ↔ ∃ hours minutes : Int, ZoneNumber a b hours ∧
      ZoneNumber c d minutes ∧ minutes < 60 ∧ hours * 60 + minutes ≤ maxOffset ∧
      o = zoneOffset sign hours minutes := by
  constructor
  · intro h
    cases h with
    | numeric _ hh hm hlt hmax => exact ⟨_, _, hh, hm, hlt, hmax, rfl⟩
  · rintro ⟨hours, minutes, hh, hm, hlt, hmax, rfl⟩
    exact .numeric hsign hh hm hlt hmax

/-- A number without a sign consists of two digits. -/
theorem ZoneNumber.of_unsigned {a b : Char} {n : Int} (h : a ≠ '+' ∧ a ≠ '-') :
    ZoneNumber a b n ↔ a.isDigit = true ∧ b.isDigit = true ∧ n = ofDigits [a, b] := by
  constructor
  · intro hn
    cases hn with
    | digits ha hb => exact ⟨ha, hb, rfl⟩
    | plus => exact absurd rfl h.1
    | minus => exact absurd rfl h.2
  · rintro ⟨ha, hb, rfl⟩
    exact .digits ha hb

end Temporal

/-! ## Values -/

namespace Value

open Temporal

/-- The same local date, time or instant in a time zone. -/
def inZone (o : Offset) : Value → Value
  | .date d => .date ⟨d.wall, some o⟩
  | .time t => .time ⟨t.wall, some o⟩
  | .dateTime d => .dateTime ⟨d.wall, some o⟩
  | v => v

/-- What is read of a text with something behind it, for a type whose values have a body and a zone.
-/
theorem read_append_iff_of_zoned {α : Type} {body : List Char → Except FieldError α}
    (hb : TakesAll body) {make : Zoned α → Value} {t : DataType}
    (hread : ∀ s v, read t s = .ok v ↔ ∃ z, readZoned body s.toList = .ok z ∧ make z = v)
    (hzoned : ∀ z, (make z).zoned? = some z.offset.isSome)
    (hzone : ∀ z o, (make z).inZone o = make ⟨z.wall, some o⟩) {s u : String} {v : Value}
    (h : read t s = .ok v) (hv : v.zoned? = some false) (hu : Foreign u.toList) (w : Value) :
    read t (s ++ u) = .ok w ↔ ∃ o, ZoneText u.toList o ∧ w = v.inZone o := by
  obtain ⟨⟨x, offset⟩, hz, rfl⟩ := (hread s v).mp h
  have hnone : offset = none := by simpa [hzoned] using hv
  subst hnone
  have hx := body_of_readZoned hz
  rw [hread, String.toList_append]
  constructor
  · rintro ⟨z, hz, rfl⟩
    obtain ⟨o, hzone', rfl⟩ := (readZoned_append_iff hb hx hu).mp hz
    exact ⟨o, hzone', (hzone ⟨x, none⟩ o).symm⟩
  · rintro ⟨o, hzone', rfl⟩
    exact ⟨⟨x, some o⟩, (readZoned_append_iff hb hx hu).mpr ⟨o, hzone', rfl⟩,
      (hzone ⟨x, none⟩ o).symm⟩

/-- Dates, times and instants are read with what follows them if that is a zone. -/
theorem read_append_iff {t : DataType} (ht : t = .date ∨ t = .time ∨ t = .dateTime) {s u : String}
    {v : Value} (h : read t s = .ok v) (hv : v.zoned? = some false) (hu : Foreign u.toList)
    (w : Value) : read t (s ++ u) = .ok w ↔ ∃ o, ZoneText u.toList o ∧ w = v.inZone o := by
  have hread : ∀ {α : Type} {body : List Char → Except FieldError α} {make : Zoned α → Value}
      {t : DataType}, (∀ s, readAs t s = ((readZoned body s).mapError .temporal).map make) →
      ∀ s v, read t s = .ok v ↔ ∃ z, readZoned body s.toList = .ok z ∧ make z = v := by
    intro α body make t hr s v
    rw [read_ok_iff, hr, Except.map_eq_ok_iff]
    simp only [Except.mapError_eq_ok_iff]
  rcases ht with rfl | rfl | rfl
  · exact read_append_iff_of_zoned takesAll_readDate (hread fun _ => rfl) (fun _ => rfl)
      (fun _ _ => rfl) h hv hu w
  · exact read_append_iff_of_zoned takesAll_readTime (hread fun _ => rfl) (fun _ => rfl)
      (fun _ _ => rfl) h hv hu w
  · exact read_append_iff_of_zoned takesAll_readDateTime (hread fun _ => rfl) (fun _ => rfl)
      (fun _ _ => rfl) h hv hu w

/-- **The zones that are read behind a body.** Let a text be read as a date, a time or an instant
without a zone. Behind it a sign, two characters, a colon and two characters are read as a zone if
each pair is a number, the minutes are below sixty and hours and minutes come to fourteen hours at
most; the value is that of the body with the offset they denote, and in all other cases the text is
refused. Pairs without a sign are numbers if both characters are digits. A `Z` is always read. -/
theorem zone_suffix {t : DataType} (ht : t = .date ∨ t = .time ∨ t = .dateTime) {body : String}
    {v : Value} (h : read t body = .ok v) (hv : v.zoned? = some false) :
    (∀ sign a b c d : Char, sign = '+' ∨ sign = '-' → ∀ w : Value,
      (read t (body ++ String.ofList [sign, a, b, ':', c, d]) = .ok w ↔
        ∃ hours minutes : Int, ZoneNumber a b hours ∧ ZoneNumber c d minutes ∧ minutes < 60 ∧
          hours * 60 + minutes ≤ 840 ∧ w = v.inZone (zoneOffset sign hours minutes)) ∧
      ((a ≠ '+' ∧ a ≠ '-') → (c ≠ '+' ∧ c ≠ '-') →
        (read t (body ++ String.ofList [sign, a, b, ':', c, d]) = .ok w ↔
          (∀ e ∈ [a, b, c, d], e.isDigit = true) ∧ Text.ofDigits [c, d] < 60 ∧
            Text.ofDigits [a, b] * 60 + Text.ofDigits [c, d] ≤ 840 ∧
            w = v.inZone (zoneOffset sign (Text.ofDigits [a, b]) (Text.ofDigits [c, d]))))) ∧
    read t (body ++ "Z") = .ok (v.inZone .utc) := by
  constructor
  · intro sign a b c d hsign w
    have hforeign : Foreign (String.ofList [sign, a, b, ':', c, d]).toList := by
      rw [String.toList_ofList]
      rcases hsign with rfl | rfl
      · exact ⟨'+', _, rfl, by decide, by decide⟩
      · exact ⟨'-', _, rfl, by decide, by decide⟩
    have hiff : read t (body ++ String.ofList [sign, a, b, ':', c, d]) = .ok w ↔
        ∃ hours minutes : Int, ZoneNumber a b hours ∧ ZoneNumber c d minutes ∧ minutes < 60 ∧
          hours * 60 + minutes ≤ 840 ∧ w = v.inZone (zoneOffset sign hours minutes) := by
      rw [read_append_iff ht h hv hforeign, String.toList_ofList]
      simp only [zoneText_numeric_iff hsign]
      constructor
      · rintro ⟨o, ⟨hours, minutes, hh, hm, hlt, hmax, rfl⟩, hw⟩
        exact ⟨hours, minutes, hh, hm, hlt, hmax, hw⟩
      · rintro ⟨hours, minutes, hh, hm, hlt, hmax, hw⟩
        exact ⟨_, ⟨hours, minutes, hh, hm, hlt, hmax, rfl⟩, hw⟩
    refine ⟨hiff, fun ha hc => hiff.trans ?_⟩
    constructor
    · rintro ⟨hours, minutes, hh, hm, hlt, hmax, hw⟩
      obtain ⟨had, hbd, rfl⟩ := (ZoneNumber.of_unsigned ha).mp hh
      obtain ⟨hcd, hdd, rfl⟩ := (ZoneNumber.of_unsigned hc).mp hm
      exact ⟨by simp [had, hbd, hcd, hdd], by omega, by omega, hw⟩
    · rintro ⟨hd, hlt, hmax, hw⟩
      simp only [List.forall_mem_cons] at hd
      obtain ⟨had, hbd, hcd, hdd, -⟩ := hd
      exact ⟨_, _, .digits had hbd, .digits hcd hdd, by omega, by omega, hw⟩
  · exact (read_append_iff ht h hv ⟨'Z', [], rfl, by decide, by decide⟩ _).mpr ⟨_, .utc, rfl⟩

/-- Half past noon and five and a half seconds, seven hours and three quarters to the west. -/
theorem zone_suffix_west :
    ∃ v, read .time "12:30:05.5" = .ok v ∧ v.zoned? = some false ∧
      read .time "12:30:05.5-07:45" =
        .ok (.time ⟨⟨12, 30, 5, 500000000, by decide⟩, some ⟨-465⟩⟩) := by
  let v : Value := .time ⟨⟨12, 30, 5, 500000000, by decide⟩, none⟩
  have hv : read .time "12:30:05.5" = .ok v := by rfl
  obtain ⟨hzone, -⟩ := zone_suffix (.inr (.inl rfl)) hv rfl
  have hwest := (hzone '-' '0' '7' '4' '5' (.inr rfl) (v.inZone ⟨-465⟩)).2
    ⟨by decide, by decide⟩ ⟨by decide, by decide⟩
  exact ⟨v, hv, rfl, hwest.mpr ⟨by simp, by decide, by decide, rfl⟩⟩

/-- A plus in front of the hours is read past, and a minus there turns them around. -/
theorem zone_with_signed_hours :
    read .date "2024-01-01" = .ok (.date ⟨⟨2024, 1, 1, by decide⟩, none⟩) ∧
      read .date "2024-01-01++5:30" = .ok (.date ⟨⟨2024, 1, 1, by decide⟩, some ⟨330⟩⟩) ∧
      read .date "2024-01-01+-5:30" = .ok (.date ⟨⟨2024, 1, 1, by decide⟩, some ⟨-270⟩⟩) :=
  ⟨by rfl, by rfl, by rfl⟩

end Value

end Abac
