import Abac.Value.Text
import Abac.Proofs.DurationGrammar
import Abac.Proofs.Slices

/-!
# Scanners keep to the text

Three scanners cut a text at offsets: one looks for a zone at its end, one cuts a
duration into its components, and one takes what stands between brackets. Here
they work on offsets in octets, and every octet they look at and every piece they
cut out is checked to be there (`Scanner`). None of them slips, on any text.

The reasons differ. The zone is found by counting from the end, which may well be
inside a character; but the octets at two places are compared with signs of ASCII
before anything is cut, and all the cuts are beside these. The components are cut
at the places that a walk over the characters has gone through, so the walk keeps
the offset of its last designator and of its own place. The closing bracket is
searched for, and one octet long.

Each scanner is shown to come to what the function on characters comes to, so all
readers that use them can neither slip nor read anything else
(`Value.scan_never_slips`).
-/

namespace Abac

open Text

/-- What works at offsets, and may find that a text is not well formed. -/
abbrev Scanner (ε : Type) := ExceptT ε Scan

namespace Scanner

variable {ε ε' α β : Type}

/-- What needs no offsets cannot slip. -/
def of (x : Except ε α) : Scanner ε α := ExceptT.mk (.ok x)

theorem lift_ok_bind (a : α) (f : α → Scanner ε β) :
    (liftM (Except.ok a : Scan α) : Scanner ε α) >>= f = f a := rfl

theorem of_ok_bind (a : α) (f : α → Scanner ε β) : of (.ok a) >>= f = f a := rfl

/-- What goes on after work without offsets may be looked at apart. -/
theorem of_bind {f : α → Scanner ε β} {g : α → Except ε β} (x : Except ε α)
    (h : ∀ a, f a = of (g a)) : of x >>= f = of (x >>= g) := by
  cases x with
  | error e => rfl
  | ok a => exact h a

theorem map_of (f : α → β) (x : Except ε α) : f <$> of x = of (x.map f) := by
  cases x <;> rfl

theorem adapt_of (f : ε → ε') (x : Except ε α) : ExceptT.adapt f (of x) = of (x.mapError f) := by
  cases x <;> rfl

theorem run_of (x : Except ε α) : (of x).run = .ok x := rfl

end Scanner

open Scanner

namespace Temporal

/-! ## Zones -/

/-- A number of 32 bits. -/
def word32 (n : Int) : Scan Int :=
  if -0x80000000 ≤ n ∧ n ≤ 0x7FFFFFFF then .ok n else .error .overflow

/-- The offset of so many seconds to the east, if they are less than a day. -/
def Offset.east? (seconds : Int) : Option Offset :=
  if -86400 < seconds ∧ seconds < 86400 then some ⟨seconds / 60⟩ else none

/-- The offset of so many hours and minutes. -/
def scanOffset (west : Bool) (hours minutes : Int) : Scanner ZoneError Offset := do
  let total ← word32 ((← word32 (hours * 60)) + minutes)
  if minutes ≥ 60 ∨ total > maxOffset then throw .outOfRange
  else
    let seconds ← word32 ((← word32 (if west then -total else total)) * 60)
    match Offset.east? seconds with
    | some o => return o
    | none => throw .outOfRange

/-- Cut a text at an offset if a numeric zone may stand there. -/
def scanNumericZone (s : List Char) (signAt : Nat) :
    Scanner ZoneError (List Char × Option Offset) := do
  let sign ← octetAt s signAt
  if sign = '+'.toUInt8 ∨ sign = '-'.toUInt8 then
    let colon ← octetAt s (signAt + 3)
    if colon = ':'.toUInt8 then
      let some hours := zoneNumber? (← slice s (signAt + 1) (signAt + 3)) | throw .invalidHours
      let some minutes := zoneNumber? (← slice s (signAt + 4) (size s)) | throw .invalidMinutes
      let o ← scanOffset (sign = '-'.toUInt8) hours minutes
      return (← slice s 0 signAt, some o)
    else return (s, none)
  else return (s, none)

/-- The body of a text and its time zone, if it has one. -/
def scanZone (s : List Char) : Scanner ZoneError (List Char × Option Offset) :=
  if s.getLast? = some 'Z' then return (s.dropLast, some .utc)
  else if 6 < size s then scanNumericZone s (size s - 6)
  else return (s, none)

/-- Read a body and an optional zone after it. -/
def scanZoned {α : Type} (body : List Char → Except FieldError α) (s : List Char) :
    Scanner ReadError (Zoned α) := do
  let (b, offset) ← (scanZone s).adapt .zone
  let wall ← of ((body b).mapError .fields)
  return ⟨wall, offset⟩

theorem word32_eq {n : Int} (h : -100000 ≤ n ∧ n ≤ 100000) : word32 n = .ok n :=
  if_pos (by omega)

theorem scanOffset_eq (west : Bool) {h m : Int} (hh : -9 ≤ h ∧ h ≤ 99) (hm : -9 ≤ m ∧ m ≤ 99) :
    scanOffset west h m = of (if m ≥ 60 ∨ h * 60 + m > maxOffset then .error .outOfRange
      else .ok ⟨if west then -(h * 60 + m) else h * 60 + m⟩) := by
  unfold scanOffset
  rw [word32_eq (by omega), lift_ok_bind, word32_eq (by omega), lift_ok_bind]
  split
  · rfl
  · rename_i hin
    -- fourteen hours at most to one side, and less to the other
    have hsigned : -1000 ≤ (if west then -(h * 60 + m) else h * 60 + m) ∧
        (if west then -(h * 60 + m) else h * 60 + m) ≤ 1000 := by
      unfold maxOffset at hin
      split <;> omega
    generalize (if west then -(h * 60 + m) else h * 60 + m) = n at hsigned
    rw [word32_eq (by omega), lift_ok_bind, word32_eq (by omega), lift_ok_bind, Offset.east?,
      if_pos (by omega), Int.mul_ediv_cancel n (by decide)]
    rfl

theorem ZoneNumber.bounds {s : List Char} {n : Int} (hs : size s = 2)
    (h : zoneNumber? s = some n) : -9 ≤ n ∧ n ≤ 99 := by
  obtain ⟨a, b, rfl, hn⟩ := zoneNumber_of_read hs h
  refine ⟨hn.neg_nine_le, ?_⟩
  cases hn with
  | digits ha hb =>
      have hlt : ofDigits [a, b] < 10 ^ 2 := ofDigits_lt (by simp [ha, hb])
      omega
  | plus hb =>
      have hlt : ofDigits [b] < 10 ^ 1 := ofDigits_lt (by simp [hb])
      omega
  | minus hb => omega

theorem utf8Size_sign {sign : Char} (h : sign = '+' ∨ sign = '-') : sign.utf8Size = 1 := by
  rcases h with rfl | rfl <;> decide

theorem utf8Size_colon : ':'.utf8Size = 1 := by decide

/-- What looks like a numeric zone behind a text. -/
structure LooksZoned (s body : List Char) (sign : Char) (hours minutes : List Char) : Prop where
  sign_cases : sign = '+' ∨ sign = '-'
  body_ne_nil : body ≠ []
  size_hours : size hours = 2
  size_minutes : size minutes = 2
  text_eq : s = body ++ sign :: hours ++ ':' :: minutes

theorem LooksZoned.size_eq {s body : List Char} {sign : Char} {hours minutes : List Char}
    (h : LooksZoned s body sign hours minutes) : size s = size body + 6 := by
  obtain ⟨hsign, -, hhours, hminutes, rfl⟩ := h
  simp only [size_append, size, hhours, hminutes, utf8Size_sign hsign, utf8Size_colon]

theorem LooksZoned.six_lt_size {s body : List Char} {sign : Char} {hours minutes : List Char}
    (h : LooksZoned s body sign hours minutes) : 6 < size s := by
  have hbody : size body ≠ 0 := fun hz => h.body_ne_nil (size_eq_zero_iff.mp hz)
  have hsize := h.size_eq
  omega

theorem body_ne_nil_of_cutZone? {s : List Char} {z : ZoneCut} (h : cutZone? s = some z) :
    z.body ≠ [] := by
  unfold cutZone? at h
  split at h
  · split at h
    · split at h
      · rename_i hsign
        cases h
        exact fun hnil => hsign.2 (List.reverse_eq_nil_iff.mp hnil)
      · cases h
    · cases h
  · cases h

/-- What is cut off the end of a text is what looks like a numeric zone there. -/
theorem cutZone?_eq_some_iff {s : List Char} {z : ZoneCut} :
    cutZone? s = some z ↔
      ∃ sign, LooksZoned s z.body sign z.hours z.minutes ∧ z.west = decide (sign = '-') := by
  constructor
  · intro h
    obtain ⟨sign, hsign, hwest, hs, hhours, hminutes⟩ := cutZone?_eq_some h
    exact ⟨sign, ⟨hsign, body_ne_nil_of_cutZone? h, hhours, hminutes, hs⟩, hwest⟩
  · obtain ⟨body, west, hours, minutes⟩ := z
    rintro ⟨sign, ⟨hsign, hbody, hhours, hminutes, rfl⟩, rfl⟩
    have hrev : (body ++ sign :: hours ++ ':' :: minutes).reverse =
        minutes.reverse ++ ':' :: (hours.reverse ++ sign :: body.reverse) := by simp
    have hm := takeOctets_append minutes.reverse (':' :: (hours.reverse ++ sign :: body.reverse))
    have hh := takeOctets_append hours.reverse (sign :: body.reverse)
    rw [size_reverse, hminutes] at hm
    rw [size_reverse, hhours] at hh
    have hne : body.reverse ≠ [] := fun hnil => hbody (List.reverse_eq_nil_iff.mp hnil)
    rw [cutZone?, hrev, hm]
    simp [hh, hsign, hne]

/-- The signs of a numeric zone are octets of ASCII at two places. -/
theorem exists_looksZoned_iff {s : List Char} {sign : Char} (hsign : sign = '+' ∨ sign = '-')
    (hlong : 6 < size s) :
    (octetAt s (size s - 6) = .ok sign.toUInt8 ∧ octetAt s (size s - 6 + 3) = .ok ':'.toUInt8) ↔
      ∃ body hours minutes, LooksZoned s body sign hours minutes := by
  have hascii : sign.toNat < 128 := by rcases hsign with rfl | rfl <;> decide
  have hone := utf8Size_sign hsign
  rw [octetAt_eq_ok_iff hascii, octetAt_eq_ok_iff (by decide)]
  constructor
  · rintro ⟨⟨body, r, hs, hbody⟩, front, minutes, hs', hfront⟩
    have hlen : size s = size body + (1 + size r) := by rw [hs, size_append, size, hone]
    have hlen' : size s = size front + (1 + size minutes) := by
      rw [hs', size_append, size, utf8Size_colon]
    -- the colon stands behind the sign, with two octets between them
    rcases List.append_eq_append_iff.mp (hs.symm.trans hs') with ⟨x, rfl, hx⟩ | ⟨x, rfl, hx⟩
    · rw [size_append] at hfront hlen'
      cases x with
      | nil =>
          rw [size] at hfront
          omega
      | cons y hours =>
          obtain ⟨rfl, rfl⟩ := List.cons.inj hx
          rw [size, hone] at hfront hlen'
          refine ⟨body, hours, minutes, hsign, ?_, by omega, by omega, by simpa using hs⟩
          rintro rfl
          rw [size] at hbody
          omega
    · rw [size_append] at hbody
      omega
  · rintro ⟨body, hours, minutes, h⟩
    rw [h.size_eq]
    obtain ⟨-, -, hhours, -, rfl⟩ := h
    refine ⟨⟨body, hours ++ ':' :: minutes, by simp, by omega⟩, body ++ sign :: hours, minutes,
      rfl, ?_⟩
    rw [size_append, size, hhours, hone]
    omega

/-- A text that looks zoned is cut beside its signs. -/
theorem scanNumericZone_of_looksZoned {s body : List Char} {sign : Char}
    {hours minutes : List Char} (h : LooksZoned s body sign hours minutes) :
    scanNumericZone s (size s - 6) =
      of ((ZoneCut.offset ⟨body, sign = '-', hours, minutes⟩).map fun o => (body, some o)) := by
  obtain ⟨hat, hcolon⟩ :=
    (exists_looksZoned_iff h.sign_cases h.six_lt_size).mpr ⟨body, hours, minutes, h⟩
  have hsize : size s - 6 = size body := by rw [h.size_eq, Nat.add_sub_cancel]
  obtain ⟨hsign, -, hhours, hminutes, hs⟩ := h
  have hone := utf8Size_sign hsign
  have hh : slice s (size body + 1) (size body + 3) = .ok hours := by
    refine slice_eq_ok_iff.mpr ⟨body ++ [sign], ':' :: minutes, by simp [hs], ?_, ?_⟩ <;>
      simp only [size_append, size, hone, hhours, Nat.add_assoc]
  have hm : slice s (size body + 4) (size s) = .ok minutes := by
    refine slice_eq_ok_iff.mpr ⟨body ++ sign :: hours ++ [':'], [], by simp [hs], ?_, ?_⟩
    · simp only [size_append, size, hone, utf8Size_colon, hhours, Nat.add_assoc]
    · rw [hs]
      simp
  have hb : slice s 0 (size body) = .ok body :=
    slice_eq_ok_iff.mpr ⟨[], sign :: hours ++ ':' :: minutes, by simp [hs], rfl, rfl⟩
  have hplus : sign.toUInt8 = '+'.toUInt8 ∨ sign.toUInt8 = '-'.toUInt8 := by
    rcases hsign with rfl | rfl
    · exact .inl rfl
    · exact .inr rfl
  have hwest : decide (sign.toUInt8 = '-'.toUInt8) = decide (sign = '-') := by
    rcases hsign with rfl | rfl <;> decide
  rw [hsize] at hat hcolon ⊢
  rw [scanNumericZone, hat, lift_ok_bind, if_pos hplus, hcolon, lift_ok_bind, if_pos rfl, hh,
    lift_ok_bind, hm, hwest, hb]
  simp only [lift_ok_bind, ZoneCut.offset]
  cases hnh : zoneNumber? hours with
  | none => rfl
  | some n =>
      cases hnm : zoneNumber? minutes with
      | none => rfl
      | some k =>
          simp only
          rw [scanOffset_eq _ (ZoneNumber.bounds hhours hnh) (ZoneNumber.bounds hminutes hnm)]
          split <;> rfl

/-- A text that has not the signs of a zone at their places is not cut. -/
theorem scanNumericZone_of_not {s : List Char} (hlong : 6 < size s)
    (h : ∀ sign body hours minutes, ¬ LooksZoned s body sign hours minutes) :
    scanNumericZone s (size s - 6) = of (.ok (s, none)) := by
  obtain ⟨sign, hat⟩ : ∃ b, octetAt s (size s - 6) = .ok b :=
    exists_octetAt_iff.mpr (by omega)
  obtain ⟨colon, hcolon⟩ : ∃ b, octetAt s (size s - 6 + 3) = .ok b :=
    exists_octetAt_iff.mpr (by omega)
  rw [scanNumericZone, hat, lift_ok_bind]
  split
  · rename_i hsign
    -- a sign stands there, so it must be the colon that is missing
    rw [hcolon, lift_ok_bind, if_neg]
    · rfl
    · rintro rfl
      rcases hsign with rfl | rfl
      · obtain ⟨b, x, y, hlooks⟩ := (exists_looksZoned_iff (.inl rfl) hlong).mp ⟨hat, hcolon⟩
        exact h _ b x y hlooks
      · obtain ⟨b, x, y, hlooks⟩ := (exists_looksZoned_iff (.inr rfl) hlong).mp ⟨hat, hcolon⟩
        exact h _ b x y hlooks
  · rfl

/-- **The end of a text is cut where characters end.** -/
theorem scanZone_eq (s : List Char) : scanZone s = of (splitZone s) := by
  unfold scanZone splitZone
  split
  · rfl
  · cases hz : cutZone? s with
    | some z =>
        obtain ⟨sign, h, hwest⟩ := cutZone?_eq_some_iff.mp hz
        have hz' : z = ⟨z.body, sign = '-', z.hours, z.minutes⟩ := by rw [← hwest]
        rw [if_pos h.six_lt_size, scanNumericZone_of_looksZoned h, ← hz']
    | none =>
        split
        · rename_i hlong
          refine scanNumericZone_of_not hlong fun sign body hours minutes h => ?_
          have hcut := (cutZone?_eq_some_iff (z := ⟨body, sign = '-', hours, minutes⟩)).mpr
            ⟨sign, h, rfl⟩
          rw [hz] at hcut
          cases hcut
        · rfl

theorem scanZoned_eq {α : Type} (body : List Char → Except FieldError α) (s : List Char) :
    scanZoned body s = of (readZoned body s) := by
  unfold scanZoned readZoned
  rw [scanZone_eq]
  cases splitZone s with
  | error e => rfl
  | ok p =>
      obtain ⟨b, offset⟩ := p
      have hok : ExceptT.adapt ReadError.zone (of (.ok (b, offset))) = of (.ok (b, offset)) := rfl
      rw [hok, of_ok_bind]
      cases hb : body b with
      | error e => simp only [hb]; rfl
      | ok wall => simp only [hb]; rfl

/-! ## Components -/

/-- Walk over the characters of a text. `start` is the offset behind the last designator and `here`
that of the next character. -/
def scanComponentsFrom (s : List Char) (start here : Nat) :
    List Char → Scanner DurationError (List Component)
  | [] => if start = size s then return [] else throw .missingDesignator
  | c :: rest =>
    if c.isAlpha then
      if here = start then throw (.missingNumber c)
      else do
        let number ← slice s start here
        let others ← scanComponentsFrom s (here + c.utf8Size) (here + c.utf8Size) rest
        return ⟨number, c⟩ :: others
    else if c.isDigit || c == '.' then scanComponentsFrom s start (here + c.utf8Size) rest
    else throw (.unexpectedCharacter c)

/-- The components of a text. -/
def scanComponents (s : List Char) : Scanner DurationError (List Component) :=
  scanComponentsFrom s 0 0 s

/-- The offsets of a walk: the number that is being read stands between them. -/
theorem scanComponentsFrom_eq (front number rest : List Char) :
    scanComponentsFrom (front ++ number ++ rest) (size front) (size (front ++ number)) rest =
      of (componentsFrom number rest) := by
  induction rest generalizing front number with
  | nil =>
      rw [scanComponentsFrom, componentsFrom, List.append_nil]
      cases number with
      | nil => rw [List.append_nil, if_pos rfl]; rfl
      | cons d number =>
          have hd := d.utf8Size_pos
          rw [if_neg (by rw [size_append, size]; omega)]
          rfl
  | cons c rest ih =>
      -- the walk goes on behind `c`, which belongs to the number, or ends it and goes to the front
      have hstep : size (front ++ number) + c.utf8Size = size (front ++ (number ++ [c])) := by
        simp only [size_append, size, Nat.add_assoc, Nat.add_zero]
      have htext : front ++ number ++ c :: rest = front ++ (number ++ [c]) ++ rest := by simp
      rw [scanComponentsFrom, componentsFrom, hstep, htext]
      split
      · cases number with
        | nil => rw [List.append_nil, if_pos rfl]; rfl
        | cons d number =>
            have hd := d.utf8Size_pos
            have hcut : slice (front ++ (d :: number ++ [c]) ++ rest) (size front)
                (size (front ++ d :: number)) = .ok (d :: number) :=
              slice_eq_ok_iff.mpr ⟨front, c :: rest, by simp, rfl, rfl⟩
            have hrest := ih (front ++ (d :: number ++ [c])) []
            rw [List.append_nil] at hrest
            rw [if_neg (by rw [size_append, size]; omega), hcut, lift_ok_bind, hrest]
            cases componentsFrom [] rest <;> rfl
      · split
        · exact ih front (number ++ [c])
        · rfl

theorem scanComponents_eq (s : List Char) : scanComponents s = of (components s) :=
  scanComponentsFrom_eq [] [] s

end Temporal

/-! ## Brackets -/

open Temporal (size size_append)

/-- The offset of the first occurrence of a character. -/
def offsetOf (c : Char) : List Char → Option Nat
  | [] => none
  | d :: r => if d = c then some 0 else (offsetOf c r).map (d.utf8Size + ·)

theorem offsetOf_eq (c : Char) (s : List Char) :
    offsetOf c s = (cutFirst c s).map fun p => size p.1 := by
  induction s with
  | nil => rfl
  | cons d s ih =>
      rw [offsetOf, cutFirst]
      split
      · rfl
      · rw [ih, Option.map_map, Option.map_map]
        rfl

namespace IpEndpoint

/-- What stands between brackets at the start of a text, and what follows them. -/
def scanBracketed (s : List Char) : Scanner ReadError (List Char × List Char) := do
  let some inner := dropHead? '[' s | throw .missingOpening
  let some stop := offsetOf ']' inner | throw .missingClosing
  return (← slice inner 0 stop, ← slice inner (stop + 1) (size inner))

/-- **A text is cut before and behind the closing bracket.** -/
theorem scanBracketed_eq (s : List Char) : scanBracketed s = of (bracketed s) := by
  cases s with
  | nil => rfl
  | cons c r =>
      by_cases hc : c = '['
      · subst hc
        unfold scanBracketed bracketed
        simp only [dropHead?, if_true, offsetOf_eq]
        cases hcut : cutFirst ']' r with
        | none => rfl
        | some p =>
            obtain ⟨a, b⟩ := p
            obtain ⟨rfl, -⟩ := cutFirst_eq_some hcut
            have hone : ']'.utf8Size = 1 := by decide
            have ha : slice (a ++ ']' :: b) 0 (size a) = .ok a :=
              slice_eq_ok_iff.mpr ⟨[], ']' :: b, by simp, rfl, rfl⟩
            have hb : slice (a ++ ']' :: b) (size a + 1) (size (a ++ ']' :: b)) = .ok b :=
              slice_eq_ok_iff.mpr ⟨a ++ [']'], [], by simp, by rw [size_append, size, hone]; rfl,
                by simp⟩
            simp only [Option.map_some, ha, hb, lift_ok_bind]
            rfl
      · unfold scanBracketed bracketed
        simp only [dropHead?, if_neg hc]
        split
        · rename_i heq
          exact absurd (List.cons.inj heq).1 hc
        · rfl

end IpEndpoint

/-! ## Readers -/

namespace Date

/-- Read a date. -/
def scan (s : List Char) : Scanner Temporal.ReadError Date :=
  Temporal.scanZoned Temporal.readDate s

end Date

namespace Time

/-- Read a time of day. -/
def scan (s : List Char) : Scanner Temporal.ReadError Time :=
  Temporal.scanZoned Temporal.readTime s

end Time

namespace DateTime

/-- Read a date with a time of day. -/
def scan (s : List Char) : Scanner Temporal.ReadError DateTime :=
  Temporal.scanZoned Temporal.readDateTime s

end DateTime

namespace DayTimeDuration

open Temporal

/-- The components of the part after the `T`; there are none without a `T`. -/
def scanTimeComponents : Option (List Char) → Scanner DurationError (List Component)
  | none => return []
  | some s => scanComponents s

theorem scanTimeComponents_eq (s : Option (List Char)) :
    scanTimeComponents s = of (timeComponents s) := by
  cases s with
  | none => rfl
  | some s => exact scanComponents_eq s

/-- Read `[-]P[nD][T[nH][nM][n[.f]S]]`. -/
def scan (s : List Char) : Scanner DurationError DayTimeDuration := do
  let (negative, s) := splitMinus s
  let some body := dropHead? 'P' s | throw .missingStart
  let (datePart, timePart) := match cutFirst 'T' body with
    | some (a, b) => (a, some b)
    | none => (body, none)
  if timePart = some [] then throw .emptyTimePart
  let dateComponents ← scanComponents datePart
  let d ← of (readDatePart { zero with negative := negative } dateComponents)
  let clockComponents ← scanTimeComponents timePart
  let d ← of (readTimePart 0 d clockComponents)
  if dateComponents.isEmpty && clockComponents.isEmpty then throw .noComponents
  return if d.isZero then { d with negative := false } else d

theorem scan_eq (s : List Char) : scan s = of (read s) := by
  unfold scan read
  simp only [scanComponents_eq, scanTimeComponents_eq]
  cases dropHead? 'P' (splitMinus s).2 with
  | none => rfl
  | some body =>
      cases hcut : cutFirst 'T' body <;> simp only [hcut]
      all_goals
        split
        · rfl
        · refine of_bind _ fun dateComponents => of_bind _ fun d => of_bind _ fun clockComponents =>
            of_bind _ fun d => ?_
          split <;> rfl

end DayTimeDuration

namespace YearMonthDuration

open Temporal

/-- Read `[-]P[nY][nM]`. -/
def scan (s : List Char) : Scanner DurationError YearMonthDuration := do
  let (negative, s) := splitMinus s
  let some body := dropHead? 'P' s | throw .missingStart
  let parts ← scanComponents body
  let d ← of (readComponents 0 { zero with negative := negative } parts)
  if parts.isEmpty then throw .noComponents
  return if d.isZero then { d with negative := false } else d

theorem scan_eq (s : List Char) : scan s = of (read s) := by
  unfold scan read
  simp only [scanComponents_eq]
  cases dropHead? 'P' (splitMinus s).2 with
  | none => rfl
  | some body =>
      refine of_bind _ fun parts => of_bind _ fun d => ?_
      split <;> rfl

end YearMonthDuration

namespace IpEndpoint

/-- The mask after an address of version 6, if a slash announces one. -/
def scanV6Mask : List Char → Scanner ReadError (Option Ip × List Char)
  | '/' :: r => do
    let (text, rest) ← scanBracketed r
    let some mask := Ipv6.read? text | throw (.invalidV6Mask text)
    return (some (.v6 mask), rest)
  | s => return (none, s)

/-- Read `[address][/[mask]][:ports]`. -/
def scanV6 (s : List Char) : Scanner ReadError IpEndpoint := do
  let (text, rest) ← scanBracketed s
  let some address := Ipv6.read? text | throw (.invalidV6Address text)
  let (mask, rest) ← scanV6Mask rest
  of <| match rest with
    | [] => return ⟨.v6 address, mask, none⟩
    | ':' :: p => return ⟨.v6 address, mask, some (← readPorts p)⟩
    | _ => throw (.trailing rest)

/-- Read an address; one of version 6 starts with a bracket. -/
def scan (s : List Char) : Scanner ReadError IpEndpoint :=
  if s.head? = some '[' then scanV6 s else of (readV4 s)

theorem scanV6Mask_eq (s : List Char) : scanV6Mask s = of (takeV6Mask s) := by
  unfold scanV6Mask
  split
  · rw [takeV6Mask, scanBracketed_eq]
    refine of_bind _ ?_
    rintro ⟨text, rest⟩
    simp only
    cases Ipv6.read? text <;> rfl
  · rename_i hslash
    rw [takeV6Mask.eq_2 s hslash]
    rfl

theorem scanV6_eq (s : List Char) : scanV6 s = of (readV6 s) := by
  unfold scanV6 readV6
  rw [scanBracketed_eq]
  refine of_bind _ ?_
  rintro ⟨text, rest⟩
  simp only
  cases Ipv6.read? text with
  | none => rfl
  | some address =>
      simp only [scanV6Mask_eq]
      exact of_bind _ fun maskAndRest => rfl

theorem scan_eq (s : List Char) : scan s = of (read s) := by
  rw [scan, read, scanV6_eq, apply_ite of]

end IpEndpoint

namespace Value

/-- Read the characters of a text as a value of a type. The types that are not listed are read
without offsets. -/
def scanAs (t : DataType) (s : List Char) : Scanner ReadCause Value :=
  match t with
  | .date => .date <$> (Date.scan s).adapt .temporal
  | .time => .time <$> (Time.scan s).adapt .temporal
  | .dateTime => .dateTime <$> (DateTime.scan s).adapt .temporal
  | .dayTimeDuration => .dayTimeDuration <$> (DayTimeDuration.scan s).adapt .duration
  | .yearMonthDuration => .yearMonthDuration <$> (YearMonthDuration.scan s).adapt .duration
  | .ipAddress => .ipAddress <$> (IpEndpoint.scan s).adapt .address
  | t => of (readAs t s)

/-- Read a text as a value of a type. -/
def scan (t : DataType) (text : String) : Scanner ConversionError Value :=
  (scanAs t text.toList).adapt fun cause => ⟨t, text, cause⟩

theorem scanAs_eq (t : DataType) (s : List Char) : scanAs t s = of (readAs t s) := by
  cases t
  case date => rw [scanAs, Date.scan, Temporal.scanZoned_eq, adapt_of, map_of]; rfl
  case time => rw [scanAs, Time.scan, Temporal.scanZoned_eq, adapt_of, map_of]; rfl
  case dateTime => rw [scanAs, DateTime.scan, Temporal.scanZoned_eq, adapt_of, map_of]; rfl
  case dayTimeDuration => rw [scanAs, DayTimeDuration.scan_eq, adapt_of, map_of]; rfl
  case yearMonthDuration => rw [scanAs, YearMonthDuration.scan_eq, adapt_of, map_of]; rfl
  case ipAddress => rw [scanAs, IpEndpoint.scan_eq, adapt_of, map_of]; rfl
  all_goals rfl

theorem scan_eq (t : DataType) (text : String) : scan t text = of (read t text) := by
  rw [scan, scanAs_eq, adapt_of]
  rfl

/-- **Scanners cut at characters only.** An octet is there below the end of a text, and a slice is
there exactly between two boundaries of characters in their order. With every other step an error,
the three scanners and all readers of values come to what the functions on characters come to. What
is cut into components is lost nowhere. -/
theorem scan_never_slips (text : String) :
    (∀ i, (∃ b, octetAt text.toList i = .ok b) ↔ i < text.utf8ByteSize) ∧
    (∀ i j, (∃ piece, slice text.toList i j = .ok piece) ↔
      i ≤ j ∧ (⟨i⟩ : String.Pos.Raw).IsValid text ∧ (⟨j⟩ : String.Pos.Raw).IsValid text) ∧
    (Temporal.scanZone text.toList).run = .ok (Temporal.splitZone text.toList) ∧
    (Temporal.scanComponents text.toList).run = .ok (Temporal.components text.toList) ∧
    (IpEndpoint.scanBracketed text.toList).run = .ok (IpEndpoint.bracketed text.toList) ∧
    (∀ t, (scan t text).run = .ok (read t text)) ∧
    ∀ parts, Temporal.components text.toList = .ok parts →
      parts.flatMap Temporal.Component.text = text.toList := by
  refine ⟨fun i => ?_, fun i j => ?_, ?_, ?_, ?_, fun t => ?_, fun parts hparts => ?_⟩
  · rw [utf8ByteSize_eq, exists_octetAt_iff]
  · rw [exists_slice_iff, IsBoundary, IsBoundary, String.ofList_toList]
  · rw [Temporal.scanZone_eq, run_of]
  · rw [Temporal.scanComponents_eq, run_of]
  · rw [IpEndpoint.scanBracketed_eq, run_of]
  · rw [scan_eq, run_of]
  · exact (Temporal.components_ok_iff.mp hparts).1.symm

end Value

end Abac
