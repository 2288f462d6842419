import Mathlib.Data.List.Basic
import Abac.Temporal.Offset
import Abac.Proofs.Inversion
import Abac.Proofs.Numerals

/-!
# The text of a zone

A zone is found by its place at the end of a text. What is cut off there is a `Z`, or a sign and two
numbers of two octets each with a colon between them, and nothing else is (`ZoneText`).

The numbers are read like any integer, which may have a sign. Two octets leave room for one digit
behind a sign (`ZoneNumber`), so that besides the zones that are meant there are some like `++5:30`
or `+-5:30`. The sign of a number counts: hours and minutes can be negative, though by less than
ten, and the offset is within fourteen hours all the same (`ZoneText.inRange`).
-/

namespace Abac

namespace Temporal

open Text

/-! ## Zones -/

/-- An offset that a zone can denote. -/
def Offset.InRange (o : Offset) : Prop := -maxOffset ≤ o.minutes ∧ o.minutes ≤ maxOffset

/-- The two characters of a number of a zone. The first of them may be a sign. -/
inductive ZoneNumber : Char → Char → Int → Prop
  | digits {a b : Char} (ha : a.isDigit = true) (hb : b.isDigit = true) :
      ZoneNumber a b (ofDigits [a, b])
  | plus {b : Char} (hb : b.isDigit = true) : ZoneNumber '+' b (ofDigits [b])
  | minus {b : Char} (hb : b.isDigit = true) : ZoneNumber '-' b (-(ofDigits [b] : Int))

/-- The offset of so many hours and minutes to the east, or to the west after a minus. -/
def zoneOffset (sign : Char) (hours minutes : Int) : Offset :=
  ⟨if sign = '-' then -(hours * 60 + minutes) else hours * 60 + minutes⟩

/-- The text of a zone and its offset. -/
inductive ZoneText : List Char → Offset → Prop
  | utc : ZoneText ['Z'] .utc
  | numeric {sign a b c d : Char} {h m : Int} (hsign : sign = '+' ∨ sign = '-')
      (hh : ZoneNumber a b h) (hm : ZoneNumber c d m) (hlt : m < 60)
      (hmax : h * 60 + m ≤ maxOffset) :
      ZoneText [sign, a, b, ':', c, d] (zoneOffset sign h m)

/-! ## Octets -/

/-- How many octets a text takes up. -/
def size : List Char → Nat
  | [] => 0
  | c :: s => c.utf8Size + size s

theorem size_append (s t : List Char) : size (s ++ t) = size s + size t := by
  induction s with
  | nil => exact (Nat.zero_add (size t)).symm
  | cons c s ih => rw [List.cons_append, size, size, ih, Nat.add_assoc]

theorem utf8Size_of_isDigit {c : Char} (h : c.isDigit = true) : c.utf8Size = 1 := by
  rw [Char.isDigit_iff_toNat] at h
  rw [Char.utf8Size_eq_one_iff, UInt32.le_iff_toNat_le]
  have : '9'.toNat = 57 := rfl
  have : (127 : UInt32).toNat = 127 := rfl
  have : c.val.toNat = c.toNat := rfl
  omega

theorem size_of_isDigit {s : List Char} (h : ∀ c ∈ s, c.isDigit = true) : size s = s.length := by
  induction s with
  | nil => rfl
  | cons c s ih =>
      obtain ⟨hc, hs⟩ := List.forall_mem_cons.mp h
      rw [size, utf8Size_of_isDigit hc, ih hs, List.length_cons, Nat.add_comm]

theorem size_reverse (s : List Char) : size s.reverse = size s := by
  induction s with
  | nil => rfl
  | cons c s ih =>
      rw [List.reverse_cons, size_append, ih, size, size, size, Nat.add_comm, Nat.add_zero]

theorem takeOctets_two {a b : Char} (ha : a.utf8Size = 1) (hb : b.utf8Size = 1) (r : List Char) :
    takeOctets 2 (a :: b :: r) = some ([a, b], r) := by
  simp [takeOctets, ha, hb]

theorem takeOctets_eq_some {n : Nat} {s a b : List Char} (h : takeOctets n s = some (a, b)) :
    s = a ++ b ∧ size a = n := by
  induction s generalizing n a with
  | nil =>
      cases n with
      | zero =>
          cases h
          exact ⟨rfl, rfl⟩
      | succ n => cases h
  | cons c r ih =>
      cases n with
      | zero =>
          cases h
          exact ⟨rfl, rfl⟩
      | succ n =>
          simp only [takeOctets] at h
          split at h
          case isTrue hc =>
            obtain ⟨⟨a', b'⟩, hp, hq⟩ := Option.map_eq_some_iff.1 h
            cases hq
            obtain ⟨rfl, hsize⟩ := ih hp
            refine ⟨rfl, ?_⟩
            rw [size, hsize]
            omega
          case isFalse => cases h

/-- The last six characters of a text that ends in a zone. -/
theorem cutZone?_zone {body : List Char} (hbody : body ≠ []) {sign : Char}
    (hsign : sign = '+' ∨ sign = '-') {h₁ h₂ m₁ m₂ : Char} (hh₁ : h₁.utf8Size = 1)
    (hh₂ : h₂.utf8Size = 1) (hm₁ : m₁.utf8Size = 1) (hm₂ : m₂.utf8Size = 1) :
    cutZone? (body ++ [sign, h₁, h₂, ':', m₁, m₂]) =
      some ⟨body, sign = '-', [h₁, h₂], [m₁, m₂]⟩ := by
  simp [cutZone?, takeOctets_two, hh₁, hh₂, hm₁, hm₂, hsign, hbody]

/-- What is cut off the end of a text, and what is left of it. -/
theorem cutZone?_eq_some {s : List Char} {z : ZoneCut} (h : cutZone? s = some z) :
    ∃ sign, (sign = '+' ∨ sign = '-') ∧ z.west = decide (sign = '-') ∧
      s = z.body ++ sign :: z.hours ++ ':' :: z.minutes ∧ size z.hours = 2 ∧
      size z.minutes = 2 := by
  unfold cutZone? at h
  split at h
  case h_1 m r hm =>
    split at h
    case h_1 hours sign before hh =>
      split at h
      case isTrue hsign =>
        cases h
        obtain ⟨hs, hmsize⟩ := takeOctets_eq_some hm
        obtain ⟨rfl, hhsize⟩ := takeOctets_eq_some hh
        refine ⟨sign, hsign.1, rfl, ?_, by rw [size_reverse, hhsize], by rw [size_reverse, hmsize]⟩
        rw [← List.reverse_reverse s, hs]
        simp
      case isFalse => cases h
    case h_2 => cases h
  case h_2 => cases h

theorem ZoneNumber.size_eq_one {a b : Char} {n : Int} (h : ZoneNumber a b n) :
    a.utf8Size = 1 ∧ b.utf8Size = 1 := by
  cases h with
  | digits ha hb => exact ⟨utf8Size_of_isDigit ha, utf8Size_of_isDigit hb⟩
  | plus hb => exact ⟨by decide, utf8Size_of_isDigit hb⟩
  | minus hb => exact ⟨by decide, utf8Size_of_isDigit hb⟩

/-- Behind a minus there is room for one digit. -/
theorem ZoneNumber.neg_nine_le {a b : Char} {n : Int} (h : ZoneNumber a b n) : -9 ≤ n := by
  cases h with
  | digits ha hb => omega
  | plus hb => omega
  | @minus b hb =>
      have hd : ∀ c ∈ [b], c.isDigit = true := by simp [hb]
      have hlt : ofDigits [b] < 10 ^ 1 := ofDigits_lt hd
      omega

theorem ZoneNumber.ne_zulu {a b : Char} {n : Int} (h : ZoneNumber a b n) : b ≠ 'Z' := by
  cases h with
  | digits ha hb => exact ne_of_isDigit hb (by decide)
  | plus hb => exact ne_of_isDigit hb (by decide)
  | minus hb => exact ne_of_isDigit hb (by decide)

/-- **A number of a zone** has two characters, of which the first may be a sign. -/
theorem zoneNumber_of_read {s : List Char} {n : Int} (hs : size s = 2)
    (h : zoneNumber? s = some n) : ∃ a b, s = [a, b] ∧ ZoneNumber a b n := by
  unfold zoneNumber? at h
  cases hread : readSigned 0x80000000 0x7FFFFFFF s with
  | error e =>
      rw [hread] at h
      cases h
  | ok i =>
      rw [hread] at h
      cases h
      obtain ⟨r, hd, hr⟩ := readSigned_ok hread
      have hsize := size_of_isDigit hd
      have hsign : ∀ c : Char, c.utf8Size = 1 → s = c :: r → ∃ b, r = [b] ∧ b.isDigit = true := by
        rintro c hc rfl
        rw [size, hc, hsize] at hs
        obtain ⟨b, rfl⟩ := List.length_eq_one_iff.mp (Nat.add_left_cancel hs)
        exact ⟨b, rfl, hd b (List.mem_singleton_self b)⟩
      rcases hr with ⟨rfl, rfl, -⟩ | ⟨rfl | rfl, rfl, -⟩
      · obtain ⟨b, rfl, hb⟩ := hsign '-' (by decide) rfl
        exact ⟨'-', b, rfl, .minus hb⟩
      · rw [hsize] at hs
        obtain ⟨a, b, rfl⟩ := List.length_eq_two.mp hs
        exact ⟨a, b, rfl, .digits (hd a (by simp)) (hd b (by simp))⟩
      · obtain ⟨b, rfl, hb⟩ := hsign '+' (by decide) rfl
        exact ⟨'+', b, rfl, .plus hb⟩

/-- A number of a zone is read as what it stands for. -/
theorem ZoneNumber.read {a b : Char} {n : Int} (h : ZoneNumber a b n) :
    zoneNumber? [a, b] = some n := by
  have hbound : ∀ {s : List Char} {k : Nat}, (∀ c ∈ s, c.isDigit = true) → s.length ≤ 2 → 100 ≤ k →
      ofDigits s ≤ k := by
    intro s k hd hlen hk
    have hlt := ofDigits_lt hd
    have hpow : 10 ^ s.length ≤ 10 ^ 2 := Nat.pow_le_pow_right (by decide) hlen
    omega
  cases h with
  | digits ha hb =>
      have hd : ∀ c ∈ [a, b], c.isDigit = true := by simp [ha, hb]
      rw [zoneNumber?, readSigned_of_isDigit (by simp) hd (hbound hd (by simp) (by decide))]
      rfl
  | plus hb =>
      have hd : ∀ c ∈ [b], c.isDigit = true := by simp [hb]
      rw [zoneNumber?, readSigned,
        readDigitsWithin_of_isDigit hd (hbound hd (by simp) (by decide))]
      · rfl
      · simp
  | minus hb =>
      have hd : ∀ c ∈ [b], c.isDigit = true := by simp [hb]
      rw [zoneNumber?, readSigned,
        readDigitsWithin_of_isDigit hd (hbound hd (by simp) (by decide))]
      · rfl
      · simp

/-! ## The end of a text -/

/-- An offset is within fourteen hours: to the east since there is a bound, and to the west since
no number of a zone is below minus nine. -/
theorem ZoneText.inRange {z : List Char} {o : Offset} (h : ZoneText z o) : o.InRange := by
  cases h with
  | utc => exact ⟨by decide, by decide⟩
  | numeric _ hh hm hlt hmax =>
      have hlow := hh.neg_nine_le
      have hlow' := hm.neg_nine_le
      unfold maxOffset at hmax
      unfold Offset.InRange zoneOffset maxOffset
      split <;> simp only <;> omega

/-- **A zone behind a text is found.** -/
theorem splitZone_append {body z : List Char} {o : Offset} (hbody : body ≠ [])
    (h : ZoneText z o) : splitZone (body ++ z) = .ok (body, some o) := by
  cases h with
  | utc => simp [splitZone]
  | @numeric sign a b c d hour minute hsign hh hm hlt hmax =>
      have hlast : (body ++ [sign, a, b, ':', c, d]).getLast? ≠ some 'Z' := by
        simp [hm.ne_zulu]
      have hcut := cutZone?_zone hbody hsign hh.size_eq_one.1 hh.size_eq_one.2 hm.size_eq_one.1
        hm.size_eq_one.2
      have hinside : ¬(minute ≥ 60 ∨ hour * 60 + minute > maxOffset) := by omega
      rw [splitZone, if_neg hlast, hcut]
      simp only [ZoneCut.offset, hh.read, hm.read, if_neg hinside, Except.map, zoneOffset,
        decide_eq_true_eq]

/-- Without a zone the body is the whole text. -/
theorem eq_of_splitZone_none {s body : List Char} (h : splitZone s = .ok (body, none)) :
    body = s := by
  unfold splitZone at h
  split at h
  case isTrue => cases h
  case isFalse =>
    split at h
    case h_1 z _ =>
      obtain ⟨o, -, ho⟩ := Except.map_eq_ok_iff.1 h
      cases ho
    case h_2 =>
      cases h
      rfl

/-- **What is found at the end of a text is a zone.** -/
theorem exists_zone_of_splitZone {s body : List Char} {o : Offset}
    (h : splitZone s = .ok (body, some o)) : ∃ z, s = body ++ z ∧ ZoneText z o := by
  unfold splitZone at h
  split at h
  case isTrue hlast =>
    cases h
    obtain ⟨front, rfl⟩ := List.getLast?_eq_some_iff.mp hlast
    exact ⟨['Z'], by rw [List.dropLast_concat], .utc⟩
  case isFalse =>
    split at h
    case h_2 => cases h
    case h_1 z hz =>
      obtain ⟨o', ho, heq⟩ := Except.map_eq_ok_iff.1 h
      cases heq
      obtain ⟨sign, hsign, hwest, rfl, hhours, hminutes⟩ := cutZone?_eq_some hz
      unfold ZoneCut.offset at ho
      split at ho
      case h_1 => cases ho
      case h_2 hour hh =>
        split at ho
        case h_1 => cases ho
        case h_2 minute hm =>
          obtain ⟨a, b, hab, hh⟩ := zoneNumber_of_read hhours hh
          obtain ⟨c, d, hcd, hm⟩ := zoneNumber_of_read hminutes hm
          simp only at ho
          split at ho
          case isTrue => cases ho
          case isFalse hinside =>
            cases ho
            refine ⟨[sign, a, b, ':', c, d], by simp [hab, hcd], ?_⟩
            have hoffset : zoneOffset sign hour minute =
                ⟨if z.west then -(hour * 60 + minute) else hour * 60 + minute⟩ := by
              simp only [zoneOffset, hwest, decide_eq_true_eq]
            rw [← hoffset]
            exact .numeric hsign hh hm (by omega) (by omega)

end Temporal

end Abac
