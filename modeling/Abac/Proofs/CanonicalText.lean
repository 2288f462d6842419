import Abac.Value.Text
import Abac.Proofs.Encodings
import Abac.Proofs.Endpoints
import Abac.Proofs.TemporalText

/-!
# Values read back from their canonical text

Every value that is read has one canonical text, and reading that text under the same data type
should give the value again. Each data type has a printer and a reader of its own, so the argument
is made for each pair in a module of its own and is put together here.

For dates, times and instants it holds with two exceptions, a year of more than four digits and a
leap second. For the ten types whose values are exact it holds without exception, and a value is
read from some text exactly when it is well formed: that is every truth value, every 64-bit integer,
every string and every sequence of octets, and of the others those whose parts fit together.
-/

namespace Abac

namespace Value

theorem read_ok_iff {t : DataType} {s : String} {v : Value} :
    read t s = .ok v ↔ readAs t s.toList = .ok v :=
  Except.mapError_eq_ok_iff

/-- What is read of a canonical text is read of its characters. -/
theorem read_render (t : DataType) (v : Value) :
    read t v.render = (readAs t v.chars).mapError fun cause => ⟨t, v.render, cause⟩ := by
  rw [read, render, String.toList_ofList]

/-! ## Dates, times and instants -/

/-- Whether the date of a value has a year of more than four digits. -/
def hasLongYear : Value → Bool
  | .date d => d.wall.hasLongYear
  | .dateTime d => d.wall.1.hasLongYear
  | _ => false

/-- Whether the time of day of a value lies in a leap second. -/
def inLeapSecond : Value → Bool
  | .time t => t.wall.isLeapSecond
  | .dateTime d => d.wall.2.isLeapSecond
  | _ => false

/-- The value that the canonical text of a date, a time or an instant denotes, when it denotes one.
-/
def shown : Value → Value
  | .time t => .time ⟨t.wall.shown, t.offset⟩
  | .dateTime d => .dateTime ⟨(d.wall.1, d.wall.2.shown), d.offset⟩
  | v => v

/-- Only a leap second is not what its text denotes. -/
theorem shown_eq_self_iff {v : Value} : v.shown = v ↔ v.inLeapSecond = false := by
  cases v with
  | time t =>
    obtain ⟨wall, offset⟩ := t
    simp [shown, inLeapSecond, ClockTime.shown_eq_self_iff]
  | dateTime d =>
    obtain ⟨⟨date, time⟩, offset⟩ := d
    simp [shown, inLeapSecond, ClockTime.shown_eq_self_iff]
  | _ => simp [shown, inLeapSecond]

/-- What is read of the canonical text of a date, a time or an instant that was itself read. -/
theorem read_render_of_temporal {t : DataType} (ht : t = .date ∨ t = .time ∨ t = .dateTime)
    {s : String} {v : Value} (h : read t s = .ok v) :
    read t v.render =
      if v.hasLongYear then .error ⟨t, v.render, .temporal (.fields .invalid)⟩
      else .ok v.shown := by
  rw [read_ok_iff] at h
  rcases ht with rfl | rfl | rfl
  all_goals
    obtain ⟨z, hz, rfl⟩ := Except.map_eq_ok_iff.1 h
    have ho := Temporal.inRange_of_readZoned (Except.mapError_eq_ok_iff.1 hz)
    rw [read_render, readAs, chars]
  case inl =>
    rw [Date.read_render ho, hasLongYear]
    split <;> rfl
  case inr.inl =>
    rw [Time.read_render ho]
    rfl
  case inr.inr =>
    rw [DateTime.read_render ho, hasLongYear]
    split <;> rfl

/-- **The round trip of dates, times and instants.** The canonical text of a value that was read is
read as the same value exactly when its year has at most four digits and it does not lie in a leap
second. A longer year makes the text unreadable; a leap second is read as another time, one whose
nanoseconds lack the last of the ten digits. -/
theorem temporal_round_trip {t : DataType} (ht : t = .date ∨ t = .time ∨ t = .dateTime)
    {s : String} {v : Value} (h : read t s = .ok v) :
    (read t v.render = .ok v ↔ v.hasLongYear = false ∧ v.inLeapSecond = false) ∧
      (v.hasLongYear = true →
        read t v.render = .error ⟨t, v.render, .temporal (.fields .invalid)⟩) ∧
      (v.hasLongYear = false → read t v.render = .ok v.shown) := by
  have hread := read_render_of_temporal ht h
  cases hyear : v.hasLongYear with
  | true =>
    rw [hyear, if_pos rfl] at hread
    simp [hread]
  | false =>
    rw [hyear, if_neg (by decide)] at hread
    simp [hread, shown_eq_self_iff]

/-- An instant half a minute before midnight, seven hours to the west. -/
theorem temporal_round_trip_west :
    read .dateTime " -44-3-15T23:59:30.50-07:00" =
      .ok (.dateTime ⟨(⟨-44, 3, 15, by decide⟩, ⟨23, 59, 30, 500000000, by decide⟩),
        some ⟨-420⟩⟩) ∧
    read .dateTime "-044-03-15T23:59:30.5-07:00" =
      .ok (.dateTime ⟨(⟨-44, 3, 15, by decide⟩, ⟨23, 59, 30, 500000000, by decide⟩),
        some ⟨-420⟩⟩) := by
  have hread : read .dateTime " -44-3-15T23:59:30.50-07:00" =
      .ok (.dateTime ⟨(⟨-44, 3, 15, by decide⟩, ⟨23, 59, 30, 500000000, by decide⟩),
        some ⟨-420⟩⟩) := by rfl
  exact ⟨hread, (temporal_round_trip (.inr (.inr rfl)) hread).1.2 ⟨rfl, rfl⟩⟩

/-- A date of the year 12345 is read with a sign and written without one, and the last second of a
day with a leap second is written as a second before it. -/
theorem long_year_and_leap_second_lost :
    (∃ v, read .date "+12345-01-01" = .ok v ∧ v.render = "12345-01-01" ∧
      read .date v.render = .error ⟨.date, "12345-01-01", .temporal (.fields .invalid)⟩) ∧
    (∃ v w, read .time "23:59:60" = .ok v ∧ v.render = "23:59:59.1" ∧
      read .time v.render = .ok w ∧ v ≠ w) := by
  refine ⟨⟨.date ⟨⟨12345, 1, 1, by decide⟩, none⟩, by rfl, by rfl, by rfl⟩,
    ⟨.time ⟨⟨23, 59, 59, 1000000000, by decide⟩, none⟩,
      .time ⟨⟨23, 59, 59, 100000000, by decide⟩, none⟩, by rfl, by rfl, by rfl, by simp⟩⟩

end Value

/-! ## Names -/

/-- Whether a mailbox can be read: neither part is empty, and the only at sign is the one between
them. -/
def Mailbox.IsWellFormed (m : Mailbox) : Prop :=
  m.localPart ≠ [] ∧ m.domain ≠ [] ∧ '@' ∉ m.localPart ∧ '@' ∉ m.domain

theorem Mailbox.read_render {m : Mailbox} (h : m.IsWellFormed) : read m.render = .ok m := by
  obtain ⟨hlocal, hdomain, hno, hno'⟩ := h
  simp [read, render, Text.cutLast_append _ hno', hlocal, hdomain, hno]

theorem Mailbox.wellFormed_of_read {s : List Char} {m : Mailbox} (h : read s = .ok m) :
    m.IsWellFormed := by
  unfold read at h
  split at h
  case h_1 => simp at h
  case h_2 l d hcut =>
    split at h
    case isTrue => simp at h
    case isFalse hparts =>
      obtain rfl := Except.ok.inj h
      simp only [Bool.or_eq_true, List.isEmpty_iff, List.contains_iff_mem, not_or] at hparts
      exact ⟨hparts.1.1, hparts.1.2, hparts.2, (Text.cutLast_eq_some hcut).2⟩

/-- A distinguished name keeps the text it was read from, so that is what it has to be read from. -/
def DistinguishedName.IsWellFormed (n : DistinguishedName) : Prop :=
  DistinguishedName.read n.text = .ok n

theorem DistinguishedName.wellFormed_of_read {s : List Char} {n : DistinguishedName}
    (h : DistinguishedName.read s = .ok n) : n.IsWellFormed := by
  have htext : n.text = s := by
    obtain ⟨names, -, h⟩ := Except.bind_eq_ok_iff.1 h
    dsimp only at h
    split at h
    case isTrue => exact absurd h (Except.throw_ne_ok _ _)
    case isFalse => rw [← Except.ok.inj h]
  rwa [IsWellFormed, htext]

/-! ## Exact types -/

/-- The types other than floating-point numbers, points of the time line and durations. -/
def DataType.exact : List DataType :=
  [.boolean, .integer, .string, .anyUri, .hexBinary, .base64Binary, .rfc822Name, .x500Name,
    .ipAddress, .dnsName]

namespace Value

/-- Whether the parts of a value of an exact type fit together. -/
def IsWellFormed : Value → Prop
  | .anyUri s => ∀ c ∈ s.toList, Text.isBlank c = false
  | .rfc822Name m => m.IsWellFormed
  | .x500Name n => n.IsWellFormed
  | .ipAddress e => e.IsWellFormed
  | .dnsName e => e.IsWellFormed
  | _ => True

theorem readInteger_signedDigits (i : Int64) : readInteger (Text.signedDigits i.toInt) = .ok i := by
  have hlow := i.le_toInt
  have hhigh := i.toInt_lt
  rw [readInteger, Text.readSigned_signedDigits (by omega) (by omega)]
  simp

theorem readUri_of_noBlank {s : String} (h : ∀ c ∈ s.toList, Text.isBlank c = false) :
    readUri s.toList = .ok s := by
  simpa [readUri] using h

/-- What is read as a value of an exact type is of that type and well formed. -/
theorem wellFormed_of_readAs {t : DataType} (ht : t ∈ DataType.exact) {s : List Char} {v : Value}
    (h : readAs t s = .ok v) : v.dataType = t ∧ v.IsWellFormed := by
  cases t with
  | double | date | time | dateTime | dayTimeDuration | yearMonthDuration =>
    exact absurd ht (by decide)
  | string =>
    obtain rfl := Except.ok.inj h
    exact ⟨rfl, trivial⟩
  | boolean | integer | hexBinary | base64Binary =>
    obtain ⟨a, -, rfl⟩ := Except.map_eq_ok_iff.1 h
    exact ⟨rfl, trivial⟩
  | anyUri =>
    obtain ⟨a, ha, rfl⟩ := Except.map_eq_ok_iff.1 h
    refine ⟨rfl, ?_⟩
    unfold readUri at ha
    split at ha
    case isTrue => simp at ha
    case isFalse hblank =>
      obtain rfl := Except.ok.inj ha
      simpa [IsWellFormed] using hblank
  | rfc822Name =>
    obtain ⟨m, hm, rfl⟩ := Except.map_eq_ok_iff.1 h
    exact ⟨rfl, Mailbox.wellFormed_of_read (Except.mapError_eq_ok_iff.1 hm)⟩
  | x500Name =>
    obtain ⟨n, hn, rfl⟩ := Except.map_eq_ok_iff.1 h
    exact ⟨rfl, DistinguishedName.wellFormed_of_read (Except.mapError_eq_ok_iff.1 hn)⟩
  | ipAddress =>
    obtain ⟨e, he, rfl⟩ := Except.map_eq_ok_iff.1 h
    exact ⟨rfl, IpEndpoint.wellFormed_of_read (Except.mapError_eq_ok_iff.1 he)⟩
  | dnsName =>
    obtain ⟨e, he, rfl⟩ := Except.map_eq_ok_iff.1 h
    exact ⟨rfl, HostEndpoint.wellFormed_of_read (Except.mapError_eq_ok_iff.1 he)⟩

/-- **A well-formed value of an exact type is read back.** -/
theorem readAs_chars {v : Value} (ht : v.dataType ∈ DataType.exact) (h : v.IsWellFormed) :
    readAs v.dataType v.chars = .ok v := by
  cases v with
  | double | date | time | dateTime | dayTimeDuration | yearMonthDuration =>
    exact absurd ht (by simp [dataType, DataType.exact])
  | string s => simp [readAs, dataType, chars]
  | boolean b => cases b <;> rfl
  | integer i => rw [dataType, readAs, chars, readInteger_signedDigits]; rfl
  | anyUri s => rw [dataType, readAs, chars, readUri_of_noBlank h]; rfl
  | hexBinary bytes => rw [dataType, readAs, chars, Text.Hex.decode_encode]; rfl
  | base64Binary bytes => rw [dataType, readAs, chars, Text.Base64.decode_encode]; rfl
  | rfc822Name m => rw [dataType, readAs, chars, Mailbox.read_render h]; rfl
  | x500Name n =>
    rw [IsWellFormed, DistinguishedName.IsWellFormed] at h
    rw [dataType, readAs, chars, DistinguishedName.render, h]
    rfl
  | ipAddress e => rw [dataType, readAs, chars, IpEndpoint.read_render h]; rfl
  | dnsName e => rw [dataType, readAs, chars, HostEndpoint.read_render h]; rfl

/-- A value of an exact type is the same as itself. -/
theorem beq_self_of_exact {v : Value} (ht : v.dataType ∈ DataType.exact) : (v == v) = true := by
  change v.same v = true
  cases v with
  | double | date | time | dateTime | dayTimeDuration | yearMonthDuration =>
    exact absurd ht (by simp [dataType, DataType.exact])
  | rfc822Name m =>
    change (m.localPart == m.localPart && Mailbox.sameDomain m.domain m.domain) = true
    simp [Mailbox.sameDomain]
  | x500Name n =>
    change (n.hashKey == n.hashKey) = true
    exact beq_self_eq_true _
  | _ => exact beq_self_eq_true _

/-- **The round trip of the exact types.** The canonical text of a value that was read is read again
as an equal value with the same canonical text. The values to which this applies are the well-formed
ones: every one of them is read from some text, and no others are. -/
theorem exact_round_trip {t : DataType} (ht : t ∈ DataType.exact) :
    (∀ s v, read t s = .ok v →
      ∃ w, read t v.render = .ok w ∧ (w == v) = true ∧ w.render = v.render) ∧
    ∀ v, (∃ s, read t s = .ok v) ↔ v.dataType = t ∧ v.IsWellFormed := by
  have hback : ∀ v, v.dataType = t → v.IsWellFormed → read t v.render = .ok v := by
    rintro v rfl hv
    rw [read_render, readAs_chars ht hv]
    rfl
  have hformed : ∀ s v, read t s = .ok v → v.dataType = t ∧ v.IsWellFormed := fun s v h =>
    wellFormed_of_readAs ht (read_ok_iff.1 h)
  refine ⟨fun s v h => ?_, fun v => ⟨fun ⟨s, h⟩ => hformed s v h, fun ⟨hv, hw⟩ => ?_⟩⟩
  · obtain ⟨hv, hw⟩ := hformed s v h
    exact ⟨v, hback v hv hw, beq_self_of_exact (hv ▸ ht), rfl⟩
  · exact ⟨v.render, hback v hv hw⟩

/-- An address with two runs of zeros, of which the longer is left out, a mask in capitals, and
ports with a zero and a plus sign in front. -/
theorem exact_round_trip_endpoint :
    ∃ v w, read .ipAddress "[1:0:0:2:0:0:0:3]/[FFFF::]:080-+443" = .ok v ∧
      v.render = "[1:0:0:2::3]/[ffff::]:80-443" ∧
      read .ipAddress "[1:0:0:2::3]/[ffff::]:80-443" = .ok w ∧ (w == v) = true ∧
      w.render = v.render := by
  obtain ⟨v, hv⟩ : ∃ v, read .ipAddress "[1:0:0:2:0:0:0:3]/[FFFF::]:080-+443" = .ok v := ⟨_, rfl⟩
  have hrender : v.render = "[1:0:0:2::3]/[ffff::]:80-443" := by
    obtain rfl := Except.ok.inj hv
    rfl
  obtain ⟨w, hw, heq, htext⟩ := (exact_round_trip (t := .ipAddress) (by decide)).1 _ v hv
  exact ⟨v, w, hv, hrender, hrender ▸ hw, heq, htext⟩

end Value

end Abac
