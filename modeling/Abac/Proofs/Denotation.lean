import Abac.Proofs.Comparing

/-!
# What values denote

Two values are equal in the sense of functions if they denote the same thing: two
instants the same point of time, two mailboxes the same mailbox whatever the case
of the domain, two doubles the same place in their order. What a value denotes is
said here once (`Value.denotes`), and equality is nothing but equality of
denotations (`Value.equals_eq_true_iff`). So it is an equivalence on all values
that can be compared.

A date, a time or an instant denotes a point on one of two time lines, the
universal one or the local one, and only points on the same line can be compared.
Where no two values mix the lines, comparing them always comes to the answer that
the denotations give (`Value.equals_eq_decide`).

The same goes for the loops that look for values among others. A loop that comes
to an answer gives the one that the denotations give, whether or not there are
values that it could not have compared (`hasEqual_eq_ok`, `allHaveEqual_eq_ok`,
`someHasEqual_eq_ok`). It does come to one if no two values mix.
-/

namespace Abac

/-- What a value denotes. Types whose values have the same form are kept apart by name. -/
inductive Denotation where
  | text (t : DataType) (s : String)
  | truth (b : Bool)
  | integer (i : Int64)
  /-- A place in the order of doubles. -/
  | double (key : Int)
  /-- A point of universal time, or of local time. -/
  | moment (t : DataType) (universal : Bool) (p : Point)
  | days (d : DayTimeDuration)
  | months (d : YearMonthDuration)
  | octets (t : DataType) (bytes : List UInt8)
  | mailbox (localPart domain : List Char)
  | distinguishedName (names : List (List Char))
  | address (e : IpEndpoint)
  | host (e : HostEndpoint)
  deriving DecidableEq

/-! ## Points of time -/

theorem Point.cmp_eq_eq_iff {p q : Point} : p.cmp q = .eq ↔ p = q := by
  obtain ⟨d, s, n⟩ := p
  obtain ⟨d', s', n'⟩ := q
  simp [cmp, Ordering.then_eq_eq]

namespace Temporal

/-- The point of time that a local point with an optional zone stands for. -/
def instant (a : Zoned Point) : Point :=
  match a.offset with
  | some o => toUniversal a.wall o
  | none => a.wall

theorem cmpZoned_eq_eq_iff {a b : Zoned Point} :
    cmpZoned a b = some .eq ↔ a.offset.isSome = b.offset.isSome ∧ instant a = instant b := by
  obtain ⟨p, o⟩ := a
  obtain ⟨q, o'⟩ := b
  cases o <;> cases o' <;> simp [cmpZoned, instant, Point.cmp_eq_eq_iff]

end Temporal

/-! ## Values -/

namespace Value

/-- The denotation of a date, a time or an instant with the point of time `a`. -/
def moment (t : DataType) (a : Zoned Point) : Denotation :=
  .moment t a.offset.isSome (Temporal.instant a)

/-- What a value denotes. -/
def denotes : Value → Denotation
  | .string s => .text .string s
  | .boolean b => .truth b
  | .integer i => .integer i
  | .double d => .double d.orderKey
  | .date d => moment .date (Date.point d)
  | .time t => moment .time (Time.point t)
  | .dateTime d => moment .dateTime (DateTime.point d)
  | .dayTimeDuration d => .days d
  | .yearMonthDuration d => .months d
  | .anyUri s => .text .anyUri s
  | .hexBinary bytes => .octets .hexBinary bytes
  | .base64Binary bytes => .octets .base64Binary bytes
  | .rfc822Name m => .mailbox m.hashKey.1 m.hashKey.2
  | .x500Name n => .distinguishedName n.hashKey
  | .ipAddress e => .address e
  | .dnsName e => .host e

theorem dataType_denotes {v w : Value} (h : v.denotes = w.denotes) : v.dataType = w.dataType := by
  cases v <;> cases w <;> first | rfl | cases h

/-- Outside the time lines, the parts that are compared are those that are denoted. -/
theorem same_iff {v w : Value} (h : v.dataType = w.dataType) (ht : v.isTemporal = false) :
    v.same w = true ↔ v.denotes = w.denotes := by
  cases v with
  | date d => cases ht
  | time t => cases ht
  | dateTime d => cases ht
  | double a =>
      cases w with
      | double b => simp [same, denotes, Double.cmp]
      | _ => cases h
  | rfc822Name m =>
      cases w with
      | rfc822Name n =>
          show (m.localPart == n.localPart && Mailbox.sameDomain m.domain n.domain) = true ↔ _
          simp [Mailbox.sameDomain, denotes, Mailbox.hashKey]
      | _ => cases h
  | x500Name m =>
      cases w with
      | x500Name n =>
          show (m.hashKey == n.hashKey) = true ↔ _
          simp [denotes]
      | _ => cases h
  | _ => cases w <;> first | (cases h; done) | simp [same, denotes]

theorem ofZoned_map_eq_true_iff {t : DataType} {a b : Zoned Point} :
    (ofZoned (Temporal.cmpZoned a b)).map (· == .eq) = .ok true ↔ moment t a = moment t b := by
  have hc := Temporal.cmpZoned_eq_eq_iff (a := a) (b := b)
  rw [moment, moment, Denotation.moment.injEq, eq_self, true_and, ← hc]
  cases Temporal.cmpZoned a b <;> simp [ofZoned, Except.map]

/-- On the time lines, the order finds those values equal that denote the same point. -/
theorem compare_map_eq_true_iff {v w : Value} (h : v.dataType = w.dataType)
    (ht : v.isTemporal = true) :
    (v.compare w).map (· == .eq) = .ok true ↔ v.denotes = w.denotes := by
  cases v with
  | date a =>
      cases w with
      | date b => exact ofZoned_map_eq_true_iff
      | _ => cases h
  | time a =>
      cases w with
      | time b => exact ofZoned_map_eq_true_iff
      | _ => cases h
  | dateTime a =>
      cases w with
      | dateTime b => exact ofZoned_map_eq_true_iff
      | _ => cases h
  | _ => cases ht

/-- **Values are equal if they denote the same.** -/
theorem equals_eq_true_iff {v w : Value} : v.equals w = .ok true ↔ v.denotes = w.denotes := by
  by_cases h : v.dataType = w.dataType
  · rw [equals, if_pos h]
    cases ht : v.isTemporal with
    | true => exact compare_map_eq_true_iff h ht
    | false =>
        rw [← same_iff h ht]
        exact ⟨Except.ok.inj, congrArg _⟩
  · rw [equals, if_neg h]
    refine iff_of_false ?_ fun he => h (dataType_denotes he)
    intro he
    cases he

/-- Values of one type that are on one time line are compared, and the denotations tell. -/
theorem equals_eq_decide {v w : Value} (h : v.dataType = w.dataType) (hm : ¬ v.Mixed w) :
    v.equals w = .ok (decide (v.denotes = w.denotes)) := by
  cases he : v.equals w with
  | error e =>
      have hh := halts_equals_iff ⟨""⟩ h
      rw [he] at hh
      exact absurd (hh.mp (halts_complain _ _)) hm
  | ok b =>
      have ht := equals_eq_true_iff (v := v) (w := w)
      rw [he, Except.ok.injEq] at ht
      exact congrArg Except.ok (Bool.eq_iff_iff.mpr (ht.trans decide_eq_true_iff.symm))

end Value

/-! ## Searches -/

/-- What the values of a list denote. -/
def denotations (vs : List Value) : List Denotation := vs.map Value.denotes

section

variable {v w : Value} {ms vs other : List Value} {t : DataType} {b : Bool}

theorem mem_denotations_iff : v.denotes ∈ denotations ms ↔ ∃ m ∈ ms, m.equals v = .ok true := by
  simp only [denotations, List.mem_map, Value.equals_eq_true_iff]

theorem Meets.mem (h : Meets v ms w) : w ∈ ms := by
  obtain ⟨pre, post, rfl, -⟩ := h
  exact List.mem_append_right pre List.mem_cons_self

variable (id : Identifier)

/-- A search that comes to an answer is right. -/
theorem hasEqual_eq_ok (h : hasEqual id v ms = .ok b) :
    b = true ↔ v.denotes ∈ denotations ms := by
  rw [mem_denotations_iff]
  cases b with
  | true =>
      obtain ⟨w, hw, he⟩ := (hasEqual_eq_true_iff id).mp h
      exact iff_of_true rfl ⟨w, hw.mem, he⟩
  | false =>
      have hn := (hasEqual_eq_false_iff id).mp h
      refine iff_of_false Bool.false_ne_true fun ⟨m, hm, he⟩ => ?_
      rw [hn m hm] at he
      cases he

/-- A search among values that do not mix with the one looked for comes to an answer. -/
theorem hasEqual_eq_decide (ht : ∀ m ∈ ms, m.dataType = v.dataType) (hm : ∀ m ∈ ms, ¬ m.Mixed v) :
    hasEqual id v ms = .ok (decide (v.denotes ∈ denotations ms)) := by
  have hn : ¬ Halts (hasEqual id v ms) := by
    rw [halts_hasEqual_iff id ht]
    exact fun ⟨w, hw, hmix⟩ => hm w hw.mem hmix
  obtain ⟨b, hb⟩ := not_halts_iff.mp hn
  rw [hb, Except.ok.injEq, Bool.eq_iff_iff, decide_eq_true_iff]
  exact hasEqual_eq_ok id hb

theorem allHaveEqual_eq_ok (h : allHaveEqual id other vs = .ok b) :
    b = true ↔ denotations vs ⊆ denotations other := by
  induction vs with
  | nil =>
      cases h
      exact iff_of_true rfl (List.nil_subset _)
  | cons v rest ih =>
      rw [denotations, List.map_cons, List.cons_subset, ← denotations]
      rw [allHaveEqual] at h
      cases he : hasEqual id v other with
      | error e =>
          rw [he] at h
          cases h
      | ok found =>
          have hf := hasEqual_eq_ok id he
          rw [he] at h
          cases found with
          | true => exact (ih h).trans (and_iff_right (hf.mp rfl)).symm
          | false =>
              cases h
              exact iff_of_false Bool.false_ne_true fun hs => Bool.false_ne_true (hf.mpr hs.1)

theorem someHasEqual_eq_ok (h : someHasEqual id other vs = .ok b) :
    b = true ↔ ∃ d ∈ denotations vs, d ∈ denotations other := by
  induction vs with
  | nil =>
      cases h
      exact iff_of_false Bool.false_ne_true fun ⟨d, hd, _⟩ => List.not_mem_nil hd
  | cons v rest ih =>
      simp only [denotations, List.map_cons, List.mem_cons, or_and_right, exists_or, exists_eq_left]
      rw [← denotations, ← denotations]
      rw [someHasEqual] at h
      cases he : hasEqual id v other with
      | error e =>
          rw [he] at h
          cases h
      | ok found =>
          have hf := hasEqual_eq_ok id he
          rw [he] at h
          cases found with
          | true =>
              cases h
              exact iff_of_true rfl (.inl (hf.mp rfl))
          | false =>
              have hn : ¬ v.denotes ∈ denotations other :=
                fun hd => Bool.false_ne_true (hf.mpr hd)
              exact (ih h).trans (or_iff_right hn).symm

/-- The values of one list are nowhere mixed with those of another. -/
def Unmixed (vs other : List Value) : Prop := ∀ v ∈ vs, ∀ m ∈ other, ¬ m.Mixed v

theorem Unmixed.symm (h : Unmixed vs other) : Unmixed other vs :=
  fun m hm v hv hmix => h v hv m hm hmix.symm

theorem not_halts_allHaveEqual (ho : ∀ m ∈ other, m.dataType = t) (hv : ∀ v ∈ vs, v.dataType = t)
    (hu : Unmixed vs other) : ¬ Halts (allHaveEqual id other vs) := by
  rw [(halts_allHaveEqual_iff id ho hv).trans SetOperation.stops_iff]
  rintro ⟨v, w, ⟨pre, post, out, rfl, -, hw⟩, hm⟩
  exact hu v (List.mem_append_right pre List.mem_cons_self) w (Meets.mem hw) hm

theorem not_halts_someHasEqual (ho : ∀ m ∈ other, m.dataType = t) (hv : ∀ v ∈ vs, v.dataType = t)
    (hu : Unmixed vs other) : ¬ Halts (someHasEqual id other vs) := by
  rw [(halts_someHasEqual_iff id ho hv).trans SetOperation.stops_iff]
  rintro ⟨v, w, ⟨pre, post, out, rfl, -, hw⟩, hm⟩
  exact hu v (List.mem_append_right pre List.mem_cons_self) w (Meets.mem hw) hm

end

end Abac
