import Abac.Proofs.Endpoints

/-!
# The grammar of port ranges

A port range is written in one of five ways: a port, a port with a hyphen behind it or in front of
it, two ports in order with a hyphen between them, or a hyphen alone (`PortRange.Written`). The
first hyphen of a text tells these apart, because no port has one.

A port is a run of digits. The reader takes a plus sign in front of them as well, which is the only
thing that it reads beyond the grammar: without plus signs, the texts that are read are those that
are meant (`written_isPort_iff`).

Ports stand behind a colon after a host name or an address. Host names and addresses of version 4
have no colon, so the first one of the text announces the ports. Addresses of version 6 have colons,
but only inside the brackets, which the reader has passed when it looks for the ports.
-/

namespace Abac

open Text

namespace PortRange

/-! ## Ports -/

/-- Digits that denote a port. -/
structure IsPort (s : List Char) (p : UInt16) : Prop where
  nonempty : s ≠ []
  digits : ∀ c ∈ s, c.isDigit = true
  value : ofDigits s = p.toNat

/-- Digits that denote a port, with or without a plus sign in front of them. -/
inductive SignedPort : List Char → UInt16 → Prop
  | plain {s : List Char} {p : UInt16} (h : IsPort s p) : SignedPort s p
  | plus {s : List Char} {p : UInt16} (h : IsPort s p) : SignedPort ('+' :: s) p

theorem IsPort.not_mem {s : List Char} {p : UInt16} (h : IsPort s p) {c : Char}
    (hc : c.isDigit = false) : c ∉ s := by
  intro hmem
  rw [h.digits c hmem] at hc
  cases hc

theorem SignedPort.ne_nil {s : List Char} {p : UInt16} (h : SignedPort s p) : s ≠ [] := by
  cases h with
  | plain h => exact h.nonempty
  | plus h => exact List.cons_ne_nil _ _

theorem SignedPort.not_mem {s : List Char} {p : UInt16} (h : SignedPort s p) {c : Char}
    (hc : c.isDigit = false) (hplus : c ≠ '+') : c ∉ s := by
  cases h with
  | plain h => exact h.not_mem hc
  | plus h => exact List.not_mem_cons_of_ne_of_not_mem hplus (h.not_mem hc)

/-- The ports that are meant are the signed ones without a plus sign. -/
theorem isPort_iff {s : List Char} {p : UInt16} : IsPort s p ↔ SignedPort s p ∧ '+' ∉ s := by
  refine ⟨fun h => ⟨.plain h, h.not_mem (by decide)⟩, fun h => ?_⟩
  obtain ⟨h, hplus⟩ := h
  cases h with
  | plain h => exact h
  | plus h => exact absurd List.mem_cons_self hplus

theorem readBounded_eq_toNat_iff {s : List Char} {p : UInt16} :
    readBounded 65535 s = some p.toNat ↔ IsPort s p := by
  have hbound : p.toNat ≤ 65535 := Nat.le_of_lt_succ p.toNat_lt
  rw [readBounded_eq_some_iff, isNumeral_iff]
  exact ⟨fun h => ⟨h.1.1, h.1.2, h.2.1⟩, fun h => ⟨⟨h.nonempty, h.digits⟩, h.value, hbound⟩⟩

theorem readUnsigned_eq_toNat_iff {s : List Char} {p : UInt16} :
    readUnsigned 65535 s = some p.toNat ↔ SignedPort s p := by
  simp only [readUnsigned_eq_some_iff, readBounded_eq_toNat_iff]
  refine ⟨fun h => ?_, fun h => ?_⟩
  · rcases h with h | ⟨r, rfl, h⟩
    · exact .plain h
    · exact .plus h
  · cases h with
    | plain h => exact .inl h
    | plus h => exact .inr ⟨_, rfl, h⟩

/-! ## Bounds -/

/-- **A bound** is a port or nothing. -/
theorem readBound_eq_ok_iff {s : List Char} {b : Option UInt16} :
    readBound s = .ok b ↔ (s = [] ∧ b = none) ∨ ∃ p, SignedPort s p ∧ b = some p := by
  unfold readBound
  by_cases hs : s = []
  · subst hs
    have hno : ¬∃ p, SignedPort [] p ∧ b = some p := fun ⟨p, hp, _⟩ => hp.ne_nil rfl
    simp [hno, eq_comm]
  · rw [if_neg (by simpa using hs)]
    simp only [hs, false_and, false_or]
    cases hread : readUnsigned 65535 s with
    | none =>
        refine iff_of_false nofun fun h => ?_
        obtain ⟨p, hp, -⟩ := h
        rw [readUnsigned_eq_toNat_iff.mpr hp] at hread
        cases hread
    | some n =>
        -- a number within the bound is the number of a port
        have hle : n ≤ 65535 := by
          rcases readUnsigned_eq_some_iff.mp hread with h | ⟨_, _, h⟩
          · exact (readBounded_eq_some_iff.mp h).2.2
          · exact (readBounded_eq_some_iff.mp h).2.2
        have hn : (UInt16.ofNat n).toNat = n :=
          UInt16.toNat_ofNat_of_lt' (by simp only [UInt16.size]; omega)
        have hport : ∀ p, SignedPort s p ↔ p = UInt16.ofNat n := by
          intro p
          rw [← readUnsigned_eq_toNat_iff, hread, Option.some.injEq, ← UInt16.toNat_inj, hn]
          exact eq_comm
        simp only [hport, exists_eq_left, Except.ok.injEq]
        exact eq_comm

theorem isOrdered_iff {r : PortRange} :
    r.isOrdered = true ↔ ∀ l ∈ r.low, ∀ h ∈ r.high, l ≤ h := by
  obtain ⟨low, high⟩ := r
  cases low <;> cases high <;> simp [isOrdered]

/-- **A port lies in a range** if neither bound that there is excludes it. -/
theorem contains_iff {r : PortRange} {p : UInt16} :
    r.contains p = true ↔ (∀ l ∈ r.low, l ≤ p) ∧ ∀ h ∈ r.high, p ≤ h := by
  obtain ⟨low, high⟩ := r
  cases low <;> cases high <;> simp [contains]

/-! ## Ranges -/

/-- The text of a port range, where `Port` says what the text of a port is. -/
inductive Written (Port : List Char → UInt16 → Prop) : List Char → PortRange → Prop
  | single {s : List Char} {p : UInt16} (h : Port s p) : Written Port s ⟨some p, some p⟩
  | upwards {s : List Char} {p : UInt16} (h : Port s p) : Written Port (s ++ ['-']) ⟨some p, none⟩
  | downwards {s : List Char} {p : UInt16} (h : Port s p) : Written Port ('-' :: s) ⟨none, some p⟩
  | between {s t : List Char} {low high : UInt16} (hlow : Port s low) (hhigh : Port t high)
      (hle : low ≤ high) : Written Port (s ++ '-' :: t) ⟨some low, some high⟩
  | all : Written Port ['-'] ⟨none, none⟩

theorem readBounds_of_cut {s a b : List Char} (hcut : cutFirst '-' s = some (a, b))
    {r : PortRange} :
    readBounds s = .ok r ↔ readBound a = .ok r.low ∧ readBound b = .ok r.high := by
  unfold readBounds
  rw [hcut]
  simp only [Except.bind_eq_ok_iff]
  refine ⟨fun h => ?_, fun h => ⟨r.low, h.1, r.high, h.2, rfl⟩⟩
  obtain ⟨low, hlow, high, hhigh, hr⟩ := h
  obtain rfl := Except.ok.inj hr
  exact ⟨hlow, hhigh⟩

theorem readBounds_of_no_hyphen {s : List Char} (hs : '-' ∉ s) {r : PortRange} :
    readBounds s = .ok r ↔ ∃ p, SignedPort s p ∧ r = ⟨some p, some p⟩ := by
  unfold readBounds
  rw [cutFirst_eq_none_iff.mpr hs]
  simp only [Except.bind_eq_ok_iff]
  refine ⟨fun h => ?_, fun h => ?_⟩
  · obtain ⟨b, hb, hr⟩ := h
    rcases readBound_eq_ok_iff.mp hb with ⟨-, rfl⟩ | ⟨p, hp, rfl⟩
    · exact absurd hr (Except.throw_ne_ok _ _)
    · exact ⟨p, hp, (Except.ok.inj hr).symm⟩
  · obtain ⟨p, hp, rfl⟩ := h
    exact ⟨some p, readBound_eq_ok_iff.mpr (.inr ⟨p, hp, rfl⟩), rfl⟩

theorem Written.readBounds {s : List Char} {r : PortRange} (h : Written SignedPort s r) :
    readBounds s = .ok r ∧ r.isOrdered = true := by
  have hno : ∀ {s p}, SignedPort s p → '-' ∉ s := fun h => h.not_mem (by decide) (by decide)
  have hport : ∀ {s p}, SignedPort s p → readBound s = .ok (some p) := fun h =>
    readBound_eq_ok_iff.mpr (.inr ⟨_, h, rfl⟩)
  cases h with
  | single h =>
      exact ⟨(readBounds_of_no_hyphen (hno h)).mpr ⟨_, h, rfl⟩, isOrdered_iff.mpr (by simp)⟩
  | upwards h =>
      exact ⟨(readBounds_of_cut (cutFirst_append [] (hno h))).mpr ⟨hport h, readBound_nil⟩, rfl⟩
  | downwards h =>
      exact ⟨(readBounds_of_cut (a := []) (by simp [cutFirst])).mpr ⟨readBound_nil, hport h⟩, rfl⟩
  | between hlow hhigh hle =>
      exact ⟨(readBounds_of_cut (cutFirst_append _ (hno hlow))).mpr ⟨hport hlow, hport hhigh⟩,
        isOrdered_iff.mpr (by simpa using hle)⟩
  | all => exact ⟨rfl, rfl⟩

theorem written_of_readBounds {s : List Char} {r : PortRange} (h : readBounds s = .ok r)
    (ho : r.isOrdered = true) : Written SignedPort s r := by
  cases hcut : cutFirst '-' s with
  | none =>
      obtain ⟨p, hp, rfl⟩ := (readBounds_of_no_hyphen (cutFirst_eq_none_iff.mp hcut)).mp h
      exact .single hp
  | some ab =>
      obtain ⟨a, b⟩ := ab
      obtain ⟨hlow, hhigh⟩ := (readBounds_of_cut hcut).mp h
      obtain ⟨rfl, -⟩ := cutFirst_eq_some hcut
      obtain ⟨low, high⟩ := r
      -- a bound is missing where no text is
      rcases readBound_eq_ok_iff.mp hlow with ⟨rfl, rfl⟩ | ⟨p, hp, rfl⟩
      · rcases readBound_eq_ok_iff.mp hhigh with ⟨rfl, rfl⟩ | ⟨q, hq, rfl⟩
        · exact .all
        · exact .downwards hq
      · rcases readBound_eq_ok_iff.mp hhigh with ⟨rfl, rfl⟩ | ⟨q, hq, rfl⟩
        · exact .upwards hp
        · exact .between hp hq (isOrdered_iff.mp ho p rfl q rfl)

/-- **The texts that are read as port ranges.** -/
theorem read_eq_ok_iff {s : List Char} {r : PortRange} :
    read s = .ok r ↔ Written SignedPort s r := by
  unfold read
  simp only [Except.bind_eq_ok_iff, Except.ite_throw_eq_ok_iff]
  refine ⟨fun h => ?_, fun h => ⟨r, h.readBounds.1, h.readBounds.2, rfl⟩⟩
  obtain ⟨range, hread, ho, hr⟩ := h
  obtain rfl := Except.ok.inj hr
  exact written_of_readBounds hread ho

/-! ## Ranges without plus signs -/

/-- **The texts of the grammar** are those that are read and have no plus sign. -/
theorem written_isPort_iff {s : List Char} {r : PortRange} :
    Written IsPort s r ↔ Written SignedPort s r ∧ '+' ∉ s := by
  refine ⟨fun h => ?_, fun h => ?_⟩
  · cases h with
    | single h =>
        obtain ⟨h, hplus⟩ := isPort_iff.mp h
        exact ⟨.single h, hplus⟩
    | upwards h =>
        obtain ⟨h, hplus⟩ := isPort_iff.mp h
        exact ⟨.upwards h, by simp [hplus]⟩
    | downwards h =>
        obtain ⟨h, hplus⟩ := isPort_iff.mp h
        exact ⟨.downwards h, by simp [hplus]⟩
    | between hlow hhigh hle =>
        obtain ⟨hlow, hplus⟩ := isPort_iff.mp hlow
        obtain ⟨hhigh, hplus'⟩ := isPort_iff.mp hhigh
        exact ⟨.between hlow hhigh hle, by simp [hplus, hplus']⟩
    | all => exact ⟨.all, by decide⟩
  · obtain ⟨h, hplus⟩ := h
    cases h with
    | single h => exact .single (isPort_iff.mpr ⟨h, hplus⟩)
    | upwards h => exact .upwards (isPort_iff.mpr ⟨h, fun hm => hplus (by simp [hm])⟩)
    | downwards h => exact .downwards (isPort_iff.mpr ⟨h, fun hm => hplus (by simp [hm])⟩)
    | between hlow hhigh hle =>
        exact .between (isPort_iff.mpr ⟨hlow, fun hm => hplus (by simp [hm])⟩)
          (isPort_iff.mpr ⟨hhigh, fun hm => hplus (by simp [hm])⟩) hle
    | all => exact .all

/-! ## Ports behind names and addresses -/

/-- A text with the ports behind it: nothing, or a colon and the text of a port range. -/
inductive WithPorts (body : List Char) : List Char → Option PortRange → Prop
  | absent : WithPorts body body none
  | present {t : List Char} {r : PortRange} (h : Written SignedPort t r) :
      WithPorts body (body ++ ':' :: t) (some r)

theorem WithPorts.append {body s : List Char} {ports : Option PortRange}
    (h : WithPorts [] s ports) : WithPorts body (body ++ s) ports := by
  cases h with
  | absent => simpa using WithPorts.absent
  | present h => exact .present h

theorem WithPorts.exists_suffix {body s : List Char} {ports : Option PortRange}
    (h : WithPorts body s ports) : ∃ u, s = body ++ u ∧ WithPorts [] u ports := by
  cases h with
  | absent => exact ⟨[], (List.append_nil body).symm, .absent⟩
  | present h => exact ⟨_, rfl, .present h⟩

theorem WithPorts.eq_of_none {body s : List Char} (h : WithPorts body s none) : s = body := by
  cases h
  rfl

/-- A text that does not start with a colon starts as it does without ports. -/
theorem WithPorts.head?_eq_iff {body s : List Char} {ports : Option PortRange}
    (h : WithPorts body s ports) {c : Char} (hc : c ≠ ':') :
    s.head? = some c ↔ body.head? = some c := by
  cases h with
  | absent => exact Iff.rfl
  | present =>
      cases body with
      | nil => simpa using hc.symm
      | cons => exact Iff.rfl

end PortRange

namespace HostEndpoint

theorem read_of_no_colon {s : List Char} (hs : ':' ∉ s) {e : HostEndpoint} :
    read s = .ok e ↔ isHost s = true ∧ e = ⟨s, none⟩ := by
  unfold read
  rw [cutFirst_eq_none_iff.mpr hs]
  refine Except.ite_throw_eq_ok_iff.trans (and_congr_right fun _ => ?_)
  exact ⟨fun h => (Except.ok.inj h).symm, fun h => congrArg Except.ok h.symm⟩

theorem read_of_cut {s a b : List Char} (hcut : cutFirst ':' s = some (a, b)) {e : HostEndpoint} :
    read s = .ok e ↔ isHost a = true ∧ ∃ r, PortRange.read b = .ok r ∧ e = ⟨a, some r⟩ := by
  unfold read
  rw [hcut]
  cases hread : PortRange.read b with
  | error f =>
      refine iff_of_false (fun h => ?_) fun h => ?_
      · obtain ⟨ports, hports, -⟩ := Except.bind_eq_ok_iff.mp h
        simp [hread, throw, throwThe, MonadExceptOf.throw, Functor.map, Except.map] at hports
      · obtain ⟨-, r, hr, -⟩ := h
        cases hr
  | ok r =>
      simp only [Option.mapM_some, hread, Functor.map, Except.map, bind, Except.bind,
        Except.ite_throw_eq_ok_iff, Except.ok.injEq, exists_eq_left']
      refine and_congr_right fun _ => ?_
      exact ⟨fun h => (Except.ok.inj h).symm, fun h => congrArg Except.ok h.symm⟩

/-- **The host names that are read, with their ports.** -/
theorem read_eq_ok_iff {s : List Char} {e : HostEndpoint} :
    read s = .ok e ↔ isHost e.host = true ∧ PortRange.WithPorts e.host s e.ports := by
  refine ⟨fun h => ?_, fun h => ?_⟩
  · cases hcut : cutFirst ':' s with
    | none =>
        obtain ⟨hhost, rfl⟩ := (read_of_no_colon (cutFirst_eq_none_iff.mp hcut)).mp h
        exact ⟨hhost, .absent⟩
    | some ab =>
        obtain ⟨a, b⟩ := ab
        obtain ⟨hhost, r, hr, rfl⟩ := (read_of_cut hcut).mp h
        obtain ⟨rfl, -⟩ := cutFirst_eq_some hcut
        exact ⟨hhost, .present (PortRange.read_eq_ok_iff.mp hr)⟩
  · obtain ⟨host, ports⟩ := e
    obtain ⟨hhost, hports⟩ := h
    have hno : ':' ∉ host := not_mem_of_isHost hhost
    cases hports with
    | absent => exact (read_of_no_colon hno).mpr ⟨hhost, rfl⟩
    | present h =>
        exact (read_of_cut (cutFirst_append _ hno)).mpr
          ⟨hhost, _, PortRange.read_eq_ok_iff.mpr h, rfl⟩

end HostEndpoint

namespace IpEndpoint

theorem readPorts_eq_ok_iff {s : List Char} {r : PortRange} :
    readPorts s = .ok r ↔ PortRange.Written PortRange.SignedPort s r := by
  rw [← PortRange.read_eq_ok_iff, readPorts]
  cases PortRange.read s with
  | error f => simp
  | ok q => rw [Except.ok.injEq, Except.ok.injEq]

/-! ### Version 4 -/

/-- The ports are read apart from what is in front of them. -/
theorem readV4_of_cut {s a b : List Char} (hcut : cutFirst ':' s = some (a, b)) :
    readV4 s = do
      let r ← readPorts b
      let e ← readV4 a
      return { e with ports := some r } := by
  have hno : cutFirst ':' a = none := cutFirst_eq_none_iff.mpr (cutFirst_eq_some hcut).2
  unfold readV4
  rw [hcut, hno]
  cases hb : readPorts b with
  | error f => simp [hb, Functor.map, Except.map, bind, Except.bind]
  | ok r =>
      simp only [hb, Option.mapM_some, Option.mapM_none, Functor.map, Except.map, bind, Except.bind,
        pure, Except.pure]
      cases cutFirst '/' a with
      | none => dsimp only; split <;> rfl
      | some p =>
          dsimp only
          split
          · split <;> rfl
          · rfl

theorem ports_of_no_colon {s : List Char} {e : IpEndpoint} (hs : ':' ∉ s)
    (h : readV4 s = .ok e) : e.ports = none := by
  unfold readV4 at h
  rw [cutFirst_eq_none_iff.mpr hs] at h
  obtain ⟨ports, hports, h⟩ := Except.bind_eq_ok_iff.mp h
  obtain rfl : none = ports := Except.ok.inj hports
  -- whatever the address and the mask are, the endpoint is built without ports
  split at h
  split at h
  case h_2 => exact absurd h (Except.throw_ne_ok _ _)
  case h_1 =>
    split at h
    case h_1 => exact congrArg IpEndpoint.ports (Except.ok.inj h).symm
    case h_2 =>
      split at h
      case h_1 => exact congrArg IpEndpoint.ports (Except.ok.inj h).symm
      case h_2 => exact absurd h (Except.throw_ne_ok _ _)

/-- **The addresses of version 4 that are read, with their ports.** -/
theorem readV4_eq_ok_iff {s : List Char} {e : IpEndpoint} :
    readV4 s = .ok e ↔
      ∃ body, readV4 body = .ok { e with ports := none } ∧ PortRange.WithPorts body s e.ports := by
  refine ⟨fun h => ?_, fun h => ?_⟩
  · cases hcut : cutFirst ':' s with
    | none =>
        have hnone := ports_of_no_colon (cutFirst_eq_none_iff.mp hcut) h
        obtain ⟨address, mask, ports⟩ := e
        obtain rfl : ports = none := hnone
        exact ⟨s, h, .absent⟩
    | some ab =>
        obtain ⟨a, b⟩ := ab
        obtain ⟨rfl, hno⟩ := cutFirst_eq_some hcut
        rw [readV4_of_cut hcut] at h
        obtain ⟨r, hr, h⟩ := Except.bind_eq_ok_iff.mp h
        obtain ⟨front, hfront, h⟩ := Except.bind_eq_ok_iff.mp h
        obtain rfl := Except.ok.inj h
        have hnone := ports_of_no_colon hno hfront
        obtain ⟨address, mask, ports⟩ := front
        obtain rfl : ports = none := hnone
        exact ⟨a, hfront, .present (readPorts_eq_ok_iff.mp hr)⟩
  · obtain ⟨address, mask, ports⟩ := e
    obtain ⟨body, hbody, hports⟩ := h
    cases hports with
    | absent => exact hbody
    | @present t r h =>
        -- a colon in front would have announced other ports
        have hno : ':' ∉ body := by
          cases hcut : cutFirst ':' body with
          | none => exact cutFirst_eq_none_iff.mp hcut
          | some ab =>
              rw [readV4_of_cut hcut] at hbody
              obtain ⟨q, -, hbody⟩ := Except.bind_eq_ok_iff.mp hbody
              obtain ⟨front, -, hbody⟩ := Except.bind_eq_ok_iff.mp hbody
              cases Except.ok.inj hbody
        rw [readV4_of_cut (cutFirst_append _ hno), readPorts_eq_ok_iff.mpr h, hbody]
        rfl

/-! ### Version 6 -/

theorem bracketed_eq_ok_iff {s text rest : List Char} :
    bracketed s = .ok (text, rest) ↔ s = '[' :: text ++ ']' :: rest ∧ ']' ∉ text := by
  refine ⟨fun h => ?_, fun h => ?_⟩
  · unfold bracketed at h
    split at h
    case h_1 r =>
      cases hcut : cutFirst ']' r with
      | none => simp [hcut] at h
      | some p =>
          rw [hcut] at h
          obtain rfl := Except.ok.inj h
          obtain ⟨rfl, hno⟩ := cutFirst_eq_some hcut
          exact ⟨rfl, hno⟩
    case h_2 => cases h
  · obtain ⟨rfl, hno⟩ := h
    simp [bracketed, cutFirst_append rest hno]

theorem takeV6Mask_slash_eq_ok_iff {s rest : List Char} {mask : Option Ip} :
    takeV6Mask ('/' :: s) = .ok (mask, rest) ↔
      ∃ text m, bracketed s = .ok (text, rest) ∧ Ipv6.read? text = some m ∧
        mask = some (.v6 m) := by
  rw [takeV6Mask, Except.bind_eq_ok_iff]
  refine ⟨fun h => ?_, fun h => ?_⟩
  · obtain ⟨⟨text, rest'⟩, hbracketed, hmask⟩ := h
    dsimp only at hmask
    split at hmask
    case h_1 m hread =>
      obtain ⟨rfl, rfl⟩ := Prod.mk.inj (Except.ok.inj hmask)
      exact ⟨text, m, hbracketed, hread, rfl⟩
    case h_2 => exact absurd hmask (Except.throw_ne_ok _ _)
  · obtain ⟨text, m, hbracketed, hread, rfl⟩ := h
    exact ⟨(text, rest), hbracketed, by simp only [hread]; rfl⟩

theorem takeV6Mask_of_no_slash {s : List Char} (hs : s.head? ≠ some '/') :
    takeV6Mask s = .ok (none, s) := by
  unfold takeV6Mask
  split
  case h_1 => exact absurd rfl hs
  case h_2 => rfl

/-- A mask is read in the same way whatever stands behind it. -/
theorem takeV6Mask_front {s rest : List Char} {mask : Option Ip}
    (h : takeV6Mask s = .ok (mask, rest)) :
    ∃ front, s = front ++ rest ∧
      ∀ u : List Char, u.head? ≠ some '/' → takeV6Mask (front ++ u) = .ok (mask, u) := by
  by_cases hs : s.head? = some '/'
  · obtain ⟨s, rfl⟩ := List.head?_eq_some_iff.mp hs
    obtain ⟨text, m, hbracketed, hread, rfl⟩ := takeV6Mask_slash_eq_ok_iff.mp h
    obtain ⟨rfl, hno⟩ := bracketed_eq_ok_iff.mp hbracketed
    refine ⟨'/' :: '[' :: text ++ [']'], by simp, fun u _ => ?_⟩
    have hagain : bracketed ('[' :: text ++ ']' :: u) = .ok (text, u) :=
      bracketed_eq_ok_iff.mpr ⟨rfl, hno⟩
    simpa using takeV6Mask_slash_eq_ok_iff.mpr ⟨text, m, hagain, hread, rfl⟩
  · rw [takeV6Mask_of_no_slash hs] at h
    obtain ⟨rfl, rfl⟩ := Prod.mk.inj (Except.ok.inj h)
    exact ⟨[], rfl, fun u hu => takeV6Mask_of_no_slash hu⟩

/-- An address of version 6, its mask and its ports. -/
theorem readV6_parts {s : List Char} {e : IpEndpoint} :
    readV6 s = .ok e ↔
      ∃ text address rest u, bracketed s = .ok (text, rest) ∧ Ipv6.read? text = some address ∧
        e.address = .v6 address ∧ takeV6Mask rest = .ok (e.mask, u) ∧
        PortRange.WithPorts [] u e.ports := by
  unfold readV6
  simp only [Except.bind_eq_ok_iff]
  refine ⟨fun h => ?_, fun h => ?_⟩
  · obtain ⟨⟨text, rest⟩, hbracketed, hread⟩ := h
    dsimp only at hread
    split at hread
    case h_2 => exact absurd hread (Except.throw_ne_ok _ _)
    case h_1 address haddress =>
      obtain ⟨⟨mask, u⟩, hmask, hports⟩ := Except.bind_eq_ok_iff.mp hread
      dsimp only at hports
      split at hports
      case h_1 =>
        obtain rfl := Except.ok.inj hports
        exact ⟨text, address, rest, _, hbracketed, haddress, rfl, hmask, .absent⟩
      case h_2 p =>
        obtain ⟨r, hr, he⟩ := Except.bind_eq_ok_iff.mp hports
        obtain rfl := Except.ok.inj he
        exact ⟨text, address, rest, _, hbracketed, haddress, rfl, hmask,
          .present (readPorts_eq_ok_iff.mp hr)⟩
      case h_3 => exact absurd hports (Except.throw_ne_ok _ _)
  · obtain ⟨address, mask, ports⟩ := e
    obtain ⟨text, address, rest, u, hbracketed, haddress, rfl, hmask, hports⟩ := h
    refine ⟨(text, rest), hbracketed, ?_⟩
    simp only [haddress, hmask, bind, Except.bind]
    cases hports with
    | absent => rfl
    | present hr =>
        simp only [List.nil_append, readPorts_eq_ok_iff.mpr hr]
        rfl

/-- An address is read in the same way whatever ports stand behind it. -/
theorem readV6_front {s : List Char} {e : IpEndpoint} (h : readV6 s = .ok e) :
    ∃ front u, s = front ++ u ∧ PortRange.WithPorts [] u e.ports ∧
      ∀ u ports, PortRange.WithPorts [] u ports →
        readV6 (front ++ u) = .ok { e with ports := ports } := by
  obtain ⟨text, address, rest, u, hbracketed, haddress, he, hmask, hports⟩ := readV6_parts.mp h
  obtain ⟨rfl, hno⟩ := bracketed_eq_ok_iff.mp hbracketed
  obtain ⟨front, rfl, hfront⟩ := takeV6Mask_front hmask
  refine ⟨'[' :: text ++ ']' :: front, u, by simp, hports, fun u' ports hu' => ?_⟩
  have hslash : u'.head? ≠ some '/' := fun h => by simp [hu'.head?_eq_iff] at h
  have hagain : bracketed ('[' :: text ++ ']' :: (front ++ u')) = .ok (text, front ++ u') :=
    bracketed_eq_ok_iff.mpr ⟨rfl, hno⟩
  rw [List.append_assoc, List.cons_append]
  exact readV6_parts.mpr
    ⟨text, address, front ++ u', u', hagain, haddress, he, hfront u' hslash, hu'⟩

/-- **The addresses of version 6 that are read, with their ports.** -/
theorem readV6_eq_ok_iff {s : List Char} {e : IpEndpoint} :
    readV6 s = .ok e ↔
      ∃ body, readV6 body = .ok { e with ports := none } ∧ PortRange.WithPorts body s e.ports := by
  refine ⟨fun h => ?_, fun h => ?_⟩
  · obtain ⟨front, u, rfl, hports, hfront⟩ := readV6_front h
    exact ⟨front, by simpa using hfront [] none .absent, hports.append⟩
  · obtain ⟨body, hbody, hports⟩ := h
    obtain ⟨front, u, rfl, hnone, hfront⟩ := readV6_front hbody
    -- the address was read without ports, so that nothing stood behind it
    obtain rfl : u = [] := PortRange.WithPorts.eq_of_none hnone
    rw [List.append_nil] at hports
    obtain ⟨u, rfl, hu⟩ := hports.exists_suffix
    exact hfront u e.ports hu

/-! ### Either version -/

/-- **The addresses that are read, with their ports.** -/
theorem read_eq_ok_iff {s : List Char} {e : IpEndpoint} :
    read s = .ok e ↔
      ∃ body, read body = .ok { e with ports := none } ∧ PortRange.WithPorts body s e.ports := by
  unfold read
  -- what stands behind an address does not change which version it is taken for
  by_cases hs : s.head? = some '['
  · rw [if_pos hs, readV6_eq_ok_iff]
    refine exists_congr fun body => and_congr_left fun hports => ?_
    rw [if_pos ((hports.head?_eq_iff (by decide)).mp hs)]
  · rw [if_neg hs, readV4_eq_ok_iff]
    refine exists_congr fun body => and_congr_left fun hports => ?_
    rw [if_neg fun h => hs ((hports.head?_eq_iff (by decide)).mpr h)]

end IpEndpoint

/-! ## The grammar -/

/-- **The grammar of port ranges.** The texts that are read as port ranges are the ports, the ports
with a hyphen on either side, the ports in order with a hyphen between them and the hyphen alone,
where a port is a run of digits that may follow a plus sign; those without a plus sign are the texts
that are meant. A port lies in a range that was read if it is not below a lower bound and not above
an upper bound. The text of an address or a host name with ports is one without, a colon and the
text of a port range. -/
theorem PortRange.accepted_texts (s : List Char) :
    (∀ r, (PortRange.read s = .ok r ↔ Written SignedPort s r) ∧
      (Written IsPort s r ↔ PortRange.read s = .ok r ∧ '+' ∉ s) ∧
      ∀ p, r.contains p = true ↔ (∀ l ∈ r.low, l ≤ p) ∧ ∀ h ∈ r.high, p ≤ h) ∧
      (∀ e, IpEndpoint.read s = .ok e ↔
        ∃ body, IpEndpoint.read body = .ok { e with ports := none } ∧ WithPorts body s e.ports) ∧
      ∀ e, HostEndpoint.read s = .ok e ↔
        HostEndpoint.isHost e.host = true ∧ WithPorts e.host s e.ports := by
  refine ⟨fun r => ⟨read_eq_ok_iff, ?_, fun p => contains_iff⟩, fun e => IpEndpoint.read_eq_ok_iff,
    fun e => HostEndpoint.read_eq_ok_iff⟩
  rw [read_eq_ok_iff]
  exact written_isPort_iff

/-- A plus sign in front of a port is read although it is not meant. -/
theorem PortRange.plus_sign_read :
    PortRange.read "+80".toList = .ok ⟨some 80, some 80⟩ ∧ ∀ r, ¬Written IsPort "+80".toList r := by
  refine ⟨by decide, fun r h => ?_⟩
  exact (written_isPort_iff.mp h).2 (by decide)

end Abac
