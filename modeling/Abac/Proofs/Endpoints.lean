import Abac.Network.Endpoint
import Abac.Proofs.Addresses
import Abac.Proofs.Inversion

/-!
# Endpoints read back from their text

The parts of an endpoint are told apart by the characters between them, so what has to be shown of
each printed part is that it does not contain the character at which it is cut: no port has a
hyphen, no host name and no address of version 4 a colon, and no address of version 6 a bracket.

Which endpoints can be read at all is said beside each reader: any address with any mask of the same
version, any host name, and any range of ports whose bounds are in order.
-/

namespace Abac

open Text

/-! ## Port ranges -/

namespace PortRange

theorem not_mem_portDigits {c : Char} (hc : c.isDigit = false) (p : UInt16) :
    c ∉ portDigits p := fun h => by
  simp [isDigit_of_mem_digits h] at hc

theorem readBound_portDigits (p : UInt16) : readBound (portDigits p) = .ok (some p) := by
  have hbound : p.toNat ≤ 65535 := Nat.le_of_lt_succ p.toNat_lt
  simp [readBound, portDigits, digits_ne_nil, readUnsigned_digits hbound]

theorem readBound_nil : readBound [] = .ok none := rfl

theorem readBounds_render (r : PortRange) : readBounds r.render = .ok r := by
  have hno : ∀ p, '-' ∉ portDigits p := not_mem_portDigits (by decide)
  obtain ⟨low, high⟩ := r
  match low, high with
  | some l, some h =>
    by_cases heq : l = h
    · subst heq
      simp [render, readBounds, cutFirst_eq_none_iff.2 (hno l), readBound_portDigits, bind,
        Except.bind, pure, Except.pure]
    · simp [render, heq, readBounds, cutFirst_append _ (hno l), readBound_portDigits, bind,
        Except.bind, pure, Except.pure]
  | some l, none =>
    simp [render, readBounds, cutFirst_append _ (hno l), readBound_portDigits, readBound_nil, bind,
      Except.bind, pure, Except.pure]
  | none, some h =>
    simp [render, readBounds, cutFirst, readBound_portDigits, readBound_nil, bind, Except.bind,
      pure, Except.pure]
  | none, none =>
    simp [render, readBounds, cutFirst, readBound_nil, bind, Except.bind, pure, Except.pure]

/-- **A port range is read back** when its bounds are in order. -/
theorem read_render {r : PortRange} (h : r.isOrdered = true) : read r.render = .ok r := by
  simp [read, readBounds_render, h, bind, Except.bind, pure, Except.pure]

theorem isOrdered_of_read {s : List Char} {r : PortRange} (h : read s = .ok r) :
    r.isOrdered = true := by
  obtain ⟨range, -, h⟩ := Except.bind_eq_ok_iff.1 h
  obtain ⟨ho, h⟩ := Except.ite_throw_eq_ok_iff.1 h
  rwa [← Except.ok.inj h]

end PortRange

/-! ## Addresses with a mask and ports -/

namespace IpEndpoint

/-- Whether an endpoint can be read: its mask is of the version of its address, and the bounds of
its ports are in order. -/
def IsWellFormed (e : IpEndpoint) : Prop :=
  ((∃ ip, ∃ m : Option Ipv4, e.address = .v4 ip ∧ e.mask = m.map .v4) ∨
    ∃ ip, ∃ m : Option Ipv6, e.address = .v6 ip ∧ e.mask = m.map .v6) ∧
  ∀ r ∈ e.ports, r.isOrdered = true

theorem readPorts_render {r : PortRange} (h : r.isOrdered = true) : readPorts r.render = .ok r := by
  rw [readPorts, PortRange.read_render h]

theorem isOrdered_of_readPorts {s : List Char} {r : PortRange} (h : readPorts s = .ok r) :
    r.isOrdered = true := by
  unfold readPorts at h
  split at h
  case h_1 range hrange =>
    obtain rfl := Except.ok.inj h
    exact PortRange.isOrdered_of_read hrange
  case h_2 => simp at h

/-- The ports are cut off at the first colon. -/
theorem cutFirst_suffix {body : List Char} (h : ':' ∉ body) (ports : Option PortRange) :
    cutFirst ':' (body ++ PortRange.renderSuffix ports) = ports.map fun r => (body, r.render) := by
  cases ports with
  | none => simpa [PortRange.renderSuffix, cutFirst_eq_none_iff] using h
  | some r => exact cutFirst_append _ h

/-! ### Version 4 -/

theorem not_mem_render_v4 (ip : Ipv4) : ':' ∉ ip.render ∧ '/' ∉ ip.render :=
  ⟨fun h => absurd (Ipv4.mem_render h) (by decide), fun h => absurd (Ipv4.mem_render h) (by decide)⟩

theorem readV4_render (ip : Ipv4) (m : Option Ipv4) {ports : Option PortRange}
    (h : ∀ r ∈ ports, r.isOrdered = true) :
    readV4 (ip.render ++ renderMask (m.map .v4) ++ PortRange.renderSuffix ports) =
      .ok ⟨.v4 ip, m.map .v4, ports⟩ := by
  have hbody : ':' ∉ ip.render ++ renderMask (m.map .v4) := by
    cases m with
    | none => simpa [renderMask] using (not_mem_render_v4 ip).1
    | some m => simp [renderMask, Ip.bracketed, not_mem_render_v4]
  have hmask : cutFirst '/' (ip.render ++ renderMask (m.map .v4)) =
      m.map fun m => (ip.render, m.render) := by
    cases m with
    | none => simpa [renderMask, cutFirst_eq_none_iff] using (not_mem_render_v4 ip).2
    | some m => exact cutFirst_append _ (not_mem_render_v4 ip).2
  have hports : (ports.map PortRange.render).mapM readPorts = .ok ports := by
    cases ports with
    | none => rfl
    | some r => simp [readPorts_render (h r rfl), Functor.map, Except.map]
  have hcut := cutFirst_suffix hbody ports
  cases ports with
  | none =>
    simp only [PortRange.renderSuffix, List.append_nil, Option.map_none] at hcut hports ⊢
    simp only [readV4, hcut, hports, bind, Except.bind]
    cases m with
    | none =>
      simp only [Option.map_none, renderMask, List.append_nil] at hmask ⊢
      simp only [hmask, Ipv4.read?_render, pure, Except.pure]
    | some m =>
      simp only [Option.map_some] at hmask ⊢
      simp only [hmask, Ipv4.read?_render, pure, Except.pure]
  | some r =>
    simp only [Option.map_some] at hcut hports
    simp only [readV4, hcut, hports, bind, Except.bind]
    cases m with
    | none =>
      simp only [Option.map_none, renderMask, List.append_nil] at hmask ⊢
      simp only [hmask, Ipv4.read?_render, pure, Except.pure]
    | some m =>
      simp only [Option.map_some] at hmask ⊢
      simp only [hmask, Ipv4.read?_render, pure, Except.pure]

theorem readV4_wellFormed {s : List Char} {e : IpEndpoint} (h : readV4 s = .ok e) :
    e.IsWellFormed := by
  unfold readV4 at h
  obtain ⟨ports, hports, h⟩ := Except.bind_eq_ok_iff.1 h
  have hordered : ∀ r ∈ ports, r.isOrdered = true := by
    intro r hr
    obtain ⟨p, -, hp⟩ := Except.mapM_eq_ok hports r hr
    exact isOrdered_of_readPorts hp
  -- the text that is left is cut into an address and a mask, and each is read or refused
  split at h
  case h_1 addressText maskText _ =>
    split at h
    case h_2 => exact absurd h (Except.throw_ne_ok _ _)
    case h_1 address _ =>
      split at h
      case h_1 =>
        obtain rfl := Except.ok.inj h
        exact ⟨.inl ⟨address, none, rfl, rfl⟩, hordered⟩
      case h_2 m =>
        split at h
        case h_1 mask _ =>
          obtain rfl := Except.ok.inj h
          exact ⟨.inl ⟨address, some mask, rfl, rfl⟩, hordered⟩
        case h_2 => exact absurd h (Except.throw_ne_ok _ _)

/-! ### Version 6 -/

theorem bracketed_render (ip : Ipv6) (rest : List Char) :
    bracketed ((Ip.v6 ip).bracketed ++ rest) = .ok (ip.render, rest) := by
  simp [Ip.bracketed, bracketed, cutFirst_append _ ip.not_mem_render]

theorem takeV6Mask_render (m : Option Ipv6) (ports : Option PortRange) :
    takeV6Mask (renderMask (m.map .v6) ++ PortRange.renderSuffix ports) =
      .ok (m.map .v6, PortRange.renderSuffix ports) := by
  cases m with
  | none => cases ports <;> rfl
  | some m =>
    simp [renderMask, takeV6Mask, bracketed_render, Ipv6.read?_render, bind, Except.bind, pure,
      Except.pure]

theorem readV6_render (ip : Ipv6) (m : Option Ipv6) {ports : Option PortRange}
    (h : ∀ r ∈ ports, r.isOrdered = true) :
    readV6 ((Ip.v6 ip).bracketed ++ renderMask (m.map .v6) ++ PortRange.renderSuffix ports) =
      .ok ⟨.v6 ip, m.map .v6, ports⟩ := by
  simp only [readV6, List.append_assoc, bracketed_render, Ipv6.read?_render, takeV6Mask_render,
    bind, Except.bind]
  cases ports with
  | none => rfl
  | some r =>
    simp only [PortRange.renderSuffix, readPorts_render (h r rfl), pure, Except.pure]

/-- The mask of an address of version 6 is of the same version. -/
theorem version_of_takeV6Mask {s rest : List Char} {mask : Option Ip}
    (h : takeV6Mask s = .ok (mask, rest)) : ∃ m : Option Ipv6, mask = m.map .v6 := by
  unfold takeV6Mask at h
  split at h
  case h_1 =>
    obtain ⟨⟨text, _⟩, -, h⟩ := Except.bind_eq_ok_iff.1 h
    dsimp only at h
    split at h
    case h_1 m _ =>
      obtain ⟨rfl, -⟩ := Prod.mk.inj (Except.ok.inj h)
      exact ⟨some m, rfl⟩
    case h_2 => exact absurd h (Except.throw_ne_ok _ _)
  case h_2 =>
    obtain ⟨rfl, -⟩ := Prod.mk.inj (Except.ok.inj h)
    exact ⟨none, rfl⟩

theorem readV6_wellFormed {s : List Char} {e : IpEndpoint} (h : readV6 s = .ok e) :
    e.IsWellFormed := by
  unfold readV6 at h
  obtain ⟨⟨text, rest⟩, -, h⟩ := Except.bind_eq_ok_iff.1 h
  dsimp only at h
  split at h
  case h_2 => exact absurd h (Except.throw_ne_ok _ _)
  case h_1 address _ =>
    obtain ⟨⟨mask, rest'⟩, hmask, h⟩ := Except.bind_eq_ok_iff.1 h
    obtain ⟨m, rfl⟩ := version_of_takeV6Mask hmask
    dsimp only at h
    split at h
    case h_1 =>
      obtain rfl := Except.ok.inj h
      exact ⟨.inr ⟨address, m, rfl, rfl⟩, by simp⟩
    case h_2 p =>
      obtain ⟨r, hr, h⟩ := Except.bind_eq_ok_iff.1 h
      obtain rfl := Except.ok.inj h
      exact ⟨.inr ⟨address, m, rfl, rfl⟩, by simpa using isOrdered_of_readPorts hr⟩
    case h_3 => exact absurd h (Except.throw_ne_ok _ _)

/-! ### Either version -/

/-- **A well-formed endpoint is read back.** -/
theorem read_render {e : IpEndpoint} (h : e.IsWellFormed) : read e.render = .ok e := by
  obtain ⟨address, mask, ports⟩ := e
  obtain ⟨⟨ip, m, rfl, rfl⟩ | ⟨ip, m, rfl, rfl⟩, hordered⟩ := h
  · obtain ⟨c, r, hcr, hc⟩ := digits_eq_cons ip.a.toNat
    have hhead : c ≠ '[' := ne_of_isDigit hc (by decide)
    rw [read, if_neg (by simp [render, Ip.bracketed, Ipv4.render, hcr, hhead])]
    exact readV4_render ip m hordered
  · rw [read, if_pos (by rfl)]
    exact readV6_render ip m hordered

/-- What is read is well formed. -/
theorem wellFormed_of_read {s : List Char} {e : IpEndpoint} (h : read s = .ok e) :
    e.IsWellFormed := by
  unfold read at h
  split at h
  case isTrue => exact readV6_wellFormed h
  case isFalse => exact readV4_wellFormed h

end IpEndpoint

/-! ## Host names with ports -/

namespace HostEndpoint

/-- Whether an endpoint can be read: its host is a host name, and the bounds of its ports are in
order. -/
def IsWellFormed (e : HostEndpoint) : Prop :=
  isHost e.host = true ∧ ∀ r ∈ e.ports, r.isOrdered = true

/-- A character of a text is a separator or stands in a piece. -/
theorem mem_pieces {sep c : Char} {s : List Char} (h : c ∈ s) :
    c = sep ∨ ∃ p ∈ pieces sep s, c ∈ p := by
  induction s with
  | nil => simp at h
  | cons d r ih =>
    by_cases hd : d = sep
    · rcases List.mem_cons.1 h with h | h
      · exact .inl (h.trans hd)
      · rcases ih h with h | ⟨p, hp, hc⟩
        · exact .inl h
        · exact .inr ⟨p, by simp [pieces, hd, hp], hc⟩
    · obtain ⟨p, ps, hps⟩ := List.exists_cons_of_ne_nil (pieces_ne_nil sep r)
      rw [pieces, if_neg hd, hps, growFirst]
      rcases List.mem_cons.1 h with h | h
      · exact .inr ⟨d :: p, by simp, by simp [h]⟩
      · rw [hps] at ih
        rcases ih h with h | ⟨q, hq, hc⟩
        · exact .inl h
        · rcases List.mem_cons.1 hq with rfl | hq
          · exact .inr ⟨d :: q, by simp, by simp [hc]⟩
          · exact .inr ⟨q, by simp [hq], hc⟩

/-- A host name has no colon in it. -/
theorem not_mem_of_isHost {host : List Char} (h : isHost host = true) : ':' ∉ host := by
  simp only [isHost, Bool.and_eq_true, List.all_eq_true] at h
  have hlabels : ':' ∉ withoutWildcard host := by
    intro hmem
    obtain hsep | ⟨p, hp, hcolon⟩ : ':' = '.' ∨ ∃ p ∈ pieces '.' (withoutWildcard host), ':' ∈ p :=
      mem_pieces hmem
    · exact absurd hsep (by decide)
    · have hlabel := h.2 p hp
      simp only [isLabel, Bool.and_eq_true, List.all_eq_true] at hlabel
      exact absurd (hlabel.2 ':' hcolon) (by decide)
  unfold withoutWildcard at hlabels
  split at hlabels
  case h_1 => simpa using hlabels
  case h_2 => exact hlabels

/-- **A well-formed host with ports is read back.** -/
theorem read_render {e : HostEndpoint} (h : e.IsWellFormed) : read e.render = .ok e := by
  obtain ⟨host, ports⟩ := e
  obtain ⟨hhost, hordered⟩ := h
  have hcut := IpEndpoint.cutFirst_suffix (not_mem_of_isHost hhost) ports
  cases ports with
  | none =>
    simp only [PortRange.renderSuffix, List.append_nil, Option.map_none] at hcut
    simp only [read, render, PortRange.renderSuffix, List.append_nil, hcut, Option.mapM_none, bind,
      Except.bind, pure, Except.pure, hhost, if_true]
  | some r =>
    simp only [Option.map_some] at hcut
    simp only [read, render, hcut, Option.mapM_some, PortRange.read_render (hordered r rfl),
      Functor.map, Except.map, bind, Except.bind, pure, Except.pure, hhost, if_true]

/-- What is read is well formed. -/
theorem wellFormed_of_read {s : List Char} {e : HostEndpoint} (h : read s = .ok e) :
    e.IsWellFormed := by
  unfold read at h
  obtain ⟨ports, hports, h⟩ := Except.bind_eq_ok_iff.1 h
  have hordered : ∀ r ∈ ports, r.isOrdered = true := by
    intro r hr
    obtain ⟨p, -, hp⟩ := Except.mapM_eq_ok hports r hr
    split at hp
    case h_1 range hrange =>
      obtain rfl := Except.ok.inj hp
      exact PortRange.isOrdered_of_read hrange
    case h_2 => exact absurd hp (Except.throw_ne_ok _ _)
  obtain ⟨hhost, h⟩ := Except.ite_throw_eq_ok_iff.1 h
  obtain rfl := Except.ok.inj h
  exact ⟨hhost, hordered⟩

end HostEndpoint

end Abac
