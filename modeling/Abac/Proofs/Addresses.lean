import Mathlib.Data.List.TakeWhile
import Mathlib.Tactic.IntervalCases
import Abac.Network.Address
import Abac.Proofs.Numerals

/-!
# Internet addresses read back from their text

An address of version 4 is read octet by octet: each takes its digits and stops at the point or at
the end.

An address of version 6 is read in runs of groups. Before every group an address of version 4 is
tried, and on printed groups it fails, since behind the digits at their start stands no point. So a
run takes the printed groups and stops where they end: at the end of the text, at the eighth group,
or at the two colons that stand for the zeros left out. What is left out is as long as the eight
groups need, because the printer counted it so.
-/

namespace Abac

open Text

/-! ## Version 4 -/

namespace Ipv4

/-- A text on which the digits of an octet end. -/
def NoDigitAhead (s : List Char) : Prop := ∀ c ∈ s.head?, c.isDigit = false

theorem noDigitAhead_cons {c : Char} (hc : c.isDigit = false) (r : List Char) :
    NoDigitAhead (c :: r) := by
  simpa [NoDigitAhead] using hc

theorem takeOctet_digits (o : UInt8) {rest : List Char} (h : NoDigitAhead rest) :
    takeOctet (digits o.toNat ++ rest) = some (o, rest) := by
  have hlt : o.toNat < 256 := o.toNat_lt
  obtain ⟨htake, hdrop⟩ := run_append (fun c => isDigit_of_mem_digits (n := o.toNat)) h
  have hlen : (digits o.toNat).length ≤ 3 := (length_digits_le_iff (by decide)).2 (by omega)
  -- a leading zero is the only digit
  have hzero :
      ((digits o.toNat).head? == some '0' && decide ((digits o.toNat).length > 1)) = false := by
    by_cases hhead : (digits o.toNat).head? = some '0'
    · rw [head?_digits_eq_zero hhead]
      rfl
    · simp [hhead]
  simp only [takeOctet, htake, hdrop, hzero, ofDigits_digits]
  simp [digits_ne_nil, Nat.not_lt.2 hlen, Nat.not_lt.2 (Nat.le_of_lt_succ hlt)]

theorem take_render (ip : Ipv4) {rest : List Char} (h : NoDigitAhead rest) :
    take (ip.render ++ rest) = some (ip, rest) := by
  have hpoint : ∀ r, NoDigitAhead ('.' :: r) := noDigitAhead_cons (by decide)
  simp [take, render, takeNext, takeOctet_digits _ h, takeOctet_digits _ (hpoint _), bind,
    Option.bind]

/-- **An address of version 4 is read back.** -/
theorem read?_render (ip : Ipv4) : read? ip.render = some ip := by
  have htake : take (ip.render ++ []) = some (ip, []) := take_render ip (by simp [NoDigitAhead])
  rw [List.append_nil] at htake
  simp [read?, htake]

/-- The characters of an address of version 4. -/
theorem mem_render {ip : Ipv4} {c : Char} (h : c ∈ ip.render) : c.isDigit = true ∨ c = '.' := by
  simp only [render, List.mem_append, List.mem_cons] at h
  rcases h with ((h | h | h) | h | h) | h | h
  all_goals first
    | exact .inl (isDigit_of_mem_digits h)
    | exact .inr h

/-- What follows the digits at the start of an address is a point. -/
theorem take_eq_none {s : List Char} (h : (s.dropWhile Char.isDigit).head? ≠ some '.') :
    take s = none := by
  unfold take
  cases ho : takeOctet s with
  | none => rfl
  | some p =>
    have hrest : p.2 = s.dropWhile Char.isDigit := by
      unfold takeOctet at ho
      simp only at ho
      split at ho
      case isTrue => simp at ho
      case isFalse => simp [← Option.some.inj ho]
    have hnext : takeNext p.2 = none := by
      rw [hrest]
      unfold takeNext
      split
      case h_1 r hr => simp [hr] at h
      case h_2 => rfl
    simp [bind, Option.bind, hnext]

end Ipv4

/-! ## Version 6: single groups -/

namespace Ipv6

/-- Whether a character is a hexadecimal digit. -/
def isHex (c : Char) : Bool := (hexValue? c).isSome

theorem hexValue?_digitChar {n : Nat} (hn : n < 16) : hexValue? n.digitChar = some n := by
  interval_cases n <;> rfl

theorem isHex_of_mem_toDigits {n : Nat} {c : Char} (h : c ∈ Nat.toDigits 16 n) :
    isHex c = true := by
  induction n using Nat.strongRecOn with
  | ind n ih =>
    rcases Nat.lt_or_ge n 16 with hn | hn
    · rw [Nat.toDigits_of_lt_base hn, List.mem_singleton] at h
      rw [h, isHex, hexValue?_digitChar hn]
      rfl
    · rw [Nat.toDigits_of_base_le (by decide) hn, List.mem_append, List.mem_singleton] at h
      rcases h with h | h
      · exact ih (n / 16) (by omega) h
      · rw [h, isHex, hexValue?_digitChar (by omega)]
        rfl

theorem ofHex_toDigits (n : Nat) : ofHex (Nat.toDigits 16 n) = n := by
  induction n using Nat.strongRecOn with
  | ind n ih =>
    rcases Nat.lt_or_ge n 16 with hn | hn
    · simp [Nat.toDigits_of_lt_base hn, ofHex, hexValue?_digitChar hn]
    · have hfront := ih (n / 16) (by omega)
      rw [ofHex] at hfront
      rw [Nat.toDigits_of_base_le (by decide) hn, ofHex, List.foldl_append, hfront]
      simp only [List.foldl_cons, List.foldl_nil, hexValue?_digitChar (show n % 16 < 16 by omega),
        Option.getD_some]
      omega

/-- A text on which a run of printed groups may end: there is nothing more, or a colon. -/
def ColonAhead (s : List Char) : Prop := ∀ c ∈ s.head?, c = ':'

theorem takeGroup_toDigits (g : UInt16) {rest : List Char} (h : ColonAhead rest) :
    takeGroup (Nat.toDigits 16 g.toNat ++ rest) = some (g, rest) := by
  obtain ⟨htake, hdrop⟩ :
      (Nat.toDigits 16 g.toNat ++ rest).takeWhile (fun c => (hexValue? c).isSome) =
          Nat.toDigits 16 g.toNat ∧
        (Nat.toDigits 16 g.toNat ++ rest).dropWhile (fun c => (hexValue? c).isSome) = rest :=
    run_append (fun c => isHex_of_mem_toDigits) (fun c hc => h c hc ▸ rfl)
  have hlen : (Nat.toDigits 16 g.toNat).length ≤ 4 :=
    (Nat.length_toDigits_le_iff (by decide) (by decide)).2 g.toNat_lt
  simp only [takeGroup, htake, hdrop, ofHex_toDigits]
  simp [Nat.toDigits_ne_nil, Nat.not_lt.2 hlen]

/-- A printed group is not the start of an address of version 4. -/
theorem take_v4_group (g : UInt16) {rest : List Char} (h : ColonAhead rest) :
    Ipv4.take (Nat.toDigits 16 g.toNat ++ rest) = none := by
  have hrest : rest.dropWhile Char.isDigit = rest := by
    cases rest with
    | nil => rfl
    | cons c r =>
      obtain rfl : c = ':' := h c rfl
      rfl
  apply Ipv4.take_eq_none
  intro hpoint
  rw [List.dropWhile_append] at hpoint
  cases hend : (Nat.toDigits 16 g.toNat).dropWhile Char.isDigit with
  | nil =>
    rw [hend, hrest] at hpoint
    exact absurd (h '.' hpoint) (by decide)
  | cons c r =>
    simp only [hend, List.isEmpty_cons, Bool.false_eq_true, if_false, List.cons_append,
      List.head?_cons, Option.some.injEq] at hpoint
    have hmem : c ∈ Nat.toDigits 16 g.toNat :=
      (List.dropWhile_sublist _).subset (hend ▸ List.mem_cons_self)
    have hhex := isHex_of_mem_toDigits hmem
    rw [hpoint] at hhex
    exact absurd hhex (by decide)

/-! ## Runs of groups -/

/-- Groups with a colon before each. -/
def colonGroups (gs : List UInt16) : List Char := gs.flatMap fun g => ':' :: Nat.toDigits 16 g.toNat

theorem renderGroups_cons (g : UInt16) (gs : List UInt16) :
    renderGroups (g :: gs) = Nat.toDigits 16 g.toNat ++ colonGroups gs := by
  induction gs generalizing g with
  | nil => simp [renderGroups, colonGroups]
  | cons g' gs ih =>
    rw [renderGroups, ih g', colonGroups, colonGroups, List.flatMap_cons, List.cons_append]
    simp

/-- A text on which a run of groups ends: there is nothing more, or two colons stand for zeros. -/
def EndsRun (s : List Char) : Prop := s = [] ∨ ∃ r, s = ':' :: ':' :: r

theorem EndsRun.colonAhead {rest : List Char} (h : EndsRun rest) (gs : List UInt16) :
    ColonAhead (colonGroups gs ++ rest) := by
  cases gs with
  | nil => rcases h with rfl | ⟨r, rfl⟩ <;> simp [ColonAhead, colonGroups]
  | cons g gs => simp [ColonAhead, colonGroups]

/-- One printed group at the start of a run. -/
theorem takeRun_group (room : Nat) (first : Bool) (g : UInt16) {s rest : List Char}
    (hs : nextGroup first s = some (Nat.toDigits 16 g.toNat ++ rest)) (h : ColonAhead rest) :
    takeRun (room + 1) first s =
      { takeRun room false rest with groups := g :: (takeRun room false rest).groups } := by
  have hv4 : (if room = 0 then none else (nextGroup first s).bind Ipv4.take) = none := by
    rw [hs, Option.bind_some, take_v4_group g h, ite_self]
  rw [takeRun, hv4, hs, Option.bind_some, takeGroup_toDigits g h]

/-- No further group is read where a run ends. -/
theorem takeRun_end (room : Nat) {s : List Char} (h : EndsRun s) (first : Bool) :
    takeRun room first s = ⟨[], false, s⟩ := by
  cases room with
  | zero => rfl
  | succ room =>
    rcases h with rfl | ⟨r, rfl⟩
    · cases first <;> cases room <;> rfl
    · cases first <;> cases room <;> rfl

/-- **The groups of a run are read back** up to its end. -/
theorem takeRun_colonGroups {gs : List UInt16} {room : Nat} (hroom : gs.length ≤ room)
    {rest : List Char} (h : EndsRun rest) :
    takeRun room false (colonGroups gs ++ rest) = ⟨gs, false, rest⟩ := by
  induction gs generalizing room with
  | nil => exact takeRun_end room h false
  | cons g gs ih =>
    obtain ⟨room, rfl⟩ : ∃ n, room = n + 1 := ⟨room - 1, by simp at hroom; omega⟩
    have htext : colonGroups (g :: gs) ++ rest =
        ':' :: (Nat.toDigits 16 g.toNat ++ (colonGroups gs ++ rest)) := by
      simp [colonGroups]
    rw [htext, takeRun_group room false g (by simp [nextGroup, dropHead?]) (h.colonAhead gs),
      ih (by simpa using hroom)]

theorem takeRun_renderGroups {gs : List UInt16} {room : Nat} (hroom : gs.length ≤ room)
    {rest : List Char} (h : EndsRun rest) :
    takeRun room true (renderGroups gs ++ rest) = ⟨gs, false, rest⟩ := by
  cases gs with
  | nil => exact takeRun_end room h true
  | cons g gs =>
    obtain ⟨room, rfl⟩ : ∃ n, room = n + 1 := ⟨room - 1, by simp at hroom; omega⟩
    rw [renderGroups_cons, List.append_assoc,
      takeRun_group room true g (by simp [nextGroup]) (h.colonAhead gs),
      takeRun_colonGroups (by simpa using hroom) h]

/-! ## The zeros left out -/

theorem take_zerosAtStart (gs : List UInt16) :
    gs.take (zerosAtStart gs) = List.replicate (zerosAtStart gs) 0 := by
  have htake : gs.take (zerosAtStart gs) = gs.takeWhile (· == 0) :=
    (List.prefix_iff_eq_take.1 (List.takeWhile_prefix _)).symm
  rw [htake]
  exact List.eq_replicate_iff.2 ⟨rfl, fun g hg => by simpa using List.mem_takeWhile_imp hg⟩

/-- What the printer counts is a run of zeros. -/
theorem longestZeros_spec (index : Nat) (gs : List UInt16) :
    ∃ start length, longestZeros index gs = (index + start, length) ∧
      (gs.drop start).take length = List.replicate length 0 ∧ start + length ≤ gs.length := by
  induction gs generalizing index with
  | nil => exact ⟨0, 0, rfl, by simp, by simp⟩
  | cons g rest ih =>
    obtain ⟨start, length, heq, hzeros, hle⟩ := ih (index + 1)
    unfold longestZeros
    dsimp only
    split
    case isTrue =>
      refine ⟨start + 1, length, by rw [heq]; congr 1; omega, by simpa using hzeros, ?_⟩
      simp only [List.length_cons]
      omega
    case isFalse =>
      refine ⟨0, zerosAtStart (g :: rest), rfl, by simpa using take_zerosAtStart (g :: rest), ?_⟩
      rw [Nat.zero_add, zerosAtStart]
      exact (List.takeWhile_prefix _).length_le

/-! ## Whole addresses -/

theorem ofGroups?_groups {ip : Ipv6} {gs : List UInt16} (h : ip.groups = gs) :
    ofGroups? gs = some ip := by
  subst h
  simp [ofGroups?, ip.eight]

theorem read?_renderGroups (ip : Ipv6) : read? (renderGroups ip.groups) = some ip := by
  have hrun : takeRun 8 true (renderGroups ip.groups ++ []) = ⟨ip.groups, false, []⟩ :=
    takeRun_renderGroups (Nat.le_of_eq ip.eight) (.inl rfl)
  rw [List.append_nil] at hrun
  simp [read?, hrun, ip.eight, ofGroups?_groups rfl]

/-- Two colons stand for the zeros that are missing from eight groups. -/
theorem read?_compressed {front back : List UInt16} {n : Nat} (hn : 0 < n) (ip : Ipv6)
    (h : ip.groups = front ++ List.replicate n 0 ++ back) :
    read? (renderGroups front ++ [':', ':'] ++ renderGroups back) = some ip := by
  have height : front.length + n + back.length = 8 := by
    have := ip.eight
    simp only [h, List.length_append, List.length_replicate] at this
    exact this
  have hfront : takeRun 8 true (renderGroups front ++ ([':', ':'] ++ renderGroups back)) =
      ⟨front, false, [':', ':'] ++ renderGroups back⟩ :=
    takeRun_renderGroups (by omega) (.inr ⟨_, rfl⟩)
  have hback : takeRun (7 - front.length) true (renderGroups back ++ []) = ⟨back, false, []⟩ :=
    takeRun_renderGroups (by omega) (.inl rfl)
  rw [List.append_nil] at hback
  have hgap : 8 - front.length - back.length = n := by omega
  rw [List.append_assoc, read?, hfront]
  simp only [if_neg (by omega : front.length ≠ 8), Bool.false_eq_true, if_false, List.cons_append,
    List.nil_append, hback, List.isEmpty_nil, if_true, hgap]
  exact ofGroups?_groups h

/-- The text of an address that embeds one of version 4. -/
theorem read?_embedded (v4 : Ipv4) (ip : Ipv6)
    (h : ip.groups = List.replicate 5 0 ++ 0xFFFF :: embedded v4) :
    read? ([':', ':', 'f', 'f', 'f', 'f', ':'] ++ v4.render) = some ip := by
  have hdigits : Nat.toDigits 16 (0xFFFF : UInt16).toNat = ['f', 'f', 'f', 'f'] := by rfl
  have hhead := takeRun_end 8 (s := [':', ':', 'f', 'f', 'f', 'f', ':'] ++ v4.render)
    (.inr ⟨_, rfl⟩) true
  have hv4 : Ipv4.take (v4.render ++ []) = some (v4, []) :=
    Ipv4.take_render v4 (by simp [Ipv4.NoDigitAhead])
  rw [List.append_nil] at hv4
  have hlast : takeRun 6 false (':' :: v4.render) = ⟨embedded v4, true, []⟩ := by
    simp [takeRun, nextGroup, dropHead?, hv4]
  have htail : takeRun 7 true (['f', 'f', 'f', 'f'] ++ ':' :: v4.render) =
      ⟨0xFFFF :: embedded v4, true, []⟩ := by
    rw [takeRun_group 6 true 0xFFFF (by rw [hdigits]; rfl) (by simp [ColonAhead]), hlast]
  rw [read?, hhead]
  simp only [List.cons_append, List.nil_append] at htail ⊢
  simp only [List.length_nil, htail]
  exact ofGroups?_groups h

theorem embedded_eq (x y : UInt16) :
    embedded ⟨(x / 256).toUInt8, (x % 256).toUInt8, (y / 256).toUInt8, (y % 256).toUInt8⟩ =
      [x, y] := by
  have hword (z : UInt16) : (z / 256).toUInt8.toUInt16 * 256 + (z % 256).toUInt8.toUInt16 = z := by
    apply UInt16.toNat_inj.1
    have := z.toNat_lt
    simp only [UInt16.toNat_add, UInt16.toNat_mul, UInt8.toNat_toUInt16, UInt16.toNat_toUInt8,
      UInt16.toNat_div, UInt16.toNat_mod, UInt16.reduceToNat]
    omega
  rw [embedded, hword, hword]

theorem groups_of_embedded? {ip : Ipv6} {v4 : Ipv4} (h : ip.embedded? = some v4) :
    ip.groups = List.replicate 5 0 ++ 0xFFFF :: embedded v4 := by
  unfold embedded? at h
  split at h
  case h_1 x y hgroups =>
    rw [← Option.some.inj h, embedded_eq]
    exact hgroups
  case h_2 => simp at h

/-- **An address of version 6 is read back.** -/
theorem read?_render (ip : Ipv6) : read? ip.render = some ip := by
  unfold render
  split
  case h_1 v4 h => exact read?_embedded v4 ip (groups_of_embedded? h)
  case h_2 =>
    obtain ⟨start, length, heq, hzeros, hle⟩ := longestZeros_spec 0 ip.groups
    rw [Nat.zero_add] at heq
    rw [heq]
    dsimp only
    split
    case isTrue hlong =>
      refine read?_compressed (n := length) (by omega) ip ?_
      rw [← hzeros, ← List.take_add, List.take_append_drop]
    case isFalse => exact read?_renderGroups ip

theorem mem_renderGroups {gs : List UInt16} {c : Char} (h : c ∈ renderGroups gs) :
    isHex c = true ∨ c = ':' := by
  cases gs with
  | nil => simp [renderGroups] at h
  | cons g gs =>
    rw [renderGroups_cons, List.mem_append] at h
    rcases h with h | h
    · exact .inl (isHex_of_mem_toDigits h)
    · obtain ⟨g', -, hc⟩ := List.mem_flatMap.1 h
      rcases List.mem_cons.1 hc with hc | hc
      · exact .inr hc
      · exact .inl (isHex_of_mem_toDigits hc)

/-- The text of an address of version 6 has no bracket in it. -/
theorem not_mem_render (ip : Ipv6) : ']' ∉ ip.render := by
  have hgroups (gs : List UInt16) : ']' ∉ renderGroups gs := fun h =>
    absurd (mem_renderGroups h) (by decide)
  unfold render
  split
  case h_1 v4 _ =>
    intro h
    rcases List.mem_append.1 h with h | h
    · simp at h
    · exact absurd (Ipv4.mem_render h) (by decide)
  case h_2 =>
    dsimp only
    split
    case isTrue => simp [hgroups]
    case isFalse => exact hgroups _

end Ipv6

end Abac
