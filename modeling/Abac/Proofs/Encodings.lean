import Mathlib.Tactic.IntervalCases
import Abac.Text.Hex
import Abac.Text.Base64

/-!
# Octets read back from their two encodings

Every digit and every symbol is one octet of the text, and the reader of single octets undoes the
printer of single digits and symbols. From there it is arithmetic: two digits of four bits are an
octet, and four symbols of six bits are three.
-/

namespace Abac.Text

theorem octets_nil : octets [] = [] := rfl

theorem octets_cons (c : Char) (s : List Char) :
    octets (c :: s) = String.utf8EncodeChar c ++ octets s := rfl

namespace Hex

/-- A digit is one octet, and its value is read from that octet. -/
theorem octets_digit {n : UInt8} (hn : n < 16) (s : List Char) :
    ∃ o, octets (digit n :: s) = o :: octets s ∧ ∀ p, digitValue o p = .ok n := by
  have hall : ∀ k < 16, ∃ o, String.utf8EncodeChar (digit (UInt8.ofNat k)) = [o] ∧
      ∀ p, digitValue o p = .ok (UInt8.ofNat k) := by
    intro k hk
    interval_cases k <;> exact ⟨_, rfl, fun _ => rfl⟩
  have hlt : n.toNat < 16 := by simpa [UInt8.lt_iff_toNat_lt] using hn
  obtain ⟨o, ho, hv⟩ := hall n.toNat hlt
  rw [UInt8.ofNat_toNat] at ho hv
  exact ⟨o, by rw [octets_cons, ho, List.singleton_append], hv⟩

/-- The two halves of an octet. -/
theorem high_low (b : UInt8) : b / 16 < 16 ∧ b % 16 < 16 ∧ b / 16 * 16 + b % 16 = b := by
  have := b.toNat_lt
  refine ⟨?_, ?_, ?_⟩
  · rw [UInt8.lt_iff_toNat_lt, UInt8.toNat_div]
    simp only [UInt8.reduceToNat]
    omega
  · rw [UInt8.lt_iff_toNat_lt, UInt8.toNat_mod]
    simp only [UInt8.reduceToNat]
    omega
  · apply UInt8.toNat_inj.1
    rw [UInt8.toNat_add, UInt8.toNat_mul, UInt8.toNat_div, UInt8.toNat_mod]
    simp only [UInt8.reduceToNat]
    omega

theorem encode_cons (b : UInt8) (rest : List UInt8) :
    encode (b :: rest) = digit (b / 16) :: digit (b % 16) :: encode rest := rfl

theorem length_octets_encode (bytes : List UInt8) :
    (octets (encode bytes)).length = 2 * bytes.length := by
  induction bytes with
  | nil => rfl
  | cons b rest ih =>
    obtain ⟨hhigh, hlow, -⟩ := high_low b
    obtain ⟨x, hx, -⟩ := octets_digit hhigh (digit (b % 16) :: encode rest)
    obtain ⟨y, hy, -⟩ := octets_digit hlow (encode rest)
    rw [encode_cons, hx, hy, List.length_cons, List.length_cons, List.length_cons, ih]
    omega

theorem decodePairs_encode (bytes : List UInt8) (p : Nat) :
    decodePairs p (octets (encode bytes)) = .ok bytes := by
  induction bytes generalizing p with
  | nil => rfl
  | cons b rest ih =>
    obtain ⟨hhigh, hlow, hsum⟩ := high_low b
    obtain ⟨x, hx, hx'⟩ := octets_digit hhigh (digit (b % 16) :: encode rest)
    obtain ⟨y, hy, hy'⟩ := octets_digit hlow (encode rest)
    rw [encode_cons, hx, hy, decodePairs, hx', hy', ih]
    simp only [bind, Except.bind, pure, Except.pure, hsum]

/-- **Hexadecimal octets are read back.** -/
theorem decode_encode (bytes : List UInt8) : decode (encode bytes) = .ok bytes := by
  have hlen := length_octets_encode bytes
  rw [decode, if_neg (by omega), decodePairs_encode]

end Hex

namespace Base64

/-- The octet of a symbol. -/
def symbolOctet (n : Nat) : UInt8 := UInt8.ofNat (symbol n).toNat

theorem octets_symbol (n : Nat) (s : List Char) :
    octets (symbol n :: s) = symbolOctet n :: octets s := by
  have hall : ∀ k < 64, String.utf8EncodeChar (symbol k) = [symbolOctet k] := by decide
  have hone : String.utf8EncodeChar (symbol n) = [symbolOctet n] := by
    rcases Nat.lt_or_ge n 64 with hn | hn
    · exact hall n hn
    · have hslash : symbol n = symbol 63 := by
        simp only [symbol]
        repeat rw [if_neg (by omega)]
      rw [symbolOctet, hslash]
      exact hall 63 (by decide)
  rw [octets_cons, hone, List.singleton_append]

theorem octets_padding (s : List Char) : octets ('=' :: s) = padding :: octets s := rfl

theorem symbolValue?_symbolOctet {n : Nat} (hn : n < 64) :
    symbolValue? (symbolOctet n) = some n := by
  have hall : ∀ k < 64, symbolValue? (symbolOctet k) = some k := by decide
  exact hall n hn

theorem symbolOctet_ne_padding {n : Nat} (hn : n < 64) : symbolOctet n ≠ padding := by
  intro h
  have hvalue := symbolValue?_symbolOctet hn
  rw [h] at hvalue
  simp [symbolValue?, padding] at hvalue

/-- The octets of a group of three are those of its four symbols. -/
theorem tailOctets_three (a b c : UInt8) :
    tailOctets [a.toNat / 4, a.toNat % 4 * 16 + b.toNat / 16, b.toNat % 16 * 4 + c.toNat / 64,
      c.toNat % 64] = ([a, b, c], 0) := by
  have := a.toNat_lt
  have := b.toNat_lt
  have := c.toNat_lt
  have ha : a.toNat / 4 * 4 + (a.toNat % 4 * 16 + b.toNat / 16) / 16 = a.toNat := by omega
  have hb : (a.toNat % 4 * 16 + b.toNat / 16) % 16 * 16 + (b.toNat % 16 * 4 + c.toNat / 64) / 4 =
      b.toNat := by omega
  have hc : (b.toNat % 16 * 4 + c.toNat / 64) % 4 * 64 + c.toNat % 64 = c.toNat := by omega
  simp only [tailOctets, ha, hb, hc, UInt8.ofNat_toNat]

theorem tailOctets_two (a b : UInt8) :
    tailOctets [a.toNat / 4, a.toNat % 4 * 16 + b.toNat / 16, b.toNat % 16 * 4] = ([a, b], 0) := by
  have := a.toNat_lt
  have := b.toNat_lt
  have ha : a.toNat / 4 * 4 + (a.toNat % 4 * 16 + b.toNat / 16) / 16 = a.toNat := by omega
  have hb : (a.toNat % 4 * 16 + b.toNat / 16) % 16 * 16 + b.toNat % 16 * 4 / 4 = b.toNat := by omega
  have hnone : b.toNat % 16 * 4 % 4 = 0 := by omega
  simp only [tailOctets, ha, hb, hnone, UInt8.ofNat_toNat]

theorem tailOctets_one (a : UInt8) :
    tailOctets [a.toNat / 4, a.toNat % 4 * 16] = ([a], 0) := by
  have := a.toNat_lt
  have ha : a.toNat / 4 * 4 + a.toNat % 4 * 16 / 16 = a.toNat := by omega
  have hnone : a.toNat % 4 * 16 % 16 = 0 := by omega
  simp only [tailOctets, ha, hnone, UInt8.ofNat_toNat]

theorem symbolAt_symbolOctet {n : Nat} (hn : n < 64) (p : Nat) :
    symbolAt p (symbolOctet n) = .ok n := by
  rw [symbolAt, symbolValue?_symbolOctet hn]

theorem readTail_symbolOctet {n : Nat} (hn : n < 64) (start index : Nat) (values : List Nat)
    (last : UInt8) (first : Nat) (rest : List UInt8) :
    readTail start index ⟨values, last, 0, first⟩ (symbolOctet n :: rest) =
      readTail start (index + 1) ⟨values ++ [n], symbolOctet n, 0, first⟩ rest := by
  simp [readTail, symbolOctet_ne_padding hn, symbolValue?_symbolOctet hn]

/-- The padding that fills up a last group of two or three symbols. -/
theorem readTail_padding (start : Nat) (values : List Nat) (last : UInt8) (first : Nat) :
    readTail start 3 ⟨values, last, 0, first⟩ [padding] = .ok ⟨values, last, 1, start + 3⟩ ∧
      readTail start 2 ⟨values, last, 0, first⟩ [padding, padding] =
        .ok ⟨values, last, 2, start + 2⟩ := by
  simp [readTail]

/-- The last group is read when it is filled up and no bits are left over. -/
theorem decodeTail_of_readTail {start : Nat} {group bytes : List UInt8} {t : Tail}
    (h : readTail start 0 ⟨[], 0, 0, 0⟩ group = .ok t) (hlen : 2 ≤ t.values.length)
    (hfull : t.paddings + t.values.length = 4) (hbytes : tailOctets t.values = (bytes, 0)) :
    decodeTail start group = .ok bytes := by
  simp [decodeTail, h, bind, Except.bind, pure, Except.pure, hbytes, hfull, Nat.not_lt.2 hlen]

theorem encode_ne_nil {bytes : List UInt8} (h : bytes ≠ []) :
    ∃ o r, octets (encode bytes) = o :: r := by
  fun_cases encode bytes with
  | case1 | case2 | case3 => exact ⟨_, _, octets_symbol _ _⟩
  | case4 => exact absurd rfl h

/-- **Octets in base 64 are read back**, from whatever offset the groups start at. -/
theorem decodeGroups_encode (bytes : List UInt8) (hne : bytes ≠ []) (start : Nat) :
    decodeGroups start (octets (encode bytes)) = .ok bytes := by
  fun_induction encode bytes generalizing start with
  | case1 a b c rest ih =>
    have := a.toNat_lt
    have := b.toNat_lt
    have := c.toNat_lt
    have hw : a.toNat / 4 < 64 := by omega
    have hx : a.toNat % 4 * 16 + b.toNat / 16 < 64 := by omega
    have hy : b.toNat % 16 * 4 + c.toNat / 64 < 64 := by omega
    have hz : c.toNat % 64 < 64 := by omega
    rw [octets_symbol, octets_symbol, octets_symbol, octets_symbol]
    by_cases hrest : rest = []
    · -- four symbols are left, and the reader of the last group takes them
      subst hrest
      exact decodeTail_of_readTail
        (by rw [readTail_symbolOctet hw, readTail_symbolOctet hx, readTail_symbolOctet hy,
              readTail_symbolOctet hz]
            rfl)
        (by simp) (by simp) (tailOctets_three a b c)
    · obtain ⟨o, r, hor⟩ := encode_ne_nil hrest
      have htail := ih hrest (start + 4)
      rw [hor] at htail ⊢
      rw [decodeGroups, symbolAt_symbolOctet hw, symbolAt_symbolOctet hx, symbolAt_symbolOctet hy,
        symbolAt_symbolOctet hz, htail]
      simp only [bind, Except.bind, pure, Except.pure, tailOctets_three, List.cons_append,
        List.nil_append]
  | case2 a b =>
    have := a.toNat_lt
    have := b.toNat_lt
    rw [octets_symbol, octets_symbol, octets_symbol, octets_padding]
    exact decodeTail_of_readTail
      (by rw [readTail_symbolOctet (by omega), readTail_symbolOctet (by omega),
            readTail_symbolOctet (by omega)]
          exact (readTail_padding _ _ _ _).1)
      (by simp) (by simp) (tailOctets_two a b)
  | case3 a =>
    have := a.toNat_lt
    rw [octets_symbol, octets_symbol, octets_padding, octets_padding]
    exact decodeTail_of_readTail
      (by rw [readTail_symbolOctet (by omega), readTail_symbolOctet (by omega)]
          exact (readTail_padding _ _ _ _).2)
      (by simp) (by simp) (tailOctets_one a)
  | case4 => exact absurd rfl hne

/-- Every group has four characters. -/
theorem length_octets_encode (bytes : List UInt8) : (octets (encode bytes)).length % 4 = 0 := by
  fun_induction encode bytes with
  | case1 a b c rest ih =>
    simp only [octets_symbol, List.length_cons]
    omega
  | case2 a b => simp [octets_symbol, octets_padding, octets_nil]
  | case3 a => simp [octets_symbol, octets_padding, octets_nil]
  | case4 => rfl

/-- **Octets in base 64 are read back.** -/
theorem decode_encode (bytes : List UInt8) : decode (encode bytes) = .ok bytes := by
  by_cases hne : bytes = []
  · subst hne
    rfl
  have hlen := length_octets_encode bytes
  obtain ⟨o, r, hor⟩ := encode_ne_nil hne
  obtain ⟨last, front, hlast⟩ := List.exists_cons_of_ne_nil
    (List.reverse_eq_nil_iff.not.2 (hor ▸ List.cons_ne_nil o r))
  simp only [decode]
  rw [hlast]
  simp only [hlen, Nat.zero_ne_one, false_and, if_false, decodeGroups_encode bytes hne]

end Base64

end Abac.Text
