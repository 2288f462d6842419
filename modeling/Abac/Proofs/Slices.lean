import Abac.Text.Octets
import Abac.Proofs.Encodings
import Abac.Proofs.ZoneText

/-!
# Slices of a text

A text is a sequence of characters, and it is kept as a sequence of octets. A
scanner that works with offsets counts octets. It may look at any octet that is
there, but what it cuts out has to start and end between two characters. Where it
does not keep to that it slips, and everything is abandoned (`Scan`).

What makes cutting at offsets safe is that an octet below 128 is never a part of a
longer character: where it stands, a character stands
(`octetAt_eq_ok_iff`). So a scanner that has seen a sign of ASCII at an offset may
cut before it and behind it, whatever else there is in the text.
-/

namespace Abac.Text

open Temporal

/-- What a scanner must not do. -/
inductive Slip where
  /-- It looks at an octet that is not there. -/
  | index (offset : Nat)
  /-- It cuts out what does not start and end between characters. -/
  | slice (start stop : Nat)
  /-- It computes a number that does not fit into 32 bits. -/
  | overflow
  deriving DecidableEq, Repr

/-- What a scanner comes to, unless it slips. -/
abbrev Scan := Except Slip

/-- The octet at an offset. -/
def octetAt (s : List Char) (i : Nat) : Scan UInt8 :=
  match (octets s)[i]? with
  | some b => .ok b
  | none => .error (.index i)

/-- What stands between two offsets. -/
def slice (s : List Char) (i j : Nat) : Scan (List Char) :=
  match takeOctets j s with
  | none => .error (.slice i j)
  | some (front, _) =>
    match takeOctets i front with
    | none => .error (.slice i j)
    | some (_, piece) => .ok piece

/-- Between two characters, before the first or behind the last one. -/
def IsBoundary (s : List Char) (i : Nat) : Prop := (⟨i⟩ : String.Pos.Raw).IsValid (String.ofList s)

/-! ## Octets of a text -/

variable {s : List Char} {i j : Nat}

theorem length_octets (s : List Char) : (octets s).length = size s := by
  induction s with
  | nil => rfl
  | cons c s ih => rw [octets_cons, List.length_append, String.length_utf8EncodeChar, ih, size]

theorem size_eq_zero_iff : size s = 0 ↔ s = [] := by
  cases s with
  | nil => exact iff_of_true rfl rfl
  | cons c s =>
      have hc := c.utf8Size_pos
      refine iff_of_false ?_ (List.cons_ne_nil c s)
      rw [size]
      omega

theorem utf8ByteSize_eq (t : String) : t.utf8ByteSize = size t.toList := by
  rw [← length_octets, ← String.size_toByteArray, ← t.ofList_toList, String.toByteArray_ofList,
    String.ofList_toList, List.utf8Encode, List.size_toByteArray]
  rfl

/-- There is an octet at every offset before the end. -/
theorem exists_octetAt_iff : (∃ b, octetAt s i = .ok b) ↔ i < size s := by
  rw [octetAt, ← length_octets]
  by_cases h : i < (octets s).length
  · rw [List.getElem?_eq_getElem h]
    exact iff_of_true ⟨_, rfl⟩ h
  · rw [List.getElem?_eq_none (Nat.not_lt.mp h)]
    exact iff_of_false nofun h

theorem octetAt_eq_ok {b : UInt8} : octetAt s i = .ok b ↔ (octets s)[i]? = some b := by
  unfold octetAt
  cases (octets s)[i]? with
  | none => exact iff_of_false nofun nofun
  | some c => rw [Except.ok.injEq, Option.some.injEq]

/-- A character of ASCII is one octet. -/
theorem utf8EncodeChar_of_lt {c : Char} (h : c.toNat < 128) :
    String.utf8EncodeChar c = [c.toUInt8] := by
  refine String.utf8EncodeChar_eq_singleton (Char.utf8Size_eq_one_iff.mpr ?_)
  rw [UInt32.le_iff_toNat_le]
  exact Nat.le_of_lt_succ h

/-- No other character has an octet below 128. -/
theorem le_of_mem_utf8EncodeChar {c : Char} (h : 128 ≤ c.toNat) {b : UInt8}
    (hb : b ∈ String.utf8EncodeChar c) : 128 ≤ b.toNat := by
  have hv : ¬ c.val.toNat ≤ 127 := fun hle => absurd (Nat.lt_succ_of_le hle) (Nat.not_lt.mpr h)
  simp only [String.utf8EncodeChar, if_neg hv] at hb
  split at hb
  · simp only [List.mem_cons, List.not_mem_nil, or_false] at hb
    rcases hb with rfl | rfl <;> rw [UInt8.toNat_ofNat'] <;> omega
  · split at hb
    · simp only [List.mem_cons, List.not_mem_nil, or_false] at hb
      rcases hb with rfl | rfl | rfl <;> rw [UInt8.toNat_ofNat'] <;> omega
    · simp only [List.mem_cons, List.not_mem_nil, or_false] at hb
      rcases hb with rfl | rfl | rfl | rfl <;> rw [UInt8.toNat_ofNat'] <;> omega

theorem toUInt8_inj {c d : Char} (hc : c.toNat < 128) (hd : d.toNat < 128) :
    d.toUInt8 = c.toUInt8 ↔ d = c := by
  constructor
  · intro h
    have hn : d.toNat % 256 = c.toNat % 256 := congrArg UInt8.toNat h
    refine Char.toNat_inj.mp ?_
    omega
  · exact congrArg _

/-- A character stands at an offset of a text if it is the first one or stands in the rest. -/
theorem exists_append_cons_iff {c d : Char} :
    (∃ a r, d :: s = a ++ c :: r ∧ size a = i) ↔
      (i = 0 ∧ d = c) ∨ (d.utf8Size ≤ i ∧ ∃ a r, s = a ++ c :: r ∧ size a = i - d.utf8Size) := by
  constructor
  · rintro ⟨_ | ⟨e, a⟩, r, h, rfl⟩
    · exact .inl ⟨rfl, (List.cons.inj h).1⟩
    · obtain ⟨rfl, rfl⟩ := List.cons.inj h
      refine .inr ⟨?_, a, r, rfl, ?_⟩ <;> rw [size] <;> omega
  · rintro (⟨rfl, rfl⟩ | ⟨hle, a, r, rfl, ha⟩)
    · exact ⟨[], s, rfl, rfl⟩
    · refine ⟨d :: a, r, rfl, ?_⟩
      rw [size]
      omega

/-- **Where an octet of ASCII stands, its character stands.** -/
theorem octetAt_eq_ok_iff {c : Char} (hc : c.toNat < 128) :
    octetAt s i = .ok c.toUInt8 ↔ ∃ a r, s = a ++ c :: r ∧ size a = i := by
  rw [octetAt_eq_ok]
  induction s generalizing i with
  | nil => exact iff_of_false nofun fun ⟨a, r, h, _⟩ => by simp at h
  | cons d s ih =>
      have hd := d.utf8Size_pos
      have hl := String.length_utf8EncodeChar d
      rw [octets_cons, exists_append_cons_iff]
      by_cases hi : i < d.utf8Size
      · rw [List.getElem?_append_left (by omega)]
        by_cases ha : d.toNat < 128
        · have hone := utf8EncodeChar_of_lt ha
          rw [hone, List.length_singleton] at hl
          obtain rfl : i = 0 := by omega
          rw [hone, List.getElem?_cons_zero, Option.some.injEq, toUInt8_inj hc ha]
          exact ⟨fun h => .inl ⟨rfl, h⟩, fun h => h.elim And.right fun h => by omega⟩
        · -- the octet would be one of a longer character
          refine iff_of_false (fun h => ?_) ?_
          · have hb := le_of_mem_utf8EncodeChar (Nat.not_lt.mp ha) (List.mem_of_getElem? h)
            have hn : c.toUInt8.toNat = c.toNat % 256 := rfl
            omega
          · rintro (⟨-, rfl⟩ | ⟨hle, -⟩)
            · exact ha hc
            · omega
      · rw [List.getElem?_append_right (by omega), hl, ih]
        refine ⟨fun h => .inr ⟨by omega, h⟩, ?_⟩
        rintro (⟨rfl, -⟩ | ⟨-, h⟩)
        · omega
        · exact h

/-! ## Cutting at offsets -/

theorem takeOctets_append (a b : List Char) : takeOctets (size a) (a ++ b) = some (a, b) := by
  induction a with
  | nil => cases b <;> rfl
  | cons c a ih =>
      have hc := c.utf8Size_pos
      obtain ⟨n, hn⟩ : ∃ n, size (c :: a) = n + 1 := ⟨size (c :: a) - 1, by rw [size]; omega⟩
      rw [hn, List.cons_append, takeOctets]
      rw [size] at hn
      rw [if_pos (by omega), show n + 1 - c.utf8Size = size a by omega, ih, Option.map_some]

theorem slice_eq_ok_iff {m : List Char} :
    slice s i j = .ok m ↔ ∃ a b, s = a ++ m ++ b ∧ size a = i ∧ size (a ++ m) = j := by
  constructor
  · intro h
    unfold slice at h
    split at h
    · cases h
    · rename_i front b hj
      split at h
      · cases h
      · rename_i a piece hi
        cases h
        obtain ⟨rfl, hstop⟩ := takeOctets_eq_some hj
        obtain ⟨rfl, hstart⟩ := takeOctets_eq_some hi
        exact ⟨a, b, rfl, hstart, hstop⟩
  · rintro ⟨a, b, rfl, rfl, rfl⟩
    simp only [slice, takeOctets_append]

theorem isBoundary_iff : IsBoundary s i ↔ ∃ a b, s = a ++ b ∧ size a = i := by
  rw [IsBoundary, String.Pos.Raw.isValid_iff_exists_append]
  constructor
  · rintro ⟨a, b, hs, hi⟩
    refine ⟨a.toList, b.toList, ?_, ?_⟩
    · rw [← String.toList_append, ← hs, String.toList_ofList]
    · rw [← utf8ByteSize_eq]
      exact (congrArg String.Pos.Raw.byteIdx hi).symm
  · rintro ⟨a, b, rfl, rfl⟩
    refine ⟨String.ofList a, String.ofList b, String.ofList_append, ?_⟩
    rw [String.rawEndPos, utf8ByteSize_eq, String.toList_ofList]

/-- **A slice is there exactly between two boundaries.** -/
theorem exists_slice_iff :
    (∃ m, slice s i j = .ok m) ↔ i ≤ j ∧ IsBoundary s i ∧ IsBoundary s j := by
  simp only [slice_eq_ok_iff, isBoundary_iff]
  constructor
  · rintro ⟨m, a, b, rfl, rfl, rfl⟩
    refine ⟨?_, ⟨a, m ++ b, List.append_assoc a m b, rfl⟩, a ++ m, b, rfl, rfl⟩
    rw [size_append]
    omega
  · rintro ⟨hij, ⟨a, r, hs, rfl⟩, c, b, rfl, rfl⟩
    rcases List.append_eq_append_iff.mp hs with ⟨x, rfl, rfl⟩ | ⟨m, rfl, rfl⟩
    · -- the second offset is not behind the first, so nothing is between them
      rw [size_append] at hij
      obtain rfl : x = [] := size_eq_zero_iff.mp (by omega)
      exact ⟨[], c, r, by simp, by simp, by simp⟩
    · exact ⟨m, a, b, rfl, rfl, rfl⟩

/-- A cut inside a character of two octets. -/
example : slice ['é', ':'] 1 3 = .error (.slice 1 3) := by decide

end Abac.Text
