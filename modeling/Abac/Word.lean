/-!
# Words

Arithmetic on 64-bit words that refuses to wrap around.
-/

namespace Abac.Word

/-- The sum of two words, if it is a word. -/
def add? (a b : UInt64) : Option UInt64 :=
  if a.toNat + b.toNat < 0x10000000000000000 then some (a + b) else none

/-- The product of two words, if it is a word. -/
def mul? (a b : UInt64) : Option UInt64 :=
  if a.toNat * b.toNat < 0x10000000000000000 then some (a * b) else none

/-- A word as a signed integer of 64 bits, if it is one. -/
def signed? (a : UInt64) : Option Int64 :=
  if a.toNat < 0x8000000000000000 then some (Int64.ofNat a.toNat) else none

theorem add?_eq_some_iff {a b c : UInt64} :
    add? a b = some c ↔ a.toNat + b.toNat = c.toNat := by
  unfold add?
  split
  · rename_i h
    simp only [Option.some.injEq, ← UInt64.toNat_inj, UInt64.toNat_add]
    omega
  · rename_i h
    have := c.toNat_lt
    simp only [reduceCtorEq, false_iff]
    omega

theorem mul?_eq_some_iff {a b c : UInt64} :
    mul? a b = some c ↔ a.toNat * b.toNat = c.toNat := by
  unfold mul?
  split
  · rename_i h
    simp only [Option.some.injEq, ← UInt64.toNat_inj, UInt64.toNat_mul]
    omega
  · rename_i h
    have := c.toNat_lt
    simp only [reduceCtorEq, false_iff]
    omega

theorem signed?_eq_some_iff {a : UInt64} {i : Int64} :
    signed? a = some i ↔ i.toInt = a.toNat := by
  unfold signed?
  split
  · rename_i h
    rw [Option.some.injEq, ← Int64.toInt_inj, Int64.toInt_ofNat_of_lt h]
    exact eq_comm
  · rename_i h
    have := i.toInt_lt
    simp only [reduceCtorEq, false_iff]
    omega

end Abac.Word
