/-!
# Sets of characters

A set of characters is kept as ranges of code points in ascending order, no two of which touch. A
range may span the surrogates, which are no characters: the character after `D7FF` is `E000`. A
range that ends at `D7FF` and one that starts at `E000` stay two all the same, because their code
points do not touch.
-/

namespace Abac

/-- A set of characters, as ranges of code points. -/
structure CharSet where
  /-- The first and the last code point of every range, in ascending order. -/
  ranges : List (Nat × Nat)
  deriving DecidableEq, Repr

namespace CharSet

/-! ## Neighbouring code points -/

/-- The last code point of all. -/
def lastCode : Nat := 0x10FFFF

/-- The character after one. -/
def next (n : Nat) : Nat := if n = 0xD7FF then 0xE000 else n + 1

/-- The character before one. -/
def previous (n : Nat) : Nat := if n = 0xE000 then 0xD7FF else n - 1

/-! ## Making sets -/

/-- Ranges in ascending order after `r`, with those joined that meet or overlap. -/
def joinFrom (r : Nat × Nat) : List (Nat × Nat) → List (Nat × Nat)
  | [] => [r]
  | s :: rest =>
    if s.1 ≤ r.2 + 1 then joinFrom (r.1, max r.2 s.2) rest else r :: joinFrom s rest

/-- Ranges in ascending order, with those joined that meet or overlap. -/
def join : List (Nat × Nat) → List (Nat × Nat)
  | [] => []
  | r :: rest => joinFrom r rest

/-- Whether a range starts no later than another one. -/
def startsBefore (r s : Nat × Nat) : Bool := r.1 ≤ s.1

/-- The set of the characters of some ranges, in any order. -/
def ofRanges (ranges : List (Nat × Nat)) : CharSet := ⟨join (ranges.mergeSort startsBefore)⟩

/-- No character. -/
def empty : CharSet := ⟨[]⟩

/-- The characters from one code point to another. -/
def range (first last : Nat) : CharSet := ⟨[(first, last)]⟩

/-- A single character. -/
def single (c : Char) : CharSet := range c.toNat c.toNat

/-- All characters. -/
def all : CharSet := range 0 lastCode

/-! ## Members -/

/-- Whether a code point belongs to a set. -/
def contains (s : CharSet) (n : Nat) : Bool := s.ranges.any fun r => r.1 ≤ n && n ≤ r.2

/-- Whether a set has no member. -/
def isEmpty (s : CharSet) : Bool := s.ranges.isEmpty

/-- Whether all members are below U+0080. -/
def isAscii (s : CharSet) : Bool := s.ranges.all fun r => r.2 < 0x80

/-- The only member of a set. -/
def only? (s : CharSet) : Option Char :=
  match s.ranges with
  | [(a, b)] => if a = b then some (Char.ofNat a) else none
  | _ => none

/-! ## Operations -/

/-- The members of either set. -/
def union (s t : CharSet) : CharSet := ofRanges (s.ranges ++ t.ranges)

/-- The members of some sets. -/
def unions (sets : List CharSet) : CharSet := ofRanges (sets.flatMap ranges)

/-- The characters between two ranges, given the last character before the gap and the first one
after it. When nothing but surrogates lies between them, they themselves count as the gap: going on
from the one and back from the other leads past the other and past the one. -/
def gap (before after : Nat) : Nat × Nat :=
  let a := next before
  let b := previous after
  if a ≤ b then (a, b) else (b, a)

/-- The gaps between ranges after one that ends at `last`, and what is left after them. -/
def gapsFrom (last : Nat) : List (Nat × Nat) → List (Nat × Nat)
  | [] => if last < lastCode then [(next last, lastCode)] else []
  | r :: rest => gap last r.1 :: gapsFrom r.2 rest

/-- The characters that do not belong to a set. -/
def complement (s : CharSet) : CharSet :=
  match s.ranges with
  | [] => all
  | r :: rest =>
    ⟨(if 0 < r.1 then [(0, previous r.1)] else []) ++ gapsFrom r.2 rest⟩

/-- What a range has in common with ranges in ascending order. -/
def clip (r : Nat × Nat) (ranges : List (Nat × Nat)) : List (Nat × Nat) :=
  ranges.filterMap fun s =>
    let low := max r.1 s.1
    let high := min r.2 s.2
    if low ≤ high then some (low, high) else none

/-- The members of both sets. -/
def intersection (s t : CharSet) : CharSet := ⟨s.ranges.flatMap fun r => clip r t.ranges⟩

/-- What is left of a range without ranges in ascending order. -/
def cut (r : Nat × Nat) : List (Nat × Nat) → List (Nat × Nat)
  | [] => [r]
  | s :: rest =>
    if s.2 < r.1 then cut r rest
    else if r.2 < s.1 then [r]
    else
      let before := if r.1 < s.1 then [(r.1, previous s.1)] else []
      if s.2 < r.2 then before ++ cut (next s.2, r.2) rest else before

/-- The members of the first set that do not belong to the second. -/
def difference (s t : CharSet) : CharSet := ⟨s.ranges.flatMap fun r => cut r t.ranges⟩

/-- The members of exactly one of two sets. -/
def symmetricDifference (s t : CharSet) : CharSet :=
  difference (union s t) (intersection s t)

/-! ## Members of results -/

theorem contains_iff (s : CharSet) (n : Nat) :
    s.contains n = true ↔ ∃ r ∈ s.ranges, r.1 ≤ n ∧ n ≤ r.2 := by
  rw [contains, List.any_eq_true]
  simp only [Bool.and_eq_true, decide_eq_true_eq]

theorem startsBefore_trans (r s t : Nat × Nat) (hrs : startsBefore r s = true)
    (hst : startsBefore s t = true) : startsBefore r t = true := by
  simp only [startsBefore, decide_eq_true_eq] at hrs hst ⊢
  exact Nat.le_trans hrs hst

theorem startsBefore_total (r s : Nat × Nat) :
    (startsBefore r s || startsBefore s r) = true := by
  simp only [startsBefore, Bool.or_eq_true, decide_eq_true_eq]
  exact Nat.le_total r.1 s.1

/-- Joining ranges in ascending order keeps their members: a range that meets the one before it goes
on where that one ends. -/
theorem exists_mem_joinFrom (n : Nat) (rest : List (Nat × Nat)) :
    ∀ r, (r :: rest).Pairwise (fun s t => startsBefore s t = true) →
      ((∃ q ∈ joinFrom r rest, q.1 ≤ n ∧ n ≤ q.2) ↔ ∃ q ∈ r :: rest, q.1 ≤ n ∧ n ≤ q.2) := by
  induction rest with
  | nil => exact fun r _ => Iff.rfl
  | cons s rest ih =>
    intro r h
    obtain ⟨hr, hs⟩ := List.pairwise_cons.mp h
    obtain ⟨hs', hrest⟩ := List.pairwise_cons.mp hs
    have hrs : r.1 ≤ s.1 := of_decide_eq_true (hr s List.mem_cons_self)
    rw [joinFrom]
    split
    · rw [ih (r.1, max r.2 s.2) (List.pairwise_cons.mpr
        ⟨fun t ht => hr t (List.mem_cons_of_mem s ht), hrest⟩)]
      simp only [List.mem_cons, exists_eq_or_imp]
      rw [← or_assoc]
      refine or_congr ?_ Iff.rfl
      omega
    · simp only [List.mem_cons, exists_eq_or_imp] at ih ⊢
      rw [ih s hs]

/-- The members of a set are those of the ranges that it was made of. -/
theorem contains_ofRanges_iff (ranges : List (Nat × Nat)) (n : Nat) :
    (ofRanges ranges).contains n = true ↔ ∃ r ∈ ranges, r.1 ≤ n ∧ n ≤ r.2 := by
  have hsorted := List.pairwise_mergeSort startsBefore_trans startsBefore_total ranges
  have hmem : ∀ r, r ∈ ranges.mergeSort startsBefore ↔ r ∈ ranges := fun r => List.mem_mergeSort
  rw [contains_iff, ofRanges]
  simp only [← hmem]
  generalize ranges.mergeSort startsBefore = sorted at hsorted
  cases sorted with
  | nil => exact Iff.rfl
  | cons r rest => exact exists_mem_joinFrom n rest r hsorted

theorem contains_union_iff (s t : CharSet) (n : Nat) :
    (s.union t).contains n = true ↔ s.contains n = true ∨ t.contains n = true := by
  rw [union, contains_ofRanges_iff, contains_iff, contains_iff]
  simp only [List.mem_append, or_and_right, exists_or]

theorem contains_unions_iff (sets : List CharSet) (n : Nat) :
    (unions sets).contains n = true ↔ ∃ s ∈ sets, s.contains n = true := by
  rw [unions, contains_ofRanges_iff]
  simp only [List.mem_flatMap, contains_iff]
  constructor
  · rintro ⟨r, ⟨s, hs, hr⟩, h⟩
    exact ⟨s, hs, r, hr, h⟩
  · rintro ⟨s, hs, r, hr, h⟩
    exact ⟨r, ⟨s, hs, hr⟩, h⟩

/-- A character in front of everything that is taken away stays. The surrogates are left out, as the
character before a range may be none. -/
theorem exists_mem_cut_of_lt {n : Nat} {r : Nat × Nat} (hn : n < 0xD800) (hlow : r.1 ≤ n)
    (hhigh : n ≤ r.2) {ranges : List (Nat × Nat)} (h : ∀ s ∈ ranges, n < s.1) :
    ∃ q ∈ cut r ranges, q.1 ≤ n ∧ n ≤ q.2 := by
  induction ranges with
  | nil => exact ⟨r, List.mem_singleton_self r, hlow, hhigh⟩
  | cons s rest ih =>
    obtain ⟨hs, hrest⟩ := List.forall_mem_cons.mp h
    rw [cut]
    split
    · exact ih hrest
    · split
      · exact ⟨r, List.mem_singleton_self r, hlow, hhigh⟩
      · have hprevious : n ≤ previous s.1 := by
          unfold previous
          split <;> omega
        have hbefore : r.1 < s.1 := Nat.lt_of_le_of_lt hlow hs
        refine ⟨(r.1, previous s.1), ?_, hlow, hprevious⟩
        simp only [if_pos hbefore]
        split
        · exact List.mem_append_left _ (List.mem_singleton_self _)
        · exact List.mem_singleton_self _

theorem contains_difference_of_lt {s t : CharSet} {n : Nat} (hs : s.contains n = true)
    (hn : n < 0xD800) (ht : ∀ r ∈ t.ranges, n < r.1) : (s.difference t).contains n = true := by
  obtain ⟨r, hr, hlow, hhigh⟩ := (contains_iff s n).mp hs
  obtain ⟨q, hq, h⟩ := exists_mem_cut_of_lt hn hlow hhigh ht
  exact (contains_iff _ n).mpr ⟨q, List.mem_flatMap.mpr ⟨r, hr, hq⟩, h⟩

end CharSet

end Abac
