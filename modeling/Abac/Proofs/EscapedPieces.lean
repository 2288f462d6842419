import Abac.Name.Distinguished

/-!
# Pieces between separators that are not protected

A backslash protects the character behind it, another backslash included. What that means for a text
and its pieces is said by `Cut`: a separator divides only where everything in front of it back to
the last one is whole characters and whole pairs of a backslash and what it protects. The last piece
has nothing behind it, so it may end in a backslash that protects nothing.

Every text has exactly one list of pieces, the one that `unescapedPieces` finds (`cut_iff`).

To follow a text through changes it is enough to know what it does to the next character. This is
`scan`: a text of a piece leaves the next character open or protected, and what is not a text of a
piece has a separator that divides it. Parts of a text are scanned one after the other
(`scan_append`).
-/

namespace Abac

namespace DistinguishedName

variable {sep c : Char} {p q s t : List Char} {ps qs : List (List Char)}

/-! ## Texts of pieces -/

/-- A text of characters that are neither the separator nor a backslash, and of pairs of a backslash
and any character. -/
inductive Whole (sep : Char) : List Char → Prop
  | nil : Whole sep []
  | plain {c : Char} {s : List Char} (hb : c ≠ '\\') (hs : c ≠ sep) (h : Whole sep s) :
      Whole sep (c :: s)
  | pair {s : List Char} (c : Char) (h : Whole sep s) : Whole sep ('\\' :: c :: s)

/-- A text that no separator divides: a whole one, or a whole one and a backslash behind it that has
nothing to protect. -/
inductive Undivided (sep : Char) : List Char → Prop
  | whole {s : List Char} (h : Whole sep s) : Undivided sep s
  | dangling {s : List Char} (h : Whole sep s) : Undivided sep (s ++ ['\\'])

/-- A text and its pieces between the separators that no backslash protects. -/
inductive Cut (sep : Char) : List Char → List (List Char) → Prop
  | last {s : List Char} (h : Undivided sep s) : Cut sep s [s]
  | cons {p s : List Char} {ps : List (List Char)} (h : Whole sep p) (hs : Cut sep s ps) :
      Cut sep (p ++ sep :: s) (p :: ps)

theorem Cut.ne_nil (h : Cut sep s ps) : ps ≠ [] := by
  cases h <;> exact List.cons_ne_nil _ _

theorem Whole.of_plain (h : ∀ c ∈ s, c ≠ '\\' ∧ c ≠ sep) : Whole sep s := by
  induction s with
  | nil => exact .nil
  | cons c s ih =>
      obtain ⟨⟨hb, hs⟩, h⟩ := List.forall_mem_cons.mp h
      exact .plain hb hs (ih h)

/-! ## What a text does to the next character -/

/-- Whether a text protects the character behind it, if it has no separator that divides it.
`protect` says whether its own first character is protected. -/
def scan (sep : Char) : Bool → List Char → Option Bool
  | protect, [] => some protect
  | true, _ :: s => scan sep false s
  | false, c :: s =>
    if c = '\\' then scan sep true s else if c = sep then none else scan sep false s

theorem scan_append (protect : Bool) (s t : List Char) :
    scan sep protect (s ++ t) = (scan sep protect s).bind fun e => scan sep e t := by
  fun_induction scan sep protect s with
  | case1 => rfl
  | case2 c s ih => rw [List.cons_append, scan, ih]
  | case3 s ih => rw [List.cons_append, scan, if_pos rfl, ih]
  | case4 s hb => rw [List.cons_append, scan, if_neg hb, if_pos rfl, Option.bind_none]
  | case5 c s hb hs ih => rw [List.cons_append, scan, if_neg hb, if_neg hs, ih]

theorem scan_plain (hb : c ≠ '\\') (hs : c ≠ sep) (protect : Bool) (s : List Char) :
    scan sep protect (c :: s) = scan sep false s := by
  cases protect with
  | false => rw [scan, if_neg hb, if_neg hs]
  | true => rw [scan]

theorem Whole.scan (h : Whole sep s) : scan sep false s = some false := by
  induction h with
  | nil => rfl
  | plain hb hs _ ih => rw [scan_plain hb hs, ih]
  | pair c _ ih => rw [DistinguishedName.scan, if_pos rfl, DistinguishedName.scan, ih]

/-- A text that is scanned to its end is a whole one, but for a backslash that it leaves open. -/
theorem of_scan {s : List Char} {protect : Bool} (h : scan sep false s = some protect) :
    ∃ w, Whole sep w ∧ s = if protect then w ++ ['\\'] else w := by
  match s with
  | [] =>
      cases h
      exact ⟨[], .nil, rfl⟩
  | c :: s =>
      -- a backslash is taken with what it protects, so that the scan goes on unprotected
      by_cases hb : c = '\\'
      · rw [scan, if_pos hb] at h
        match s with
        | [] =>
            cases h
            exact ⟨[], .nil, by rw [hb]; rfl⟩
        | d :: s =>
            rw [scan] at h
            obtain ⟨w, hw, rfl⟩ := of_scan h
            exact ⟨'\\' :: d :: w, .pair d hw, by rw [hb]; split <;> rfl⟩
      · have hs : c ≠ sep := by
          rintro rfl
          rw [scan, if_neg hb, if_pos rfl] at h
          cases h
        rw [scan_plain hb hs] at h
        obtain ⟨w, hw, rfl⟩ := of_scan h
        exact ⟨c :: w, .plain hb hs hw, by split <;> rfl⟩

theorem whole_iff_scan : Whole sep s ↔ scan sep false s = some false := by
  constructor
  · exact Whole.scan
  · intro h
    obtain ⟨w, hw, rfl⟩ := of_scan h
    exact hw

instance (sep : Char) (s : List Char) : Decidable (Whole sep s) :=
  decidable_of_iff _ whole_iff_scan.symm

theorem undivided_iff_scan : Undivided sep s ↔ (scan sep false s).isSome = true := by
  constructor
  · rintro (h | h)
    · rw [h.scan]
      rfl
    · rw [scan_append, h.scan]
      rfl
  · intro h
    obtain ⟨protect, hscan⟩ := Option.isSome_iff_exists.mp h
    obtain ⟨w, hw, rfl⟩ := of_scan hscan
    cases protect with
    | false => exact .whole hw
    | true => exact .dangling hw

theorem scan_whole_append (h : Whole sep s) (t : List Char) :
    scan sep false (s ++ t) = scan sep false t := by
  rw [scan_append, h.scan, Option.bind_some]

/-- What a text starts with has no divider if the text has none. -/
theorem Undivided.of_append (h : Undivided sep (s ++ t)) : Undivided sep s := by
  rw [undivided_iff_scan, scan_append] at h
  exact undivided_iff_scan.mpr (Option.isSome_of_isSome_bind h)

/-! ## The pieces of a text -/

/-- A text in front of a divider is a piece, and the rest is cut as if it stood alone. -/
theorem unescapedPieces_append (h : Whole sep p) (hsep : sep ≠ '\\') (s : List Char) :
    unescapedPieces sep false (p ++ sep :: s) = p :: unescapedPieces sep false s := by
  induction h with
  | nil => simp [unescapedPieces, hsep]
  | plain hb hs _ ih => simp [unescapedPieces, hb, hs, ih, Text.growFirst]
  | pair c _ ih => simp [unescapedPieces, ih, Text.growFirst]

theorem unescapedPieces_whole (h : Whole sep s) :
    unescapedPieces sep false s = [s] ∧
      unescapedPieces sep false (s ++ ['\\']) = [s ++ ['\\']] := by
  induction h with
  | nil => simp [unescapedPieces, Text.growFirst]
  | plain hb hs _ ih => simp [unescapedPieces, hb, hs, ih, Text.growFirst]
  | pair c _ ih => simp [unescapedPieces, ih, Text.growFirst]

theorem unescapedPieces_of_cut (h : Cut sep s ps) (hsep : sep ≠ '\\') :
    unescapedPieces sep false s = ps := by
  induction h with
  | last h =>
      cases h with
      | whole h => exact (unescapedPieces_whole h).1
      | dangling h => exact (unescapedPieces_whole h).2
  | cons h _ ih => rw [unescapedPieces_append h hsep, ih]

theorem cut_plain (h : Cut sep s ps) (hb : c ≠ '\\') (hs : c ≠ sep) :
    Cut sep (c :: s) (Text.growFirst c ps) := by
  cases h with
  | last h =>
      cases h with
      | whole h => exact .last (.whole (.plain hb hs h))
      | dangling h => exact .last (.dangling (.plain hb hs h))
  | cons h hrest => exact .cons (.plain hb hs h) hrest

theorem cut_pair (h : Cut sep s ps) (c : Char) :
    Cut sep ('\\' :: c :: s) (Text.growFirst '\\' (Text.growFirst c ps)) := by
  cases h with
  | last h =>
      cases h with
      | whole h => exact .last (.whole (.pair c h))
      | dangling h => exact .last (.dangling (.pair c h))
  | cons h hrest => exact .cons (.pair c h) hrest

theorem cut_unescapedPieces (sep : Char) (s : List Char) :
    Cut sep s (unescapedPieces sep false s) := by
  match s with
  | [] => exact .last (.whole .nil)
  | c :: s =>
      by_cases hb : c = '\\'
      · match s with
        | [] =>
            rw [hb]
            exact .last (.dangling .nil)
        | d :: s =>
            have hcut := cut_pair (cut_unescapedPieces sep s) d
            simpa [unescapedPieces, hb] using hcut
      · have hcut := cut_unescapedPieces sep s
        by_cases hs : c = sep
        · subst hs
          simpa [unescapedPieces, hb] using Cut.cons .nil hcut
        · simpa [unescapedPieces, hb, hs] using cut_plain hcut hb hs

/-- **Every text has one list of pieces**, the one that is found. -/
theorem cut_iff (hsep : sep ≠ '\\') : Cut sep s ps ↔ unescapedPieces sep false s = ps := by
  constructor
  · intro h
    exact unescapedPieces_of_cut h hsep
  · rintro rfl
    exact cut_unescapedPieces sep s

theorem Cut.unique (h : Cut sep s ps) (h' : Cut sep s qs) (hsep : sep ≠ '\\') : ps = qs := by
  rw [← unescapedPieces_of_cut h hsep, unescapedPieces_of_cut h' hsep]

theorem Cut.undivided (h : Cut sep s ps) : ∀ p ∈ ps, Undivided sep p := by
  induction h with
  | last h => exact List.forall_mem_singleton.mpr h
  | cons h _ ih => exact List.forall_mem_cons.mpr ⟨.whole h, ih⟩

end DistinguishedName

end Abac
