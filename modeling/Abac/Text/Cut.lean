/-!
# Cutting text at a separator

Three ways to cut a text at a character: at its first occurrence, at its last, and at every one.
The lemmas say that nothing but separators is lost: the pieces, put together again with the
separator between them, are the text.
-/

namespace Abac.Text

/-- The text before the first `sep` and the text after it; `none` if there is no `sep`. -/
def cutFirst (sep : Char) : List Char → Option (List Char × List Char)
  | [] => none
  | c :: r => if c = sep then some ([], r) else (cutFirst sep r).map fun p => (c :: p.1, p.2)

/-- The text before the last `sep` and the text after it; `none` if there is no `sep`. -/
def cutLast (sep : Char) : List Char → Option (List Char × List Char)
  | [] => none
  | c :: r =>
    match cutLast sep r with
    | some p => some (c :: p.1, p.2)
    | none => if c = sep then some ([], r) else none

/-- Put `c` in front of the first piece. -/
def growFirst (c : Char) : List (List Char) → List (List Char)
  | [] => [[c]]
  | p :: ps => (c :: p) :: ps

/-- The pieces between the separators, empty ones included; there is always at least one. -/
def pieces (sep : Char) : List Char → List (List Char)
  | [] => [[]]
  | c :: r => if c = sep then [] :: pieces sep r else growFirst c (pieces sep r)

/-- Drop `c` if the text starts with it. -/
def dropHead? (c : Char) : List Char → Option (List Char)
  | d :: r => if d = c then some r else none
  | [] => none

theorem cutFirst_eq_some {sep : Char} {s a b : List Char} (h : cutFirst sep s = some (a, b)) :
    s = a ++ sep :: b ∧ sep ∉ a := by
  induction s generalizing a with
  | nil => simp [cutFirst] at h
  | cons c r ih =>
    by_cases hc : c = sep
    · simp [cutFirst, hc] at h
      obtain ⟨rfl, rfl⟩ := h
      simp [hc]
    · simp only [cutFirst, hc, if_false, Option.map_eq_some_iff] at h
      obtain ⟨p, hp, hq⟩ := h
      obtain ⟨rfl, rfl⟩ := Prod.mk.inj hq
      obtain ⟨hr, hn⟩ := ih (a := p.1) (by simp [hp])
      exact ⟨by simp [← hr], by simp [hn, Ne.symm hc]⟩

theorem cutFirst_append {sep : Char} {a : List Char} (b : List Char) (h : sep ∉ a) :
    cutFirst sep (a ++ sep :: b) = some (a, b) := by
  induction a with
  | nil => simp [cutFirst]
  | cons c r ih =>
    simp only [List.mem_cons, not_or] at h
    simp [cutFirst, Ne.symm h.1, ih h.2]

theorem cutFirst_eq_none_iff {sep : Char} {s : List Char} : cutFirst sep s = none ↔ sep ∉ s := by
  induction s with
  | nil => simp [cutFirst]
  | cons c r ih =>
    by_cases hc : c = sep
    · simp [cutFirst, hc]
    · simp [cutFirst, hc, ih, Ne.symm hc]

theorem cutLast_eq_none_iff {sep : Char} {s : List Char} : cutLast sep s = none ↔ sep ∉ s := by
  induction s with
  | nil => simp [cutLast]
  | cons c r ih =>
    cases hr : cutLast sep r with
    | some p =>
      have : sep ∈ r := by
        by_cases hm : sep ∈ r
        · exact hm
        · simp [ih.2 hm] at hr
      simp [cutLast, hr, this]
    | none =>
      have hm := ih.1 hr
      by_cases hc : c = sep
      · simp [cutLast, hr, hc]
      · simp [cutLast, hr, hc, hm, Ne.symm hc]

theorem cutLast_eq_some {sep : Char} {s a b : List Char} (h : cutLast sep s = some (a, b)) :
    s = a ++ sep :: b ∧ sep ∉ b := by
  induction s generalizing a with
  | nil => simp [cutLast] at h
  | cons c r ih =>
    cases hr : cutLast sep r with
    | some p =>
      simp only [cutLast, hr, Option.some.injEq, Prod.mk.injEq] at h
      obtain ⟨rfl, rfl⟩ := h
      obtain ⟨he, hn⟩ := ih (a := p.1) (by simp [hr])
      exact ⟨by simp [← he], hn⟩
    | none =>
      by_cases hc : c = sep
      · simp only [cutLast, hr, hc, if_true, Option.some.injEq, Prod.mk.injEq] at h
        obtain ⟨rfl, rfl⟩ := h
        exact ⟨by simp [hc], cutLast_eq_none_iff.1 hr⟩
      · simp [cutLast, hr, hc] at h

theorem cutLast_append {sep : Char} (a : List Char) {b : List Char} (h : sep ∉ b) :
    cutLast sep (a ++ sep :: b) = some (a, b) := by
  induction a with
  | nil => simp [cutLast, cutLast_eq_none_iff.2 h]
  | cons c r ih => simp [cutLast, ih]

theorem pieces_ne_nil (sep : Char) (s : List Char) : pieces sep s ≠ [] := by
  cases s with
  | nil => simp [pieces]
  | cons c r =>
    unfold pieces
    split
    · simp
    · cases pieces sep r <;> simp [growFirst]

theorem pieces_of_not_mem {sep : Char} {s : List Char} (h : sep ∉ s) : pieces sep s = [s] := by
  induction s with
  | nil => rfl
  | cons c r ih =>
    simp only [List.mem_cons, not_or] at h
    rw [pieces, if_neg (Ne.symm h.1), ih h.2, growFirst]

theorem pieces_append {sep : Char} {a : List Char} (b : List Char) (h : sep ∉ a) :
    pieces sep (a ++ sep :: b) = a :: pieces sep b := by
  induction a with
  | nil => rw [List.nil_append, pieces, if_pos rfl]
  | cons c r ih =>
    simp only [List.mem_cons, not_or] at h
    rw [List.cons_append, pieces, if_neg (Ne.symm h.1), ih h.2, growFirst]

theorem intercalate_growFirst {sep c : Char} {ps : List (List Char)} (h : ps ≠ []) :
    [sep].intercalate (growFirst c ps) = c :: [sep].intercalate ps := by
  match ps with
  | [p] => simp [growFirst]
  | p :: q :: ps => simp [growFirst]

theorem intercalate_pieces (sep : Char) (s : List Char) :
    [sep].intercalate (pieces sep s) = s := by
  induction s with
  | nil => rfl
  | cons c r ih =>
    by_cases hc : c = sep
    · obtain ⟨p, ps, hps⟩ := List.exists_cons_of_ne_nil (pieces_ne_nil sep r)
      rw [pieces, if_pos hc, hps, List.intercalate_cons_cons, ← hps, ih, hc]
      rfl
    · rw [pieces, if_neg hc, intercalate_growFirst (pieces_ne_nil sep r), ih]

theorem not_mem_of_mem_pieces {sep : Char} {s p : List Char} (h : p ∈ pieces sep s) : sep ∉ p := by
  induction s generalizing p with
  | nil => simp_all [pieces]
  | cons c r ih =>
    obtain ⟨q, qs, hqs⟩ := List.exists_cons_of_ne_nil (pieces_ne_nil sep r)
    by_cases hc : c = sep
    · rw [pieces, if_pos hc, List.mem_cons] at h
      rcases h with rfl | h
      · exact List.not_mem_nil
      · exact ih h
    · rw [pieces, if_neg hc, hqs, growFirst, List.mem_cons] at h
      rw [hqs] at ih
      rcases h with rfl | h
      · exact List.not_mem_cons_of_ne_of_not_mem (Ne.symm hc) (ih List.mem_cons_self)
      · exact ih (List.mem_cons_of_mem q h)

/-- The pieces are the only texts without the separator that make up the text when separators are
put between them. -/
theorem pieces_eq_iff {sep : Char} {s : List Char} {ps : List (List Char)} :
    pieces sep s = ps ↔ ps ≠ [] ∧ (∀ p ∈ ps, sep ∉ p) ∧ s = [sep].intercalate ps := by
  constructor
  · rintro rfl
    exact ⟨pieces_ne_nil sep s, fun p hp => not_mem_of_mem_pieces hp,
      (intercalate_pieces sep s).symm⟩
  · rintro ⟨hne, hps, rfl⟩
    induction ps with
    | nil => exact absurd rfl hne
    | cons p ps ih =>
      cases ps with
      | nil =>
        rw [List.intercalate_singleton]
        exact pieces_of_not_mem (hps p List.mem_cons_self)
      | cons q ps =>
        rw [List.intercalate_cons_cons, List.append_assoc, List.singleton_append,
          pieces_append _ (hps p List.mem_cons_self),
          ih (List.cons_ne_nil q ps) fun r hr => hps r (List.mem_cons_of_mem p hr)]

end Abac.Text
