import Abac.Unicode.Case

/-!
# Lower case of plain text

What lower case does to the characters of plain text is a matter of the tables, and said here once.
Signs in front of the small letters stay what they are, and nothing else becomes one of them
(`exists_lowerAfter_cons`), so a text has the same signs in the same places after its case is gone.
And it does not matter to the lower case of a text in which case its letters from A to Z stand
(`lower_lowerAscii`). The second is more than it seems: whether a capital sigma is a final one
depends on the letters around it.

The tables are looked through one row at a time.
-/

namespace Abac.Unicode

variable {c d : Char} {n : Nat} {rows : List String}

/-! ## Looking through tables -/

theorem all_pieces_ofList {test : List Char → Bool} {row : List Char}
    (h : (Text.pieces ' ' row).all test = true) :
    (Text.pieces ' ' (String.ofList row).toList).all test = true := by
  rwa [String.toList_ofList]

theorem forall_mem_entries {test : List Char → Bool}
    (h : ∀ row ∈ rows, (Text.pieces ' ' row.toList).all test = true) :
    ∀ e ∈ entries rows, test e = true := by
  intro e he
  obtain ⟨row, hrow, he⟩ := List.mem_flatMap.mp he
  exact List.all_eq_true.mp (h row hrow) e he

theorem contains_setOf_iff :
    (setOf rows).contains n = true ↔
      ∃ e ∈ entries rows, ∃ r ∈ (span e).ranges, r.1 ≤ n ∧ n ≤ r.2 := by
  rw [setOf, CharSet.contains_ofRanges_iff]
  constructor
  · rintro ⟨r, hr, h⟩
    obtain ⟨e, he, hr⟩ := List.mem_flatMap.mp hr
    exact ⟨e, he, r, hr, h⟩
  · rintro ⟨e, he, r, hr, h⟩
    exact ⟨r, List.mem_flatMap.mpr ⟨e, he, hr⟩, h⟩

/-- An entry of the first row tells of members. -/
theorem contains_setOf_cons {e row : List Char} {r : Nat × Nat} (he : e ∈ Text.pieces ' ' row)
    (hr : r ∈ (span e).ranges) (hlow : r.1 ≤ n) (hhigh : n ≤ r.2) :
    (setOf (String.ofList row :: rows)).contains n = true := by
  refine contains_setOf_iff.mpr
    ⟨e, List.mem_flatMap.mpr ⟨_, List.mem_cons_self, ?_⟩, r, hr, hlow, hhigh⟩
  rwa [String.toList_ofList]

/-! ## The letters from A to Z -/

theorem toNat_toLower (c : Char) : c.toLower.toNat =
    if 0x41 ≤ c.toNat ∧ c.toNat ≤ 0x5A then c.toNat + 0x20 else c.toNat := by
  have hA : 'A'.val.toNat = 0x41 := rfl
  have hZ : 'Z'.val.toNat = 0x5A := rfl
  have hdistance : ('a'.val - 'A'.val).toNat = 0x20 := rfl
  unfold Char.toLower
  simp only [ge_iff_le, UInt32.le_iff_toNat_le, hA, hZ, Char.toNat_val]
  split
  · rename_i h
    show (c.val + ('a'.val - 'A'.val)).toNat = _
    rw [UInt32.toNat_add, hdistance, Char.toNat_val]
    omega
  · rfl

theorem toLower_toLower (c : Char) : c.toLower.toLower = c.toLower := by
  rw [← Char.toNat_inj, toNat_toLower c.toLower, if_neg]
  rw [toNat_toLower]
  split <;> omega

/-- The code points of the letters from A to Z in either case. -/
def IsPlainLetter (n : Nat) : Prop := (0x41 ≤ n ∧ n ≤ 0x5A) ∨ (0x61 ≤ n ∧ n ≤ 0x7A)

/-- A letter keeps what all letters have in common, and everything else stays. -/
theorem toLower_congr {P : Nat → Bool} {b : Bool} (h : ∀ n, IsPlainLetter n → P n = b) (c : Char) :
    P c.toLower.toNat = P c.toNat := by
  rw [toNat_toLower]
  split
  · rename_i hc
    rw [h _ (.inl hc), h _ (.inr ⟨by omega, by omega⟩)]
  · rfl

/-! ## Signs -/

/-- A character in front of the small letters that is no letter. -/
def IsSign (c : Char) : Prop := 0 < c.toNat ∧ c.toNat < 0x61 ∧ ¬(0x41 ≤ c.toNat ∧ c.toNat ≤ 0x5A)

instance (c : Char) : Decidable (IsSign c) := inferInstanceAs (Decidable (_ ∧ _ ∧ _))

theorem IsSign.toLower_eq_iff (hd : IsSign d) : c.toLower = d ↔ c = d := by
  unfold IsSign at hd
  rw [← Char.toNat_inj, ← Char.toNat_inj, toNat_toLower]
  split <;> omega

/-- What lies beyond the plain characters is moved to small letters or beyond them. -/
def movesFar (e : List Char) : Bool :=
  (shift e).span.last < 0x80 || (0x61 : Int) ≤ (shift e).span.first + (shift e).distance

theorem lowerRows_movesFar : ∀ e ∈ entries lowerRows, movesFar e = true := by
  refine forall_mem_entries ?_
  unfold lowerRows
  repeat refine List.forall_mem_cons.mpr ⟨all_pieces_ofList (by decide +kernel), ?_⟩
  exact List.forall_mem_nil _

theorem le_move_lowerTable (h : 0x80 ≤ n) : 0x61 ≤ move lowerTable n := by
  unfold move
  split
  · rename_i s hfind
    have hcontains := List.find?_some hfind
    obtain ⟨e, he, rfl⟩ := List.mem_map.mp (List.mem_of_find?_eq_some hfind)
    have hfar := lowerRows_movesFar e he
    simp only [Span.contains, Bool.and_eq_true, decide_eq_true_eq] at hcontains
    simp only [movesFar, Bool.or_eq_true, decide_eq_true_eq] at hfar
    -- the entry reaches beyond the plain characters, so it is one of those that move far
    rw [Shift.apply]
    omega
  · omega

theorem not_isSign_ofNat (h : 0x61 ≤ n) : ¬IsSign (Char.ofNat n) := by
  by_cases hvalid : n.isValidChar
  · have hchar : Char.ofNat n = Char.ofNatAux n hvalid := dif_pos hvalid
    have hcode : (Char.ofNatAux n hvalid).toNat = n := rfl
    rw [hchar, IsSign, hcode]
    omega
  · have hchar : Char.ofNat n = Char.ofNat 0 := dif_neg hvalid
    rw [hchar]
    decide

theorem mem_lowerChar_iff (hd : IsSign d) : d ∈ lowerChar c ↔ c = d := by
  unfold lowerChar
  by_cases hplain : c.toNat < 0x80
  · rw [if_pos hplain, List.mem_singleton, eq_comm, hd.toLower_eq_iff]
  · have hc : c ≠ d := by
      rintro rfl
      exact hplain (by have := hd.2.1; omega)
    rw [if_neg hplain]
    -- the capital I with a dot becomes two characters, the others are moved as the table says
    split
    · refine iff_of_false (fun hmem => ?_) hc
      rcases List.mem_cons.mp hmem with rfl | hmem
      · exact absurd hd (by decide)
      · obtain rfl := List.mem_singleton.mp hmem
        exact not_isSign_ofNat (by decide) hd
    · refine iff_of_false (fun hmem => ?_) hc
      obtain rfl := List.mem_singleton.mp hmem
      exact not_isSign_ofNat (le_move_lowerTable (by omega)) hd

theorem lowerChar_ne_nil (c : Char) : lowerChar c ≠ [] := by
  unfold lowerChar
  split
  · exact List.cons_ne_nil _ _
  · split <;> exact List.cons_ne_nil _ _

theorem IsSign.lowerChar (h : IsSign c) : lowerChar c = [c] := by
  rw [Unicode.lowerChar, if_pos (by have := h.2.1; omega), h.toLower_eq_iff.mpr rfl]

/-- **One character of a text in lower case**: a sign stays, and nothing else becomes one. -/
theorem exists_lowerAfter_cons (before : List Char) (c : Char) (rest : List Char) :
    ∃ here, lowerAfter before (c :: rest) = here ++ lowerAfter (c :: before) rest ∧
      here ≠ [] ∧ (∀ d, IsSign d → (d ∈ here ↔ c = d)) ∧ (IsSign c → here = [c]) := by
  by_cases hsigma : c.toNat = 0x3A3
  · have hc : ∀ d, IsSign d → c ≠ d := by
      rintro d hd rfl
      have := hd.2.1
      omega
    have hhere : ∀ n, 0x61 ≤ n → ∀ d, IsSign d → (d ∈ [Char.ofNat n] ↔ c = d) := by
      intro n hn d hd
      refine iff_of_false (fun hmem => ?_) (hc d hd)
      obtain rfl := List.mem_singleton.mp hmem
      exact not_isSign_ofNat hn hd
    -- a small sigma is no sign, at the end of a word or inside
    rw [lowerAfter, if_pos hsigma]
    split
    · exact ⟨_, rfl, List.cons_ne_nil _ _, hhere _ (by decide), fun h => absurd rfl (hc c h)⟩
    · exact ⟨_, rfl, List.cons_ne_nil _ _, hhere _ (by decide), fun h => absurd rfl (hc c h)⟩
  · rw [lowerAfter, if_neg hsigma]
    exact ⟨_, rfl, lowerChar_ne_nil c, fun d hd => mem_lowerChar_iff hd, IsSign.lowerChar⟩

/-! ## Letters with a case -/

/-- Whether an entry has no letter from A to Z. -/
def avoidsLetters (e : List Char) : Bool :=
  (span e).ranges.all fun r => r.2 < 0x41 || (0x5A < r.1 && r.2 < 0x61) || 0x7A < r.1

theorem not_contains_setOf
    (h : ∀ row ∈ rows, (Text.pieces ' ' row.toList).all avoidsLetters = true)
    (hn : IsPlainLetter n) : (setOf rows).contains n = false := by
  refine Bool.eq_false_iff.mpr fun hcontains => ?_
  obtain ⟨e, he, r, hr, hlow, hhigh⟩ := contains_setOf_iff.mp hcontains
  have havoids := List.all_eq_true.mp (forall_mem_entries h e he) r hr
  simp only [Bool.or_eq_true, Bool.and_eq_true, decide_eq_true_eq] at havoids
  unfold IsPlainLetter at hn
  omega

/-- The categories of characters that case ignores. -/
def ignorableCategories : List Category :=
  [.nonspacingMark, .enclosingMark, .format, .modifierLetter, .modifierSymbol]

theorem caseIgnorableRows_avoidLetters :
    ∀ row ∈ midLetterRows ++ midNumberLetterRows ++ ["27"] ++
      ignorableCategories.flatMap Category.rows ++ laterCaseIgnorableRows,
        (Text.pieces ' ' row.toList).all avoidsLetters = true := by
  simp only [ignorableCategories, Category.rows, List.flatMap_cons, List.flatMap_nil,
    List.forall_mem_append]
  unfold midLetterRows midNumberLetterRows Category.nonspacingMarkRows Category.enclosingMarkRows
    Category.formatRows Category.modifierLetterRows Category.modifierSymbolRows
    laterCaseIgnorableRows
  refine ⟨⟨⟨⟨?_, ?_⟩, ?_⟩, ?_, ?_, ?_, ?_, ?_, ?_⟩, ?_⟩
  all_goals
    repeat refine List.forall_mem_cons.mpr ⟨all_pieces_ofList (by decide +kernel), ?_⟩
    exact List.forall_mem_nil _

theorem caseIgnorableSet_plainLetter (hn : IsPlainLetter n) :
    caseIgnorableSet.contains n = false := by
  have hrows := caseIgnorableRows_avoidLetters
  rw [List.forall_mem_append, List.forall_mem_append] at hrows
  obtain ⟨⟨hword, hcategory⟩, hlater⟩ := hrows
  refine Bool.eq_false_iff.mpr fun h => ?_
  rcases (CharSet.contains_union_iff _ _ n).mp h with h | h
  · rcases (CharSet.contains_union_iff _ _ n).mp h with h | h
    · exact Bool.eq_false_iff.mp (not_contains_setOf hword hn) h
    · exact Bool.eq_false_iff.mp (not_contains_setOf hcategory hn) h
  · exact Bool.eq_false_iff.mp (not_contains_setOf hlater hn) h

theorem uppercaseSet_contains (hlow : 0x41 ≤ n) (hhigh : n ≤ 0x5A) :
    Property.uppercaseSet.contains n = true := by
  unfold Property.uppercaseSet Category.uppercaseLetterRows
  exact contains_setOf_cons (e := ['4', '1', '-', '5', 'A']) (r := (0x41, 0x5A))
    (by decide +kernel) (by decide) hlow hhigh

theorem lowercaseSet_contains (hlow : 0x61 ≤ n) (hhigh : n ≤ 0x7A) :
    Property.lowercaseSet.contains n = true := by
  unfold Property.lowercaseSet Category.lowercaseLetterRows
  exact contains_setOf_cons (e := ['6', '1', '-', '7', 'A']) (r := (0x61, 0x7A))
    (by decide +kernel) (by decide) hlow hhigh

theorem casedSet_plainLetter (hn : IsPlainLetter n) : casedSet.contains n = true := by
  have hcased : Property.casedSet.contains n = true := by
    refine (CharSet.contains_unions_iff _ n).mpr ?_
    rcases hn with ⟨hlow, hhigh⟩ | ⟨hlow, hhigh⟩
    · exact ⟨_, List.mem_cons_of_mem _ List.mem_cons_self, uppercaseSet_contains hlow hhigh⟩
    · exact ⟨_, List.mem_cons_self, lowercaseSet_contains hlow hhigh⟩
  have hsmall : n < 0x7B := by
    unfold IsPlainLetter at hn
    omega
  refine (CharSet.contains_union_iff _ _ n).mpr (.inl ?_)
  refine CharSet.contains_difference_of_lt hcased (by omega) fun r hr => ?_
  have hlarge : ∀ r ∈ (setOf ["295"]).ranges, 0x7B ≤ r.1 := by decide +kernel
  exact Nat.lt_of_lt_of_le hsmall (hlarge r hr)

/-! ## The case of the letters from A to Z -/

theorem lowerChar_toLower (c : Char) : lowerChar c.toLower = lowerChar c := by
  have hcode := toNat_toLower c
  by_cases hc : c.toNat < 0x80
  · have hc' : c.toLower.toNat < 0x80 := by
      split at hcode <;> omega
    rw [lowerChar, lowerChar, if_pos hc, if_pos hc', toLower_toLower]
  · rw [if_neg (by omega), Char.toNat_inj] at hcode
    rw [hcode]

theorem lowerAscii_cons (c : Char) (s : List Char) :
    lowerAscii (c :: s) = c.toLower :: lowerAscii s := rfl

theorem casedFollows_cons (c : Char) (s : List Char) : casedFollows (c :: s) =
    if caseIgnorableSet.contains c.toNat then casedFollows s else casedSet.contains c.toNat := by
  unfold casedFollows
  rw [List.dropWhile_cons]
  by_cases h : caseIgnorableSet.contains c.toNat = true
  · rw [if_pos h, if_pos h]
  · rw [if_neg h, if_neg h]

theorem casedFollows_lowerAscii (s : List Char) : casedFollows (lowerAscii s) = casedFollows s := by
  induction s with
  | nil => rfl
  | cons c s ih =>
      have hignorable := toLower_congr (fun _ => caseIgnorableSet_plainLetter) c
      have hcased := toLower_congr (fun _ => casedSet_plainLetter) c
      rw [lowerAscii_cons, casedFollows_cons, casedFollows_cons, hignorable, hcased, ih]

theorem lowerAfter_lowerAscii (before s : List Char) :
    lowerAfter (lowerAscii before) (lowerAscii s) = lowerAfter before s := by
  induction s generalizing before with
  | nil => rfl
  | cons c s ih =>
      have hsigma : c.toLower.toNat = 0x3A3 ↔ c.toNat = 0x3A3 := by
        rw [toNat_toLower]
        split <;> omega
      have hrest := ih (c :: before)
      rw [lowerAscii_cons] at hrest ⊢
      simp only [lowerAfter, hsigma, casedFollows_lowerAscii, lowerChar_toLower, hrest]

/-- **Lower case does not depend on the case of the letters from A to Z.** -/
theorem lower_lowerAscii (s : List Char) : lower (lowerAscii s) = lower s :=
  lowerAfter_lowerAscii [] s

end Abac.Unicode
