import Abac.Proofs.LetterCase
import Abac.Proofs.NameGrammar

/-!
# Normal forms of relative names

The normal form of a relative name is a text again: its pairs are written down, sorted, and put
together with plus signs between them. Two relative names with the same pairs have the same normal
form, whatever the order of the pairs (`normalForm_congr`). For the converse the pairs are found
again in the normal form, by cutting it as a relative name is cut.

This works as long as no written pair reaches past its end. A pair that was cut out of a text has no
divider in it, and taking blanks and case away makes none. But it may come to end in a backslash
with nothing behind it: the value had an escaped blank at its end, which is gone, or was the last of
the text. Such a backslash protects the plus sign that is put behind it. So no pair may end in one
but the last of the sorted ones (`Joinable`).
-/

namespace Abac

namespace DistinguishedName

open Text Unicode

variable {sep : Char} {a s t : List Char} {p : Pair} {ps qs : List Pair}
  {pss qss : List (List Pair)} {rs : List (List Char)}

/-! ## Texts without their blanks and without case -/

theorem Undivided.trim (h : Undivided sep s) (hsep : isBlank sep = false) :
    Undivided sep (trim s) := by
  obtain ⟨front, back, hfront, -, hs⟩ := exists_eq_append_trim s
  rw [hs, undivided_iff_scan, scan_whole_append (.of_blank hfront hsep)] at h
  exact (undivided_iff_scan.mpr h).of_append

theorem isSign_backslash : IsSign '\\' := by decide

/-- Taking the case of a text away does not change what it does to the next character. -/
theorem scan_lowerAfter (hsep : IsSign sep) (protect : Bool) (before s : List Char) :
    scan sep protect (lowerAfter before s) = scan sep protect s := by
  induction s generalizing protect before with
  | nil => rfl
  | cons c s ih =>
      obtain ⟨here, heq, hne, hmem, hsign⟩ := exists_lowerAfter_cons before c s
      rw [heq]
      by_cases hc : IsSign c
      · rw [hsign hc, List.singleton_append]
        cases protect <;> simp only [scan, ih]
      · have hb : c ≠ '\\' := fun h => hc (h ▸ isSign_backslash)
        have hs : c ≠ sep := fun h => hc (h ▸ hsep)
        -- what the character has become are no signs either, and there is a first of them
        obtain ⟨d, ds, rfl⟩ := List.exists_cons_of_ne_nil hne
        have hplain : ∀ e ∈ d :: ds, e ≠ '\\' ∧ e ≠ sep := fun e he =>
          ⟨fun h => hb ((hmem _ isSign_backslash).mp (h ▸ he)),
            fun h => hs ((hmem _ hsep).mp (h ▸ he))⟩
        obtain ⟨⟨hdb, hds⟩, hrest⟩ := List.forall_mem_cons.mp hplain
        rw [List.cons_append, scan_plain hdb hds, scan_whole_append (.of_plain hrest), ih,
          scan_plain hb hs]

theorem scan_lower (hsep : IsSign sep) (s : List Char) :
    scan sep false (lower s) = scan sep false s :=
  scan_lowerAfter hsep false [] s

theorem scan_lowerAscii (hsep : IsSign sep) (protect : Bool) (s : List Char) :
    scan sep protect (lowerAscii s) = scan sep protect s := by
  induction s generalizing protect with
  | nil => rfl
  | cons c s ih =>
      rw [lowerAscii_cons]
      cases protect <;> simp only [scan, ih, isSign_backslash.toLower_eq_iff, hsep.toLower_eq_iff]

/-! ## Written pairs -/

/-- A pair as it is read: its text can be cut at the equals sign again, and has no divider. -/
structure Pair.IsRead (p : Pair) : Prop where
  not_mem_type : '=' ∉ p.type
  undivided : Undivided '+' p.render

/-- The value does not end in a backslash that protects what comes behind it. -/
def Pair.IsClosed (p : Pair) : Prop := Whole '+' p.value

instance (p : Pair) : Decidable p.IsClosed := inferInstanceAs (Decidable (Whole _ _))

theorem scan_pair (t v : List Char) :
    scan '+' false (t ++ '=' :: v) = (scan '+' false t).bind fun _ => scan '+' false v := by
  rw [scan_append]
  refine congrArg _ (funext fun protect => ?_)
  exact scan_plain (by decide) (by decide) protect v

/-- A type and a value have no divider if the pair has none. -/
theorem undivided_pair_iff {v : List Char} :
    Undivided '+' (t ++ '=' :: v) ↔ Undivided '+' t ∧ Undivided '+' v := by
  simp only [undivided_iff_scan, scan_pair]
  cases scan '+' false t <;> simp

theorem PairText.isRead (h : PairText a p) (ha : Undivided '+' a) : p.IsRead := by
  cases h with
  | @mk t v ht hne =>
      obtain ⟨hut, huv⟩ := undivided_pair_iff.mp ha
      have hplus : IsSign '+' := by decide
      refine ⟨fun hmem => ?_, undivided_pair_iff.mpr ⟨?_, ?_⟩⟩
      · -- an equals sign of the trimmed type would have been one of the type
        obtain ⟨c, hc, heq⟩ := List.mem_map.mp hmem
        obtain rfl := (IsSign.toLower_eq_iff (by decide)).mp heq
        obtain ⟨front, back, -, -, hs⟩ := exists_eq_append_trim t
        rw [hs] at ht
        exact ht (List.mem_append_right _ (List.mem_append_left _ hc))
      · rw [undivided_iff_scan, scan_lowerAscii hplus, ← undivided_iff_scan]
        exact hut.trim (by decide)
      · rw [undivided_iff_scan, scan_lower hplus, ← undivided_iff_scan]
        exact huv.trim (by decide)

theorem Pair.IsRead.whole_render (h : p.IsRead) (hclosed : p.IsClosed) : Whole '+' p.render := by
  -- the equals sign is all that an open backslash of the type could protect
  have htype := (undivided_pair_iff.mp h.undivided).1
  obtain ⟨protect, hscan⟩ := Option.isSome_iff_exists.mp (undivided_iff_scan.mp htype)
  rw [whole_iff_scan, Pair.render, scan_pair, hscan, Option.bind_some]
  exact hclosed.scan

/-- The pair that a text is written for. -/
def Pair.ofText (s : List Char) : Pair :=
  match cutFirst '=' s with
  | some (t, v) => ⟨t, v⟩
  | none => ⟨s, []⟩

theorem Pair.IsRead.ofText_render (h : p.IsRead) : Pair.ofText p.render = p := by
  rw [Pair.ofText, Pair.render, cutFirst_append _ h.not_mem_type]

theorem perm_of_map_render (hps : ∀ p ∈ ps, p.IsRead) (hqs : ∀ p ∈ qs, p.IsRead)
    (h : (ps.map Pair.render).Perm (qs.map Pair.render)) : ps.Perm qs := by
  have hread : ∀ {ps : List Pair}, (∀ p ∈ ps, p.IsRead) →
      (ps.map Pair.render).map Pair.ofText = ps := fun {ps} hps => by
    rw [List.map_map]
    exact (List.map_congr_left fun p hp => (hps p hp).ofText_render).trans (List.map_id ps)
  have hmap := h.map Pair.ofText
  rwa [hread hps, hread hqs] at hmap

/-! ## The order of texts -/

theorem textLe_trans (a b c : List Char) (hab : textLe a b = true) (hbc : textLe b c = true) :
    textLe a c = true :=
  decide_eq_true (String.le_trans (of_decide_eq_true hab) (of_decide_eq_true hbc))

theorem textLe_total (a b : List Char) : (textLe a b || textLe b a) = true := by
  simp only [textLe, Bool.or_eq_true, decide_eq_true_eq]
  exact String.le_total _ _

theorem textLe_antisymm (a b : List Char) (hab : textLe a b = true) (hba : textLe b a = true) :
    a = b :=
  String.ofList_injective (String.le_antisymm (of_decide_eq_true hab) (of_decide_eq_true hba))

theorem mergeSort_textLe_congr {as bs : List (List Char)} (h : as.Perm bs) :
    as.mergeSort textLe = bs.mergeSort textLe :=
  List.Perm.eq_of_pairwise (fun a b _ _ => textLe_antisymm a b)
    (List.pairwise_mergeSort textLe_trans textLe_total as)
    (List.pairwise_mergeSort textLe_trans textLe_total bs)
    ((List.mergeSort_perm as textLe).trans (h.trans (List.mergeSort_perm bs textLe).symm))

/-- The order of the pairs of a relative name does not matter. -/
theorem normalForm_congr (h : ps.Perm qs) : normalForm ps = normalForm qs := by
  rw [normalForm, normalForm, mergeSort_textLe_congr (h.map Pair.render)]

theorem normalForm_of_pairwise (h : (ps.map Pair.render).Pairwise fun a b => textLe a b = true) :
    normalForm ps = joinPlus (ps.map Pair.render) := by
  rw [normalForm, List.mergeSort_of_pairwise h]

/-! ## The pairs of a normal form -/

/-- The written pairs in their order. -/
def sortedTexts (ps : List Pair) : List (List Char) := (ps.map Pair.render).mergeSort textLe

theorem normalForm_eq_joinPlus (ps : List Pair) : normalForm ps = joinPlus (sortedTexts ps) := rfl

theorem sortedTexts_perm (ps : List Pair) : (sortedTexts ps).Perm (ps.map Pair.render) :=
  List.mergeSort_perm _ textLe

theorem mem_sortedTexts : s ∈ sortedTexts ps ↔ ∃ p ∈ ps, p.render = s := by
  rw [(sortedTexts_perm ps).mem_iff, List.mem_map]

theorem length_sortedTexts (ps : List Pair) : (sortedTexts ps).length = ps.length := by
  rw [(sortedTexts_perm ps).length_eq, List.length_map]

theorem sortedTexts_eq_nil_iff : sortedTexts ps = [] ↔ ps = [] := by
  rw [← List.length_eq_zero_iff, length_sortedTexts, List.length_eq_zero_iff]

/-- A relative name in which no pair reaches into the next one of its normal form. -/
def Joinable (ps : List Pair) : Prop := ∀ r ∈ (sortedTexts ps).dropLast, Whole '+' r

theorem joinable_of_length_le_one (h : ps.length ≤ 1) : Joinable ps := by
  have hnil : (sortedTexts ps).dropLast = [] := by
    rw [← List.length_eq_zero_iff, List.length_dropLast, length_sortedTexts]
    omega
  rw [Joinable, hnil]
  exact List.forall_mem_nil _

theorem joinable_of_isClosed (hps : ∀ p ∈ ps, p.IsRead) (h : ∀ p ∈ ps, p.IsClosed) :
    Joinable ps := by
  intro r hr
  obtain ⟨p, hp, rfl⟩ := mem_sortedTexts.mp (List.dropLast_subset _ hr)
  exact (hps p hp).whole_render (h p hp)

theorem cut_joinPlus (h : ∀ r ∈ rs.dropLast, Whole '+' r) (hrs : ∀ r ∈ rs, Undivided '+' r)
    (hne : rs ≠ []) : Cut '+' (joinPlus rs) rs := by
  induction rs with
  | nil => exact absurd rfl hne
  | cons r rs ih =>
      obtain ⟨hr, hrs⟩ := List.forall_mem_cons.mp hrs
      cases rs with
      | nil => exact .last hr
      | cons r' rs =>
          obtain ⟨hr, h⟩ := List.forall_mem_cons.mp h
          exact .cons hr (ih h hrs (List.cons_ne_nil r' rs))

theorem joinPlus_eq_nil_iff (h : [] ∉ rs) : joinPlus rs = [] ↔ rs = [] := by
  match rs with
  | [] => exact iff_of_true rfl rfl
  | [r] => simpa [joinPlus, eq_comm] using h
  | r :: r' :: rs => simp [joinPlus]

theorem normalForm_eq_nil_iff : normalForm ps = [] ↔ ps = [] := by
  have hne : [] ∉ sortedTexts ps := fun hmem => by
    obtain ⟨p, -, hp⟩ := mem_sortedTexts.mp hmem
    exact List.append_ne_nil_of_right_ne_nil _ (List.cons_ne_nil _ _) hp
  rw [normalForm_eq_joinPlus, joinPlus_eq_nil_iff hne, sortedTexts_eq_nil_iff]

/-- **A normal form is cut into the pairs that it was made of.** -/
theorem cut_normalForm (hps : ∀ p ∈ ps, p.IsRead) (h : Joinable ps) (hne : ps ≠ []) :
    Cut '+' (normalForm ps) (sortedTexts ps) := by
  refine cut_joinPlus h (fun r hr => ?_) (sortedTexts_eq_nil_iff.not.mpr hne)
  obtain ⟨p, hp, rfl⟩ := mem_sortedTexts.mp hr
  exact (hps p hp).undivided

/-- **Relative names are told apart by their normal forms.** -/
theorem normalForm_eq_iff (hps : ∀ p ∈ ps, p.IsRead) (hqs : ∀ p ∈ qs, p.IsRead)
    (hjp : Joinable ps) (hjq : Joinable qs) : normalForm ps = normalForm qs ↔ ps.Perm qs := by
  refine ⟨fun h => ?_, normalForm_congr⟩
  by_cases hnil : ps = []
  · rw [hnil, eq_comm, normalForm_eq_nil_iff.mpr rfl, normalForm_eq_nil_iff] at h
    rw [hnil, h]
  · have hne : qs ≠ [] := by
      rwa [ne_eq, ← normalForm_eq_nil_iff, ← h, normalForm_eq_nil_iff]
    -- the two normal forms are one text, which is cut in one way only
    have hcut := cut_normalForm hps hjp hnil
    rw [h] at hcut
    have hsorted : sortedTexts ps = sortedTexts qs :=
      hcut.unique (cut_normalForm hqs hjq hne) (by decide)
    refine perm_of_map_render hps hqs ((sortedTexts_perm ps).symm.trans ?_)
    rw [hsorted]
    exact sortedTexts_perm qs

end DistinguishedName

end Abac
