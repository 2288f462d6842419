import Abac.Proofs.NameNormalForm

/-!
# Texts of the same name

Two changes to the text of a name do not change the pairs that are read of it, or only their order:
writing its letters from A to Z in another case (`NameText.lowerAscii`) and exchanging what stands
between the plus signs of a relative name (`Reordered`). Neither moves a separator: a letter is no
separator and no backslash, and pieces are exchanged as wholes. That they are pieces afterwards,
too, has to be said of the reordered text, because a backslash at the very end of a text protects
nothing there, but would protect a plus sign that comes to stand behind it.
-/

namespace Abac

namespace DistinguishedName

open Text Unicode

variable {sep : Char} {a r s s' : List Char} {p : Pair} {ps qs : List Pair}
  {pss qss : List (List Pair)} {rs : List (List Char)}

/-! ## Another case -/

theorem isBlank_toLower (c : Char) : isBlank c.toLower = isBlank c := by
  by_cases hc : 0x41 ≤ c.toNat ∧ c.toNat ≤ 0x5A
  · have hblank : ∀ d : Char, 0x41 ≤ d.toNat → d.toNat ≤ 0x7A → isBlank d = false := by
      intro d hlow hhigh
      simp only [isBlank, Bool.or_eq_false_iff, Bool.and_eq_false_iff, beq_eq_false_iff_ne,
        decide_eq_false_iff_not]
      omega
    have hlower := toNat_toLower c
    rw [if_pos hc] at hlower
    rw [hblank c hc.1 (by omega), hblank c.toLower (by omega) (by omega)]
  · have hlower := toNat_toLower c
    rw [if_neg hc, Char.toNat_inj] at hlower
    rw [hlower]

theorem blank_lowerAscii_iff : Blank (lowerAscii s) ↔ Blank s := by
  simp only [Blank, lowerAscii, List.forall_mem_map, isBlank_toLower]

theorem trim_lowerAscii (s : List Char) : trim (lowerAscii s) = lowerAscii (trim s) := by
  have hblank : isBlank ∘ Char.toLower = isBlank := funext isBlank_toLower
  simp only [trim, trimLeft, trimRight, lowerAscii, List.dropWhile_map, ← List.map_reverse, hblank]

theorem lowerAscii_lowerAscii (s : List Char) : lowerAscii (lowerAscii s) = lowerAscii s := by
  rw [lowerAscii, lowerAscii, List.map_map]
  exact List.map_congr_left fun c _ => toLower_toLower c

theorem lowerAscii_append_cons (hsep : IsSign sep) (s t : List Char) :
    lowerAscii (s ++ sep :: t) = lowerAscii s ++ sep :: lowerAscii t := by
  rw [lowerAscii, List.map_append, List.map_cons, hsep.toLower_eq_iff.mpr rfl]
  rfl

theorem Cut.lowerAscii (h : Cut sep s rs) (hsep : IsSign sep) :
    Cut sep (lowerAscii s) (rs.map lowerAscii) := by
  induction h with
  | last h =>
      refine .last (undivided_iff_scan.mpr ?_)
      rw [scan_lowerAscii hsep]
      exact undivided_iff_scan.mp h
  | cons h _ ih =>
      rw [lowerAscii_append_cons hsep]
      refine .cons (whole_iff_scan.mpr ?_) ih
      rw [scan_lowerAscii hsep]
      exact h.scan

theorem PairText.lowerAscii (h : PairText a p) : PairText (lowerAscii a) p := by
  cases h with
  | @mk t v ht hne =>
      have hequals : IsSign '=' := by decide
      have ht' : '=' ∉ Unicode.lowerAscii t := fun hmem => by
        obtain ⟨c, hc, heq⟩ := List.mem_map.mp hmem
        obtain rfl := hequals.toLower_eq_iff.mp heq
        exact ht hc
      have hpair := PairText.mk (v := Unicode.lowerAscii v) ht' (blank_lowerAscii_iff.not.mpr hne)
      rw [trim_lowerAscii, trim_lowerAscii, lowerAscii_lowerAscii, lower_lowerAscii] at hpair
      rwa [lowerAscii_append_cons hequals]

theorem RelativeText.lowerAscii (h : RelativeText r ps) : RelativeText (lowerAscii r) ps := by
  cases h with
  | blank h => exact .blank (blank_lowerAscii_iff.mpr h)
  | pairs h hp =>
      refine .pairs (h.lowerAscii (by decide)) ?_
      exact List.forall₂_map_left_iff.mpr (hp.imp fun _ _ => PairText.lowerAscii)

theorem NameText.lowerAscii (h : NameText s pss) : NameText (lowerAscii s) pss := by
  cases h with
  | mk hs h hr =>
      refine .mk (blank_lowerAscii_iff.not.mpr hs) (h.lowerAscii (by decide)) ?_
      exact List.forall₂_map_left_iff.mpr (hr.imp fun _ _ => RelativeText.lowerAscii)

/-- **The case of a name does not matter** to what is read of it. -/
theorem NameText.eq_of_lowerAscii_eq (h : NameText s pss) (h' : NameText s' qss)
    (heq : Unicode.lowerAscii s = Unicode.lowerAscii s') : pss = qss :=
  h.lowerAscii.unique (heq ▸ h'.lowerAscii)

/-! ## Another order -/

/-- Relative names whose texts have the same pieces between plus signs, in any order. -/
inductive ReorderedPieces : List Char → List Char → Prop
  | mk {r r' : List Char} {as as' : List (List Char)} (h : Cut '+' r as) (h' : Cut '+' r' as')
      (hp : as.Perm as') : ReorderedPieces r r'

/-- Names whose relative names are reordered one by one. -/
inductive Reordered : List Char → List Char → Prop
  | mk {s s' : List Char} {rs rs' : List (List Char)} (h : Cut ',' s rs) (h' : Cut ',' s' rs')
      (hr : List.Forall₂ ReorderedPieces rs rs') : Reordered s s'

/-- The same pairs, relative name by relative name, in any order. -/
def SamePairs (pss qss : List (List Pair)) : Prop := List.Forall₂ List.Perm pss qss

theorem RelativeText.unique (h : RelativeText r ps) (h' : RelativeText r qs) : ps = qs :=
  Except.ok.inj ((readRelativeName_eq_ok_iff.mpr h).symm.trans (readRelativeName_eq_ok_iff.mpr h'))

theorem ReorderedPieces.perm {r' : List Char} (hr : ReorderedPieces r r') (h : RelativeText r ps)
    (h' : RelativeText r' qs) : ps.Perm qs := by
  obtain ⟨hcut, hcut', hperm⟩ := hr
  cases h with
  | blank hblank =>
      -- blanks are one piece, which stays where it is
      obtain rfl := hcut.unique (.of_blank hblank (by decide)) (by decide)
      obtain rfl := List.singleton_perm.mp hperm
      obtain rfl := hcut'.eq_of_singleton
      rw [h'.unique (.blank hblank)]
  | pairs hcuts hp =>
      obtain rfl := hcuts.unique hcut (by decide)
      -- the pairs of the first name, put in the order of the second, are read of the second
      obtain ⟨qs', hqs', hperm'⟩ := List.perm_comp_forall₂ hperm.symm hp
      rw [h'.unique (.pairs hcut' hqs')]
      exact hperm'.symm

/-- **The order of the pairs** does not matter to which pairs are read. -/
theorem Reordered.samePairs (hr : Reordered s s') (h : NameText s pss) (h' : NameText s' qss) :
    SamePairs pss qss := by
  obtain ⟨hcut, hcut', hr⟩ := hr
  obtain ⟨-, hcuts, hp⟩ := h
  obtain ⟨-, hcuts', hq⟩ := h'
  obtain rfl := hcut.unique hcuts (by decide)
  obtain rfl := hcut'.unique hcuts' (by decide)
  exact related_of_related hr hp hq fun hr => hr.perm

end DistinguishedName

end Abac
