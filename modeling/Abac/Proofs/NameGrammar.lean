import Abac.Proofs.EscapedPieces
import Abac.Proofs.Related

/-!
# The grammar of distinguished names

A name is cut at its commas, each relative name at its plus signs, and each pair at its first equals
sign. The splitter has a case of its own for a text of blanks: it has no pieces. For a whole name
this is why a blank one is refused. But a relative name is given to the same splitter, so a blank
one has no pairs, nothing in it is refused, and it is read as a relative name of no pairs
(`RelativeText.blank`). So more is read than the names of the grammar: `,` alone is read, and so is
a name with a comma too many at either end or inside.
-/

namespace Abac

namespace DistinguishedName

open Text

variable {sep : Char} {r s : List Char} {p : Pair} {ps : List Pair} {pss : List (List Pair)}

/-! ## The pieces of a blank text -/

theorem Whole.of_blank (h : Blank s) (hsep : isBlank sep = false) : Whole sep s := by
  refine .of_plain fun c hc => ⟨?_, ?_⟩
  · rintro rfl
    exact absurd (h _ hc) (by decide)
  · rintro rfl
    exact absurd (h _ hc) (Bool.eq_false_iff.mp hsep)

theorem Cut.eq_of_singleton {q : List Char} (h : Cut sep s [q]) : q = s := by
  cases h with
  | last => rfl
  | cons _ hs => exact absurd rfl hs.ne_nil

theorem Cut.of_blank (h : Blank s) (hsep : isBlank sep = false) : Cut sep s [s] :=
  .last (.whole (.of_blank h hsep))

/-- Blanks are their own only piece. -/
theorem Cut.self_mem {qs : List (List Char)} (h : Cut sep s qs) (hs : Blank s)
    (hsep : isBlank sep = false) : s ∈ qs := by
  cases h with
  | last => exact List.mem_cons_self
  | cons =>
      rw [hs sep (List.mem_append_right _ List.mem_cons_self)] at hsep
      cases hsep

theorem splitUnescaped_of_blank (h : Blank s) (hsep : sep ≠ '\\') (hblank : isBlank sep = false) :
    splitUnescaped sep s = [] := by
  rw [splitUnescaped, unescapedPieces_of_cut (.of_blank h hblank) hsep]
  exact if_pos (isEmpty_trim_iff.mpr h)

theorem splitUnescaped_of_cut {qs : List (List Char)} (h : Cut sep s qs) (hs : ¬Blank s)
    (hsep : sep ≠ '\\') : splitUnescaped sep s = qs := by
  rw [splitUnescaped, unescapedPieces_of_cut h hsep]
  split
  · rw [if_neg (isEmpty_trim_iff.not.mpr (h.eq_of_singleton ▸ hs))]
  · rfl

/-! ## The names of the grammar -/

/-- A pair of a type that is not blank and a value. -/
def IsPair (a : List Char) : Prop := ∃ t v, a = t ++ '=' :: v ∧ '=' ∉ t ∧ ¬Blank t

/-- One or more pairs between plus signs. -/
def IsRelativeName (r : List Char) : Prop := ∃ as, Cut '+' r as ∧ ∀ a ∈ as, IsPair a

/-- One or more relative names between commas. -/
def IsName (s : List Char) : Prop := ∃ rs, Cut ',' s rs ∧ ∀ r ∈ rs, IsRelativeName r

theorem IsPair.not_blank {a : List Char} (h : IsPair a) : ¬Blank a := by
  intro hblank
  obtain ⟨t, v, rfl, -, hne⟩ := h
  exact hne (blank_append.mp hblank).1

theorem IsRelativeName.not_blank (h : IsRelativeName r) : ¬Blank r := by
  intro hblank
  obtain ⟨as, hcut, has⟩ := h
  exact (has r (hcut.self_mem hblank (by decide))).not_blank hblank

/-! ## What is read -/

/-- The text of a pair: a type that is not blank, the first equals sign, and the value. -/
inductive PairText : List Char → Pair → Prop
  | mk {t v : List Char} (ht : '=' ∉ t) (hne : ¬Blank t) :
      PairText (t ++ '=' :: v) ⟨Unicode.lowerAscii (trim t), Unicode.lower (trim v)⟩

/-- The text of a relative name: blanks, which have no pairs, or pairs between plus signs. -/
inductive RelativeText : List Char → List Pair → Prop
  | blank {r : List Char} (h : Blank r) : RelativeText r []
  | pairs {r : List Char} {as : List (List Char)} {ps : List Pair} (h : Cut '+' r as)
      (hp : List.Forall₂ PairText as ps) : RelativeText r ps

/-- The text of a name and the pairs of its relative names. -/
inductive NameText : List Char → List (List Pair) → Prop
  | mk {s : List Char} {rs : List (List Char)} {pss : List (List Pair)} (hs : ¬Blank s)
      (h : Cut ',' s rs) (hr : List.Forall₂ RelativeText rs pss) : NameText s pss

theorem isPair_iff {a : List Char} : IsPair a ↔ ∃ p, PairText a p := by
  constructor
  · rintro ⟨t, v, rfl, ht, hne⟩
    exact ⟨_, .mk ht hne⟩
  · rintro ⟨p, ht, hne⟩
    exact ⟨_, _, rfl, ht, hne⟩

theorem IsRelativeName.of_pairTexts {as : List (List Char)} (h : Cut '+' r as)
    (hp : List.Forall₂ PairText as ps) : IsRelativeName r :=
  ⟨as, h, fun a ha => isPair_iff.mpr (exists_forall₂_iff.mp ⟨ps, hp⟩ a ha)⟩

theorem readPair_eq_ok_iff {a : List Char} : readPair a = .ok p ↔ PairText a p := by
  constructor
  · intro h
    unfold readPair at h
    cases hcut : cutFirst '=' a with
    | none =>
        rw [hcut] at h
        cases h
    | some tv =>
        obtain ⟨t, v⟩ := tv
        obtain ⟨rfl, ht⟩ := cutFirst_eq_some hcut
        by_cases hblank : (trim t).isEmpty
        · simp [hcut, hblank] at h
        · simp only [hcut, hblank] at h
          obtain rfl := Except.ok.inj h
          exact .mk ht (isEmpty_trim_iff.not.mp hblank)
  · rintro ⟨ht, hne⟩
    simp only [readPair, cutFirst_append _ ht, isEmpty_trim_iff.not.mpr hne]
    rfl

theorem readRelativeName_eq_ok_iff : readRelativeName r = .ok ps ↔ RelativeText r ps := by
  simp only [readRelativeName, mapM_eq_ok_iff, readPair_eq_ok_iff]
  constructor
  · intro h
    by_cases hr : Blank r
    · rw [splitUnescaped_of_blank hr (by decide) (by decide), List.forall₂_nil_left_iff] at h
      exact h ▸ .blank hr
    · have hcut := cut_unescapedPieces '+' r
      rw [splitUnescaped_of_cut hcut hr (by decide)] at h
      exact .pairs hcut h
  · intro h
    cases h with
    | blank hr =>
        rw [splitUnescaped_of_blank hr (by decide) (by decide)]
        exact .nil
    | pairs hcut hp =>
        have hr : ¬Blank r := (IsRelativeName.of_pairTexts hcut hp).not_blank
        rwa [splitUnescaped_of_cut hcut hr (by decide)]

theorem mapM_readRelativeName_iff : (¬Blank s ∧
      (splitUnescaped ',' s).mapM readRelativeName = .ok pss) ↔ NameText s pss := by
  simp only [mapM_eq_ok_iff, readRelativeName_eq_ok_iff]
  constructor
  · rintro ⟨hs, h⟩
    have hcut := cut_unescapedPieces ',' s
    rw [splitUnescaped_of_cut hcut hs (by decide)] at h
    exact .mk hs hcut h
  · rintro ⟨hs, hcut, h⟩
    rw [splitUnescaped_of_cut hcut hs (by decide)]
    exact ⟨hs, h⟩

/-- A text has only one reading. -/
theorem NameText.unique {qss : List (List Pair)} (h : NameText s pss) (h' : NameText s qss) :
    pss = qss := by
  have hread := (mapM_readRelativeName_iff.mpr h).2
  exact Except.ok.inj (hread.symm.trans (mapM_readRelativeName_iff.mpr h').2)

theorem read_eq_ok_iff_mapM {n : DistinguishedName} : read s = .ok n ↔ ∃ names,
    (splitUnescaped ',' s).mapM (fun r => (readRelativeName r).map normalForm) = .ok names ∧
      names ≠ [] ∧ n = ⟨s, names⟩ := by
  unfold read
  rw [Except.bind_eq_ok_iff]
  refine exists_congr fun names => and_congr_right fun _ => ?_
  cases names with
  | nil => exact ⟨nofun, fun h => absurd rfl h.1⟩
  | cons name names =>
      exact ⟨fun h => ⟨nofun, (Except.ok.inj h).symm⟩, fun h => congrArg _ h.2.symm⟩

/-- **What is read of a name** are the normal forms of its relative names. -/
theorem read_eq_ok_iff {n : DistinguishedName} :
    read s = .ok n ↔ ∃ pss, NameText s pss ∧ n = ⟨s, pss.map normalForm⟩ := by
  have hnames : ∀ {names}, (splitUnescaped ',' s).mapM
      (fun r => (readRelativeName r).map normalForm) = .ok names ↔
        ∃ pss, (splitUnescaped ',' s).mapM readRelativeName = .ok pss ∧
          pss.map normalForm = names := fun {names} => by
    simp only [mapM_eq_ok_iff, Except.map_eq_ok_iff, forall₂_exists_eq_iff]
  rw [read_eq_ok_iff_mapM]
  constructor
  · rintro ⟨names, h, hne, rfl⟩
    obtain ⟨pss, hpss, rfl⟩ := hnames.mp h
    refine ⟨pss, mapM_readRelativeName_iff.mp ⟨fun hblank => hne ?_, hpss⟩, rfl⟩
    rw [splitUnescaped_of_blank hblank (by decide) (by decide)] at hpss
    rw [← Except.ok.inj hpss]
    rfl
  · rintro ⟨pss, h, rfl⟩
    refine ⟨_, hnames.mpr ⟨pss, (mapM_readRelativeName_iff.mpr h).2, rfl⟩, ?_, rfl⟩
    cases h with
    | mk _ hcut hr =>
        -- a text always has a piece, and each piece has its normal form
        rw [ne_eq, List.map_eq_nil_iff]
        rintro rfl
        exact hcut.ne_nil (List.forall₂_nil_right_iff.mp hr)

/-! ## The texts that are read -/

theorem exists_relativeText_iff : (∃ ps, RelativeText r ps) ↔ Blank r ∨ IsRelativeName r := by
  constructor
  · rintro ⟨ps, hblank | ⟨hcut, hp⟩⟩
    · exact .inl hblank
    · exact .inr (.of_pairTexts hcut hp)
  · rintro (hblank | ⟨as, hcut, has⟩)
    · exact ⟨[], .blank hblank⟩
    · obtain ⟨ps, hp⟩ := exists_forall₂_iff.mpr fun a ha => isPair_iff.mp (has a ha)
      exact ⟨ps, .pairs hcut hp⟩

theorem exists_read_iff : (∃ n, read s = .ok n) ↔
    ¬Blank s ∧ ∃ rs, Cut ',' s rs ∧ ∀ r ∈ rs, Blank r ∨ IsRelativeName r := by
  simp only [read_eq_ok_iff, ← exists_relativeText_iff, ← exists_forall₂_iff]
  constructor
  · rintro ⟨_, pss, ⟨hs, hcut, hr⟩, -⟩
    exact ⟨hs, _, hcut, pss, hr⟩
  · rintro ⟨hs, rs, hcut, pss, hr⟩
    exact ⟨_, pss, .mk hs hcut hr, rfl⟩

/-- **The texts that are read as names** have relative names of the grammar or blanks between their
commas, and are not blank as a whole. The names of the grammar are those without blank ones. -/
theorem read_accepts (s : List Char) :
    ((∃ n, read s = .ok n) ↔
        ¬Blank s ∧ ∃ rs, Cut ',' s rs ∧ ∀ r ∈ rs, Blank r ∨ IsRelativeName r) ∧
      (IsName s ↔ (∃ n, read s = .ok n) ∧ ∀ rs, Cut ',' s rs → ∀ r ∈ rs, ¬Blank r) := by
  refine ⟨exists_read_iff, ?_⟩
  rw [exists_read_iff]
  constructor
  · rintro ⟨rs, hcut, hr⟩
    refine ⟨⟨fun hblank => ?_, rs, hcut, fun r h => .inr (hr r h)⟩, fun rs' hcut' r h => ?_⟩
    · exact (hr s (hcut.self_mem hblank (by decide))).not_blank hblank
    · obtain rfl := hcut.unique hcut' (by decide)
      exact (hr r h).not_blank
  · rintro ⟨⟨-, rs, hcut, hr⟩, hne⟩
    exact ⟨rs, hcut, fun r h => (hr r h).resolve_left (hne rs hcut r h)⟩

/-- A name with nothing between two commas is read. -/
theorem empty_relative_name_accepted :
    (∃ n, read "cn=Alice,,o=Example".toList = .ok n) ∧ ¬IsName "cn=Alice,,o=Example".toList := by
  have hcut : Cut ',' "cn=Alice,,o=Example".toList
      ["cn=Alice".toList, [], "o=Example".toList] := (cut_iff (by decide)).mpr (by decide)
  refine ⟨⟨_, by rfl⟩, ?_⟩
  rintro ⟨rs, hcut', hr⟩
  obtain rfl := hcut.unique hcut' (by decide)
  exact (hr [] (by decide)).not_blank (by decide)

end DistinguishedName

end Abac
