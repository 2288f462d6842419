import Abac.Proofs.NameTexts
import Abac.Proofs.Orders

/-!
# Equality of distinguished names

Two names are equal, and hash alike, if relative name by relative name they have the same pairs. The
function that matches names asks the same of the relative names that the second name ends in. Both
compare normal forms, and so do not see the case of a name or the order of the pairs in a relative
name.

The converse needs normal forms that tell relative names apart, for which the relative names have to
be `Joinable`. Others may be taken for each other: in `cn=Smith\ +o=Sun` the blank is escaped and
trimmed away, and the backslash that is left protects the plus sign in the normal form, just as the
one of `cn=Smith\+o=Sun` does, which has one pair instead of two.
-/

namespace Abac

namespace DistinguishedName

variable {s s' : List Char} {n n' : DistinguishedName} {pss qss : List (List Pair)}

/-! ## The pairs of a name -/

theorem NameText.isRead (h : NameText s pss) : ∀ ps ∈ pss, ∀ p ∈ ps, p.IsRead := by
  obtain ⟨-, -, hr⟩ := h
  intro ps hps p hp
  obtain ⟨r, -, hrelative⟩ := exists_related hr.flip ps hps
  cases hrelative with
  | blank => cases hp
  | pairs hcut hpairs =>
      obtain ⟨a, ha, hpair⟩ := exists_related hpairs.flip p hp
      exact hpair.isRead (hcut.undivided a ha)

/-- Names without a pair that reaches into the next one. -/
def AllJoinable (pss : List (List Pair)) : Prop := ∀ ps ∈ pss, Joinable ps

theorem map_normalForm_congr (h : SamePairs pss qss) :
    pss.map normalForm = qss.map normalForm := by
  rw [← List.forall₂_eq_eq_eq, List.forall₂_map_left_iff, List.forall₂_map_right_iff]
  exact h.imp fun _ _ => normalForm_congr

theorem map_normalForm_eq_iff (h : ∀ ps ∈ pss, ∀ p ∈ ps, p.IsRead)
    (h' : ∀ ps ∈ qss, ∀ p ∈ ps, p.IsRead) (hj : AllJoinable pss) (hj' : AllJoinable qss) :
    pss.map normalForm = qss.map normalForm ↔ SamePairs pss qss := by
  refine ⟨fun heq => ?_, map_normalForm_congr⟩
  have hrelated := related_of_map_eq_map heq fun qs hqs => And.intro (h' qs hqs) (hj' qs hqs)
  have hall : ∀ ps ∈ pss, (∀ p ∈ ps, p.IsRead) ∧ Joinable ps := fun ps hps => ⟨h ps hps, hj ps hps⟩
  refine ((List.forall₂_and_left pss qss).mpr ⟨hall, hrelated⟩).imp ?_
  rintro ps qs ⟨⟨hread, hjoin⟩, hnormal, hread', hjoin'⟩
  exact (normalForm_eq_iff hread hread' hjoin hjoin').mp hnormal

/-! ## Equality, hashes and matching -/

theorem beq_iff : (n == n') = true ↔ n.relativeNames = n'.relativeNames :=
  beq_iff_eq (a := n.hashKey) (b := n'.hashKey)

theorem endsWith_iff : n'.endsWith n = true ↔ n.relativeNames <:+ n'.relativeNames :=
  List.isSuffixOf_iff_suffix

/-- The call of the function that matches names: whether the second one ends in the first. -/
def isMatch (env : Surroundings) (n n' : DistinguishedName) : Except Halt Outcome :=
  StandardFunction.distinguishedNameMatch.ask env (.x500Name n) (.x500Name n')

theorem isMatch_eq (env : Surroundings) (n n' : DistinguishedName) :
    n.isMatch env n' = .ok (.bool (n'.endsWith n)) := by
  have hf : StandardFunction.distinguishedNameMatch.IsFirstOrder := fun _ h => nomatch h
  obtain ⟨hask, hfirst, hsecond⟩ := StandardFunction.ask_eq (t := .x500Name)
    (u := .x500Name) (v := .x500Name n) (w := .x500Name n') hf rfl rfl rfl
  rw [isMatch, hask, StandardFunction.applyFirstOrder, applyDistinguishedNameMatch, hfirst, hsecond]
  rfl

/-- A name in whose place another one may stand: neither equality nor matching tells them apart. -/
def Interchangeable (n n' : DistinguishedName) : Prop :=
  n.hashKey = n'.hashKey ∧
    ∀ m : DistinguishedName, (m == n) = (m == n') ∧
      ∀ env, m.isMatch env n = m.isMatch env n' ∧ n.isMatch env m = n'.isMatch env m

theorem interchangeable_of_beq (h : (n == n') = true) : Interchangeable n n' := by
  have hnames := beq_iff.mp h
  refine ⟨hnames, fun m => ⟨?_, fun env => ⟨?_, ?_⟩⟩⟩
  · rw [Bool.eq_iff_iff, beq_iff, beq_iff, hnames]
  · rw [isMatch_eq, isMatch_eq, endsWith, endsWith, hnames]
  · rw [isMatch_eq, isMatch_eq, endsWith, endsWith, hnames]

/-! ## What equality and matching mean -/

theorem suffix_map_iff {α β : Type} {f : α → β} {as bs : List α} :
    as.map f <:+ bs.map f ↔ ∃ front back, bs = front ++ back ∧ as.map f = back.map f := by
  constructor
  · rintro ⟨front, h⟩
    obtain ⟨front, back, rfl, -, h⟩ := List.map_eq_append_iff.mp h.symm
    exact ⟨front, back, rfl, h.symm⟩
  · rintro ⟨front, back, rfl, h⟩
    rw [List.map_append, h]
    exact List.suffix_append _ _

/-- A name ends in as many relative names as another one has, with the same pairs. -/
def IsEnding (pss qss : List (List Pair)) : Prop :=
  ∃ front back, qss = front ++ back ∧ SamePairs pss back

theorem suffix_of_isEnding (h : IsEnding pss qss) : pss.map normalForm <:+ qss.map normalForm := by
  obtain ⟨front, back, hqss, hsame⟩ := h
  exact suffix_map_iff.mpr ⟨front, back, hqss, map_normalForm_congr hsame⟩

theorem suffix_iff_isEnding (h : ∀ ps ∈ pss, ∀ p ∈ ps, p.IsRead)
    (h' : ∀ ps ∈ qss, ∀ p ∈ ps, p.IsRead) (hj : AllJoinable pss) (hj' : AllJoinable qss) :
    pss.map normalForm <:+ qss.map normalForm ↔ IsEnding pss qss := by
  refine ⟨fun hsuffix => ?_, suffix_of_isEnding⟩
  obtain ⟨front, back, rfl, hmap⟩ := suffix_map_iff.mp hsuffix
  have hmem : ∀ ps ∈ back, ps ∈ front ++ back := fun ps => List.mem_append_right front
  exact ⟨front, back, rfl, (map_normalForm_eq_iff h (fun ps hps => h' ps (hmem ps hps)) hj
    fun ps hps => hj' ps (hmem ps hps)).mp hmap⟩

/-- **Equal names are the same name**: they have as many relative names, and each has the same pairs
of a type and a value as the one in its place, each as often. A name matches another one if the
other one ends in it. Equal names hash alike and may stand for each other. Names whose texts differ
in the order of pairs, or in the case of letters from A to Z anywhere, are equal; values differ in
the case of no letter at all, as the pairs hold them in lower case.

Names that are not the same are told apart as long as no pair reaches into the next one of its
relative name, which takes a value that ends in an open backslash. -/
theorem equal_iff_samePairs (env : Surroundings) (h : read s = .ok n)
    (h' : read s' = .ok n') :
    ∃ pss pss' answer, (∀ qss, NameText s qss ↔ qss = pss) ∧ (∀ qss, NameText s' qss ↔ qss = pss') ∧
      n.isMatch env n' = .ok (.bool answer) ∧
      (SamePairs pss pss' → (n == n') = true) ∧ (IsEnding pss pss' → answer = true) ∧
      (AllJoinable pss → AllJoinable pss' →
        ((n == n') = true ↔ SamePairs pss pss') ∧ (answer = true ↔ IsEnding pss pss')) ∧
      ((n == n') = true → Interchangeable n n') ∧
      (Reordered s s' ∨ Unicode.lowerAscii s = Unicode.lowerAscii s' → (n == n') = true) := by
  obtain ⟨pss, hs, rfl⟩ := read_eq_ok_iff.mp h
  obtain ⟨pss', hs', rfl⟩ := read_eq_ok_iff.mp h'
  refine ⟨pss, pss', _, fun qss => ⟨fun hq => hq.unique hs, fun hq => hq ▸ hs⟩,
    fun qss => ⟨fun hq => hq.unique hs', fun hq => hq ▸ hs'⟩, isMatch_eq _ _ _, ?_, ?_, ?_,
    interchangeable_of_beq, ?_⟩
  · exact fun hsame => beq_iff.mpr (map_normalForm_congr hsame)
  · exact fun hending => endsWith_iff.mpr (suffix_of_isEnding hending)
  · intro hj hj'
    rw [beq_iff, endsWith_iff]
    exact ⟨map_normalForm_eq_iff hs.isRead hs'.isRead hj hj',
      suffix_iff_isEnding hs.isRead hs'.isRead hj hj'⟩
  · rintro (hr | hcase)
    · exact beq_iff.mpr (map_normalForm_congr (hr.samePairs hs hs'))
    · obtain rfl := hs.eq_of_lowerAscii_eq hs' hcase
      exact beq_iff.mpr rfl

/-- The name of an organization is not that of a person in it, and matches it. -/
theorem equal_iff_samePairs_person :
    ∃ n n', read "o=Example, c=US".toList = .ok n ∧
      read "UID=7+CN=Smith\\, Alice, O=example, C=us".toList = .ok n' ∧
      (n == n') = false ∧ n.isMatch .bare n' = .ok (.bool true) := by
  obtain ⟨n, hn⟩ : ∃ n, read "o=Example, c=US".toList = .ok n := ⟨_, by rfl⟩
  obtain ⟨n', hn'⟩ : ∃ n, read "UID=7+CN=Smith\\, Alice, O=example, C=us".toList = .ok n :=
    ⟨_, by rfl⟩
  obtain ⟨pss, pss', answer, hs, hs', hanswer, -, -, hiff, -⟩ := 
    equal_iff_samePairs .bare hn hn'
  let person : List Pair :=
    [⟨"uid".toList, "7".toList⟩, ⟨"cn".toList, "smith\\, alice".toList⟩]
  let organization : List (List Pair) :=
    [[⟨"o".toList, "example".toList⟩], [⟨"c".toList, "us".toList⟩]]
  obtain rfl : organization = pss := (hs _).mp (mapM_readRelativeName_iff.mp ⟨by decide, by rfl⟩)
  obtain rfl : person :: organization = pss' :=
    (hs' _).mp (mapM_readRelativeName_iff.mp ⟨by decide, by rfl⟩)
  have hread : ∀ p ∈ person, p.IsRead := ((hs' _).mpr rfl).isRead person List.mem_cons_self
  have hlone : AllJoinable organization := fun ps hps =>
    joinable_of_length_le_one ((by decide : ∀ ps ∈ organization, ps.length ≤ 1) ps hps)
  have hjoin : AllJoinable (person :: organization) :=
    List.forall_mem_cons.mpr ⟨joinable_of_isClosed hread (by decide), hlone⟩
  obtain ⟨hequal, hmatch⟩ := hiff hlone hjoin
  have hsame : SamePairs organization organization :=
    List.forall₂_same.mpr fun ps _ => List.Perm.refl ps
  obtain rfl : answer = true := hmatch.mpr ⟨[person], _, rfl, hsame⟩
  refine ⟨n, n', hn, hn', Bool.eq_false_iff.mpr fun h => ?_, hanswer⟩
  exact absurd (hequal.mp h).length_eq (by decide)

/-- A name of two pairs equals a name of one pair, as the backslash in front of the blank that is
trimmed away comes to stand in front of a plus sign. -/
theorem two_pairs_equal_one :
    ∃ n n' pss pss', read "cn=Smith\\ +o=Sun".toList = .ok n ∧
      read "cn=Smith\\+o=Sun".toList = .ok n' ∧ NameText "cn=Smith\\ +o=Sun".toList pss ∧
      NameText "cn=Smith\\+o=Sun".toList pss' ∧ (n == n') = true ∧ ¬SamePairs pss pss' := by
  let two : List Pair := [⟨"cn".toList, "smith\\".toList⟩, ⟨"o".toList, "sun".toList⟩]
  let one : List Pair := [⟨"cn".toList, "smith\\+o=sun".toList⟩]
  have htwo : NameText "cn=Smith\\ +o=Sun".toList [two] :=
    mapM_readRelativeName_iff.mp ⟨by decide, by rfl⟩
  have hone : NameText "cn=Smith\\+o=Sun".toList [one] :=
    mapM_readRelativeName_iff.mp ⟨by decide, by rfl⟩
  have hnormal : normalForm two = "cn=smith\\+o=sun".toList := normalForm_of_pairwise (by decide)
  have hnormal' : normalForm one = "cn=smith\\+o=sun".toList := normalForm_of_pairwise (by decide)
  refine ⟨_, _, _, _, read_eq_ok_iff.mpr ⟨_, htwo, rfl⟩, read_eq_ok_iff.mpr ⟨_, hone, rfl⟩, htwo,
    hone, beq_iff.mpr (congrArg (fun r => [r]) (hnormal.trans hnormal'.symm)), fun h => ?_⟩
  cases h with
  | cons hperm _ => exact absurd hperm.length_eq (by decide)

end DistinguishedName

end Abac
