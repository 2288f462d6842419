import Abac.Proofs.CanonicalText
import Abac.Proofs.LetterCase
import Abac.Proofs.Orders
import Mathlib.Data.List.Forall2

/-!
# Patterns of mailbox names

Equality, hashes and patterns all look at a domain through the same glass: the lower case of its
letters from A to Z. Two domains have the same lower case exactly if they differ in nothing but the
case of such letters (`Unicode.lowerAscii_eq_iff`), and no letter becomes a point or an at sign in
lower case, so the case of a pattern does not change which of the three forms it has.

The local part is looked at as it is. That it has no say in two of the three forms is why patterns
cannot tell equal mailboxes apart, but mailboxes that no domain pattern tells apart may differ.
-/

namespace Abac

namespace Unicode

variable {c d : Char} {s t : List Char}

/-! ## Texts in another case -/

/-- Two characters that are the same, or a letter from A to Z in its two cases. -/
inductive SameLetter : Char → Char → Prop
  | same (c : Char) : SameLetter c c
  | lowered {c d : Char} (hlow : 0x41 ≤ c.toNat) (hhigh : c.toNat ≤ 0x5A)
      (h : d.toNat = c.toNat + 0x20) : SameLetter c d
  | raised {c d : Char} (hlow : 0x41 ≤ d.toNat) (hhigh : d.toNat ≤ 0x5A)
      (h : c.toNat = d.toNat + 0x20) : SameLetter c d

theorem toLower_eq_toLower_iff : c.toLower = d.toLower ↔ SameLetter c d := by
  rw [← Char.toNat_inj, toNat_toLower, toNat_toLower]
  refine ⟨fun h => ?_, fun h => ?_⟩
  · by_cases heq : c = d
    · exact heq ▸ .same c
    · -- one of the two is a capital letter and the other one is not
      have hne : c.toNat ≠ d.toNat := fun h' => heq (Char.toNat_inj.mp h')
      split at h
      case isTrue hc =>
        split at h
        case isTrue => omega
        case isFalse => exact .lowered hc.1 hc.2 h.symm
      case isFalse =>
        split at h
        case isTrue hd => exact .raised hd.1 hd.2 h
        case isFalse => exact absurd h hne
  · cases h with
    | same => rfl
    | lowered => split <;> split <;> omega
    | raised => split <;> split <;> omega

/-- Two texts that differ at most in the case of their letters from A to Z. -/
def SameText (s t : List Char) : Prop := List.Forall₂ SameLetter s t

/-- **Texts of the same lower case** are those that differ in the case of letters. -/
theorem lowerAscii_eq_iff : lowerAscii s = lowerAscii t ↔ SameText s t := by
  rw [lowerAscii, lowerAscii, SameText, ← List.forall₂_eq_eq_eq, List.forall₂_map_left_iff,
    List.forall₂_map_right_iff]
  simp only [toLower_eq_toLower_iff]

theorem mem_lowerAscii_iff (hd : IsSign d) : d ∈ lowerAscii s ↔ d ∈ s := by
  rw [lowerAscii, List.mem_map]
  simp only [hd.toLower_eq_iff, exists_eq_right]

theorem SameText.mem_iff (h : SameText s t) (hd : IsSign d) : d ∈ s ↔ d ∈ t := by
  rw [← mem_lowerAscii_iff hd, lowerAscii_eq_iff.mpr h, mem_lowerAscii_iff hd]

theorem SameText.head?_eq_iff (h : SameText s t) (hd : IsSign d) :
    s.head? = some d ↔ t.head? = some d := by
  have hhead : ∀ s : List Char, (lowerAscii s).head? = some d ↔ s.head? = some d := by
    intro s
    cases s with
    | nil => exact Iff.rfl
    | cons c s => simpa [lowerAscii] using hd.toLower_eq_iff
  rw [← hhead, lowerAscii_eq_iff.mpr h, hhead]

end Unicode

namespace Mailbox

open Text Unicode

variable {a b m : Mailbox} {p q : List Char}

/-! ## Equality -/

theorem sameDomain_iff {s t : List Char} : sameDomain s t = true ↔ SameText s t :=
  beq_iff_eq.trans lowerAscii_eq_iff

/-- **Two mailboxes are equal** if their local parts are the same and their domains differ in the
case of letters. -/
theorem beq_iff :
    (a == b) = true ↔ a.localPart = b.localPart ∧ SameText a.domain b.domain := by
  rw [← sameDomain_iff, ← beq_iff_eq (a := a.localPart)]
  exact Bool.and_eq_true_iff

theorem beq_iff_hashKey : (a == b) = true ↔ a.hashKey = b.hashKey := by
  rw [beq_iff, ← lowerAscii_eq_iff, hashKey, hashKey, Prod.mk.injEq]

/-! ## Patterns -/

/-- What the three forms of a pattern stand for. -/
inductive Matches (m : Mailbox) : List Char → Prop
  /-- A mailbox stands for itself. -/
  | mailbox {d : List Char} (hd : '@' ∉ d) (h : SameText m.domain d) :
      Matches m (m.localPart ++ '@' :: d)
  /-- A domain stands for its mailboxes. -/
  | domain {d : List Char} (hd : '@' ∉ d) (hpoint : d.head? ≠ some '.')
      (h : SameText m.domain d) : Matches m d
  /-- A point and a domain stand for the mailboxes of the domains that end so. -/
  | subdomain {d front back : List Char} (hd : '@' ∉ d) (hsplit : m.domain = front ++ back)
      (h : SameText back ('.' :: d)) : Matches m ('.' :: d)

theorem matchesPattern_append (m : Mailbox) (l : List Char) {d : List Char} (hd : '@' ∉ d) :
    m.matchesPattern (l ++ '@' :: d) = (m.localPart == l && sameDomain m.domain d) := by
  rw [matchesPattern, cutLast_append l hd]

theorem matchesPattern_of_no_at (m : Mailbox) (hp : '@' ∉ p) :
    m.matchesPattern p = if p.head? = some '.' then
      (lowerAscii p).isSuffixOf (lowerAscii m.domain) else sameDomain m.domain p := by
  rw [matchesPattern, cutLast_eq_none_iff.mpr hp]

theorem matchesPattern_domain_iff (hp : '@' ∉ p) (hpoint : p.head? ≠ some '.') :
    m.matchesPattern p = true ↔ SameText m.domain p := by
  rw [matchesPattern_of_no_at m hp, if_neg hpoint, sameDomain_iff]

theorem matchesPattern_subdomain_iff (hp : '@' ∉ p) (hpoint : p.head? = some '.') :
    m.matchesPattern p = true ↔ ∃ front back, m.domain = front ++ back ∧ SameText back p := by
  rw [matchesPattern_of_no_at m hp, if_pos hpoint, List.isSuffixOf_iff_suffix, lowerAscii,
    lowerAscii, List.suffix_map_iff]
  refine ⟨fun h => ?_, fun h => ?_⟩
  · obtain ⟨back, ⟨front, hs⟩, hback⟩ := h
    exact ⟨front, back, hs.symm, lowerAscii_eq_iff.mp hback.symm⟩
  · obtain ⟨front, back, hs, hback⟩ := h
    exact ⟨back, ⟨front, hs.symm⟩, (lowerAscii_eq_iff.mpr hback).symm⟩

/-- A point in front of a text does not bring an at sign into it. -/
theorem not_mem_cons_point {d : List Char} (hd : '@' ∉ d) : '@' ∉ '.' :: d :=
  List.not_mem_cons_of_ne_of_not_mem (by decide) hd

theorem Matches.matchesPattern (h : Matches m p) : m.matchesPattern p = true := by
  cases h with
  | mailbox hd h => simp [matchesPattern_append m _ hd, sameDomain_iff.mpr h]
  | domain hd hpoint h => exact (matchesPattern_domain_iff hd hpoint).mpr h
  | subdomain hd hsplit h =>
      exact (matchesPattern_subdomain_iff (not_mem_cons_point hd) rfl).mpr ⟨_, _, hsplit, h⟩

theorem matches_of_matchesPattern (h : m.matchesPattern p = true) : Matches m p := by
  cases hcut : cutLast '@' p with
  | some ld =>
      obtain ⟨l, d⟩ := ld
      obtain ⟨rfl, hd⟩ := cutLast_eq_some hcut
      rw [matchesPattern_append m l hd, Bool.and_eq_true, beq_iff_eq] at h
      obtain ⟨rfl, hdomain⟩ := h
      exact .mailbox hd (sameDomain_iff.mp hdomain)
  | none =>
      have hp := cutLast_eq_none_iff.mp hcut
      by_cases hpoint : p.head? = some '.'
      · obtain ⟨front, back, hsplit, hback⟩ := (matchesPattern_subdomain_iff hp hpoint).mp h
        obtain ⟨d, rfl⟩ := List.head?_eq_some_iff.mp hpoint
        exact .subdomain (List.not_mem_of_not_mem_cons hp) hsplit hback
      · exact .domain hp hpoint ((matchesPattern_domain_iff hp hpoint).mp h)

/-- **What a pattern matches.** -/
theorem matchesPattern_iff : m.matchesPattern p = true ↔ Matches m p :=
  ⟨matches_of_matchesPattern, Matches.matchesPattern⟩

theorem matchesPattern_of_beq (h : (a == b) = true) (p : List Char) :
    a.matchesPattern p = b.matchesPattern p := by
  obtain ⟨hlocal, hdomain⟩ := beq_iff.mp h
  rw [← lowerAscii_eq_iff] at hdomain
  simp only [matchesPattern, sameDomain, hlocal, hdomain]

/-- A mailbox is matched by the text of another one if the two are equal. -/
theorem matchesPattern_render (a : Mailbox) (hb : '@' ∉ b.domain) :
    a.matchesPattern b.render = (a == b) :=
  matchesPattern_append a b.localPart hb

/-- No mailbox is of a domain and of one below it. -/
theorem not_domain_and_subdomain {d : List Char} (hd : '@' ∉ d) (hpoint : d.head? ≠ some '.') :
    ¬(m.matchesPattern d = true ∧ m.matchesPattern ('.' :: d) = true) := by
  intro h
  obtain ⟨hdomain, hsub⟩ := h
  have hsame := (matchesPattern_domain_iff hd hpoint).mp hdomain
  obtain ⟨front, back, hsplit, hback⟩ :=
    (matchesPattern_subdomain_iff (not_mem_cons_point hd) rfl).mp hsub
  -- the domain would be longer than itself
  have hlength : m.domain.length = d.length := hsame.length_eq
  have hlength' : back.length = d.length + 1 := hback.length_eq
  rw [hsplit, List.length_append] at hlength
  omega

/-! ## Patterns in another case -/

/-- Two patterns that differ at most in the case of the letters of their domain, which is what
stands behind the last at sign if there is one. -/
inductive SamePattern : List Char → List Char → Prop
  | mailbox {l d d' : List Char} (hd : '@' ∉ d) (h : SameText d d') :
      SamePattern (l ++ '@' :: d) (l ++ '@' :: d')
  | domain {d d' : List Char} (hd : '@' ∉ d) (h : SameText d d') : SamePattern d d'

theorem matchesPattern_congr (h : SamePattern p q) (m : Mailbox) :
    m.matchesPattern p = m.matchesPattern q := by
  have hat : IsSign '@' := by decide
  cases h with
  | @mailbox l d d' hd h =>
      have hd' : '@' ∉ d' := fun h' => hd ((h.mem_iff hat).mpr h')
      rw [matchesPattern_append m l hd, matchesPattern_append m l hd', sameDomain, sameDomain,
        lowerAscii_eq_iff.mpr h]
  | domain hd h =>
      -- the two have the same form, as a point has no case
      have hpoint : p.head? = some '.' ↔ q.head? = some '.' := h.head?_eq_iff (by decide)
      have hq : '@' ∉ q := fun h' => hd ((h.mem_iff hat).mpr h')
      rw [matchesPattern_of_no_at m hd, matchesPattern_of_no_at m hq]
      simp only [hpoint, sameDomain, lowerAscii_eq_iff.mpr h]

/-! ## The function that matches mailboxes -/

/-- The call of the function that matches mailboxes. -/
def isMatch (env : Surroundings) (p : List Char) (m : Mailbox) : Except Halt Outcome :=
  StandardFunction.mailboxMatch.ask env (.string (String.ofList p)) (.rfc822Name m)

theorem isMatch_eq (env : Surroundings) (p : List Char) (m : Mailbox) :
    isMatch env p m = .ok (.bool (m.matchesPattern p)) := by
  have hf : StandardFunction.mailboxMatch.IsFirstOrder := fun _ h => nomatch h
  obtain ⟨hask, hfirst, hsecond⟩ := StandardFunction.ask_eq (t := .string) (u := .rfc822Name)
    (v := .string (String.ofList p)) (w := .rfc822Name m) hf rfl rfl rfl
  have htext : ((Value.string (String.ofList p)).text?.getD "").toList = p := String.toList_ofList
  rw [isMatch, hask, StandardFunction.applyFirstOrder, applyMailboxMatch, hfirst, hsecond]
  simp only [bind, Except.bind, htext]
  rfl

/-- **Matching respects equality.** A pattern always gets an answer, and yes exactly if it stands
for the mailbox. Equal mailboxes hash alike and get the same answer to every pattern, and the text
of a mailbox is a pattern for the mailboxes that equal it. The answer does not depend on the case in
which the domain of a pattern is written, and a pattern for a domain and one for the domains below
it have no mailbox in common. -/
theorem matching_respects_equality (env : Surroundings) {t : List Char} (hb : read t = .ok b) :
    (∀ p, ∃ answer, isMatch env p a = .ok (.bool answer) ∧ (answer = true ↔ Matches a p)) ∧
      ((a == b) = true ↔ a.localPart = b.localPart ∧ SameText a.domain b.domain) ∧
      ((a == b) = true → a.hashKey = b.hashKey ∧ ∀ p, isMatch env p a = isMatch env p b) ∧
      isMatch env b.render a = .ok (.bool (a == b)) ∧
      (∀ p q, SamePattern p q → isMatch env p a = isMatch env q a) ∧
      ∀ d, '@' ∉ d → d.head? ≠ some '.' →
        ¬(isMatch env d a = .ok (.bool true) ∧ isMatch env ('.' :: d) a = .ok (.bool true)) := by
  simp only [isMatch_eq, Except.ok.injEq]
  refine ⟨fun p => ⟨_, rfl, matchesPattern_iff⟩, beq_iff, fun h => ?_, ?_, fun p q h => ?_,
    fun d hd hpoint => ?_⟩
  · exact ⟨beq_iff_hashKey.mp h, fun p => congrArg _ (matchesPattern_of_beq h p)⟩
  · obtain ⟨-, -, -, hat⟩ := wellFormed_of_read hb
    rw [matchesPattern_render a hat]
  · rw [matchesPattern_congr h a]
  · simpa [Outcome.bool] using not_domain_and_subdomain hd hpoint

/-- One mailbox in two cases. A domain above its own matches it with a point and not without. -/
theorem matching_respects_equality_in_case :
    ∃ a b, read "Ann@Mail.Example".toList = .ok a ∧ read "Ann@mail.EXAMPLE".toList = .ok b ∧
      (a == b) = true ∧ a.hashKey = b.hashKey ∧ isMatch .bare b.render a = .ok (.bool true) ∧
      isMatch .bare ".Example".toList a = isMatch .bare ".eXAMPLE".toList a ∧
      isMatch .bare ".eXAMPLE".toList a = .ok (.bool true) ∧
      ¬isMatch .bare "eXAMPLE".toList a = .ok (.bool true) := by
  let a : Mailbox := ⟨"Ann".toList, "Mail.Example".toList⟩
  let b : Mailbox := ⟨"Ann".toList, "mail.EXAMPLE".toList⟩
  have hb : read "Ann@mail.EXAMPLE".toList = .ok b := by rfl
  have heq : (a == b) = true := by decide
  have hcase : SamePattern ".Example".toList ".eXAMPLE".toList :=
    .domain (by decide) (lowerAscii_eq_iff.mp (by decide))
  have hbelow : isMatch .bare ".eXAMPLE".toList a = .ok (.bool true) := by rw [isMatch_eq]; rfl
  obtain ⟨-, -, hequal, hrender, hpattern, hexclusive⟩ := 
    matching_respects_equality .bare (a := a) hb
  refine ⟨a, b, by rfl, hb, heq, (hequal heq).1, ?_, hpattern _ _ hcase, hbelow, fun h => ?_⟩
  · rw [hrender, heq]
  · exact hexclusive _ (by decide) (by decide) ⟨h, hbelow⟩

end Mailbox

end Abac
