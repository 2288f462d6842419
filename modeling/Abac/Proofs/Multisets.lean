import Mathlib.Data.List.Perm.Subperm
import Abac.Proofs.BagSets
import Abac.Proofs.Related

/-!
# Bags compare as multisets

Two bags are found equal if they are of one type and of one size and every value of the first one
occurs in both equally often. That nothing else can then occur in the second bag is a matter of
counting: the values of the first bag take up all the room in it.

Counting needs values that are the same to count as one. What counts as one here is finer than what
functions find equal. A date, a time or an instant is the same only as one that is written alike, in
the same time zone, while of all other values it matters only what they denote; so a NaN is the same
as itself and the two zeros are not the same. `Value.identity` says this once, and
sameness is equality of identities (`Value.same_iff_identity_eq`). A bag is then a list of
identities, and bags are equal if these lists are permutations of each other
(`Bag.beq_iff_identities_perm`).
-/

namespace Abac

/-! ## The same value -/

namespace Value

/-- What has to agree for two values to be the same. -/
inductive Identity where
  /-- A date, a time or an instant as it is written. -/
  | written (v : Value)
  /-- What a value of any other type denotes. -/
  | denoted (d : Denotation)

/-- What has to agree with another value for a value to be the same. -/
def identity (v : Value) : Identity := if v.isTemporal then .written v else .denoted v.denotes

theorem same_eq_false_of_dataType_ne {v w : Value} (h : v.dataType ≠ w.dataType) :
    v.same w = false := by
  cases v <;> cases w <;> first | rfl | exact absurd rfl h

/-- A point of the time line is the same as itself and as nothing else. -/
theorem same_iff_eq_of_isTemporal {v w : Value} (ht : v.isTemporal = true) :
    v.same w = true ↔ v = w := by
  cases v with
  | date d => cases w <;> simp [same]
  | time t => cases w <;> simp [same]
  | dateTime d => cases w <;> simp [same]
  | _ => cases ht

theorem isTemporal_of_dataType_eq {v w : Value} (h : v.dataType = w.dataType) :
    v.isTemporal = w.isTemporal := by
  cases v <;> cases w <;> first | rfl | cases h

/-- **Values are the same if they have one identity.** -/
theorem same_iff_identity_eq {v w : Value} : v.same w = true ↔ v.identity = w.identity := by
  by_cases h : v.dataType = w.dataType
  · have hw := isTemporal_of_dataType_eq h
    cases ht : v.isTemporal with
    | true => simp [identity, ht, ← hw, same_iff_eq_of_isTemporal ht]
    | false => simp [identity, ht, ← hw, same_iff h ht]
  · rw [same_eq_false_of_dataType_ne h]
    refine iff_of_false Bool.false_ne_true fun he => h ?_
    unfold identity at he
    split_ifs at he with hv hw
    · exact congrArg dataType (Identity.written.inj he)
    · exact dataType_denotes (Identity.denoted.inj he)

end Value

/-! ## Counting -/

/-- Lists of one length are permutations of each other if the members of the first one occur equally
often in both. -/
theorem perm_iff_count_of_mem {α : Type} [DecidableEq α] {xs ys : List α} :
    xs.Perm ys ↔ xs.length = ys.length ∧ ∀ x ∈ xs, xs.count x = ys.count x := by
  constructor
  · exact fun h => ⟨h.length_eq, fun x _ => h.count_eq x⟩
  · rintro ⟨hlen, hcount⟩
    have hsub : xs.Subperm ys := List.subperm_ext_iff.mpr fun x hx => Nat.le_of_eq (hcount x hx)
    exact hsub.perm_of_length_le (Nat.le_of_eq hlen.symm)

/-- Lists are permutations of each other if the members of both occur equally often in both. -/
theorem perm_of_count_of_mem {α : Type} [DecidableEq α] {xs ys : List α}
    (h : ∀ x, x ∈ xs ∨ x ∈ ys → xs.count x = ys.count x) : xs.Perm ys := by
  have hxy : xs.Subperm ys := List.subperm_ext_iff.mpr fun x hx =>
    Nat.le_of_eq (h x (.inl hx))
  have hyx : ys.Subperm xs := List.subperm_ext_iff.mpr fun x hx =>
    Nat.le_of_eq (h x (.inr hx)).symm
  exact hxy.antisymm hyx

namespace Bag

/-- The identities of the values of a bag. -/
def identities (b : Bag) : List Value.Identity := b.values.map Value.identity

section

variable [DecidableEq Value.Identity] {a b : Bag} {v : Value}

omit [DecidableEq Value.Identity] in
theorem length_identities : b.identities.length = b.size := List.length_map _

theorem count_eq_count_identity : b.count v = b.identities.count v.identity := by
  rw [identities, List.count, List.countP_map, Bag.count, ← List.countP_eq_length_filter]
  refine List.countP_congr fun w _ => ?_
  simp [Value.same_iff_identity_eq]

omit [DecidableEq Value.Identity] in
theorem contains_iff_count : b.contains v = true ↔ 0 < b.count v := by
  rw [Bag.count, ← List.countP_eq_length_filter, List.countP_pos_iff, contains, List.any_eq_true]

omit [DecidableEq Value.Identity] in
theorem mem_identities_iff {x : Value.Identity} :
    x ∈ b.identities ↔ ∃ v ∈ b.values, v.identity = x := List.mem_map

/-- **Bags are equal if their identities are permutations of each other.** -/
theorem beq_iff_identities_perm :
    (a == b) = true ↔ a.dataType = b.dataType ∧ a.identities.Perm b.identities := by
  have hcount : (∀ v ∈ a.values, a.count v = b.count v) ↔
      ∀ x ∈ a.identities, a.identities.count x = b.identities.count x := by
    simp only [identities, List.forall_mem_map, count_eq_count_identity]
  show a.equal b = true ↔ _
  rw [perm_iff_count_of_mem, ← hcount, length_identities, length_identities]
  simp [equal, and_assoc]

end

/-- Bags are filled with values of their type and with no others. -/
theorem ofValues_eq_ok_iff {t : DataType} {vs : List Value} {b : Bag} :
    ofValues t vs = .ok b ↔ b = ⟨t, vs⟩ ∧ ∀ v ∈ vs, v.dataType = t := by
  suffices h : ∀ pre, addAll ⟨t, pre⟩ vs = .ok b ↔
      b = ⟨t, pre ++ vs⟩ ∧ ∀ v ∈ vs, v.dataType = t from h []
  induction vs with
  | nil => simp [addAll, eq_comm]
  | cons v rest ih =>
      intro pre
      rw [addAll, add, List.forall_mem_cons]
      by_cases hv : v.dataType = t
      · rw [if_pos hv]
        simpa [hv] using ih (pre ++ [v])
      · simp [hv]

/-- **Bags compare as multisets.** Two bags, however they were made, are equal exactly if they have
one type and the values of the second are a permutation, up to sameness, of the values of the first.
So equality is an equivalence, which does not depend on the order in which the values were added,
and which depends on how often each of them was: equal bags cannot be told apart by their size or by
whether or how often they contain a value, and bags of one type that contain every value equally
often are equal. -/
theorem compare_as_multisets :
    (∀ a b : Bag, (a == b) = true ↔
      a.dataType = b.dataType ∧ Shuffled (fun v w => v.same w = true) a.values b.values) ∧
    Equivalence (fun a b : Bag => (a == b) = true) ∧
    (∀ (t : DataType) (vs ws : List Value) (a : Bag), vs.Perm ws → ofValues t vs = .ok a →
      ∃ b, ofValues t ws = .ok b ∧ (a == b) = true) ∧
    (∀ a b : Bag, (a == b) = true ↔ a.dataType = b.dataType ∧ ∀ v, a.count v = b.count v) ∧
    ∀ a b : Bag, (a == b) = true →
      a.size = b.size ∧ ∀ v, a.contains v = b.contains v ∧ a.count v = b.count v := by
  classical
  refine ⟨fun a b => ?shuffled, ⟨fun a => ?refl, ?symm, ?trans⟩, ?order, fun a b => ?counts,
    fun a b h => ?observed⟩
  case shuffled =>
    simp only [Value.same_iff_identity_eq, shuffled_iff_map_perm]
    exact beq_iff_identities_perm
  case refl => exact beq_iff_identities_perm.mpr ⟨rfl, .refl _⟩
  case symm =>
    intro a b h
    obtain ⟨ht, hp⟩ := beq_iff_identities_perm.mp h
    exact beq_iff_identities_perm.mpr ⟨ht.symm, hp.symm⟩
  case trans =>
    intro a b c hab hbc
    obtain ⟨ht, hp⟩ := beq_iff_identities_perm.mp hab
    obtain ⟨hu, hq⟩ := beq_iff_identities_perm.mp hbc
    exact beq_iff_identities_perm.mpr ⟨ht.trans hu, hp.trans hq⟩
  case order =>
    intro t vs ws a hp ha
    obtain ⟨rfl, hv⟩ := ofValues_eq_ok_iff.mp ha
    have hw : ∀ w ∈ ws, w.dataType = t := fun w hw => hv w (hp.mem_iff.mpr hw)
    exact ⟨⟨t, ws⟩, ofValues_eq_ok_iff.mpr ⟨rfl, hw⟩,
      beq_iff_identities_perm.mpr ⟨rfl, hp.map Value.identity⟩⟩
  case counts =>
    rw [beq_iff_identities_perm]
    refine and_congr_right fun _ => ⟨fun hp v => ?_, fun h => perm_of_count_of_mem ?_⟩
    · rw [count_eq_count_identity, count_eq_count_identity, hp.count_eq]
    · rintro x (hx | hx)
      all_goals
        obtain ⟨v, -, rfl⟩ := mem_identities_iff.mp hx
        rw [← count_eq_count_identity, ← count_eq_count_identity, h v]
  case observed =>
    obtain ⟨-, hp⟩ := beq_iff_identities_perm.mp h
    have hcount : ∀ v, a.count v = b.count v := fun v => by
      rw [count_eq_count_identity, count_eq_count_identity, hp.count_eq]
    refine ⟨?_, fun v => ⟨?_, hcount v⟩⟩
    · rw [← length_identities, ← length_identities, hp.length_eq]
    · rw [Bool.eq_iff_iff, contains_iff_count, contains_iff_count, hcount v]

/-- A NaN counts as often as it was added, and the zeros count apart. -/
theorem compare_as_multisets_of_doubles :
    let nan : Value := .double .nan
    let zero : Value := .double ⟨0⟩
    let below : Value := .double (Double.negate ⟨0⟩)
    ofValues .double [nan, below, nan] = .ok ⟨.double, [nan, below, nan]⟩ ∧
      (∃ b, ofValues .double [nan, nan, below] = .ok b ∧
        ((⟨.double, [nan, below, nan]⟩ : Bag) == b) = true) ∧
      ((⟨.double, [nan, below, nan]⟩ : Bag) == ⟨.double, [nan, zero, nan]⟩) = false := by
  intro nan zero below
  obtain ⟨-, -, horder, -, hobserved⟩ := compare_as_multisets
  have hof : ofValues .double [nan, below, nan] = .ok ⟨.double, [nan, below, nan]⟩ := rfl
  have hp : [nan, below, nan].Perm [nan, nan, below] := .cons nan (.swap nan below [])
  have hcount : Bag.count ⟨.double, [nan, below, nan]⟩ zero ≠
      Bag.count ⟨.double, [nan, zero, nan]⟩ zero := by decide
  refine ⟨hof, horder _ _ _ _ hp hof, Bool.eq_false_iff.mpr fun he => ?_⟩
  exact hcount ((hobserved _ _ he).2 zero).2

end Bag

end Abac
