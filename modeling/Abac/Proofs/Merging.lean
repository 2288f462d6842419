import Abac.Combining.Standing

/-!
# Merging results

The algorithms that let several children decide start from the bare result of a
decision and merge the children into it, one after the other. Such a fold is a
closed form: the decision stays, the status is the first one that reports
something, and each of the four lists is the concatenation of the children's
lists in their order.

The four lists behave alike, so what is proved of them is proved once, of any
list that merging appends and that a bare result does not have (`Carried`).
-/

namespace Abac

/-- A list that results carry along when they are merged. -/
structure Carried (α : Type) where
  read : Result → List α
  /-- Merging appends what the other result has. -/
  read_merge : ∀ r s : Result, read (r.merge s) = read r ++ read s
  /-- A bare result has nothing. -/
  read_withStatus : ∀ (d : Decision) (s : Status), read (.withStatus d s) = []

namespace Carried

/-- The obligations of a result. -/
def obligations : Carried Obligation := ⟨Result.obligations, fun _ _ => rfl, fun _ _ => rfl⟩

/-- The advice of a result. -/
def advice : Carried Obligation := ⟨Result.advice, fun _ _ => rfl, fun _ _ => rfl⟩

/-- The policies that a result lists. -/
def policies : Carried PolicyReference := ⟨Result.policies, fun _ _ => rfl, fun _ _ => rfl⟩

/-- The policy sets that a result lists. -/
def policySets : Carried PolicyReference := ⟨Result.policySets, fun _ _ => rfl, fun _ _ => rfl⟩

end Carried

namespace Result

/-- The status of the first result that reports something; OK if none does. -/
def firstReport (rs : List Result) : Status :=
  ((rs.find? fun r => !r.status.isOk).map Result.status).getD .ok

/-- A decision with all that some results carry, in their order. -/
def gathered (d : Decision) (rs : List Result) : Result where
  decision := d
  status := firstReport rs
  obligations := rs.flatMap Result.obligations
  advice := rs.flatMap Result.advice
  policies := rs.flatMap Result.policies
  policySets := rs.flatMap Result.policySets

theorem read_foldl_merge {α : Type} (L : Carried α) (rs : List Result) (r : Result) :
    L.read (rs.foldl Result.merge r) = L.read r ++ rs.flatMap L.read := by
  induction rs generalizing r with
  | nil => simp
  | cons s rs ih =>
      rw [List.foldl_cons, ih, L.read_merge, List.flatMap_cons, List.append_assoc]

theorem read_foldl_merge_of {α : Type} (L : Carried α) (d : Decision) (rs : List Result) :
    L.read (rs.foldl Result.merge (.of d)) = rs.flatMap L.read := by
  rw [read_foldl_merge, Result.of, L.read_withStatus, List.nil_append]

theorem decision_foldl_merge (rs : List Result) (r : Result) :
    (rs.foldl Result.merge r).decision = r.decision := by
  induction rs generalizing r with
  | nil => rfl
  | cons s rs ih => exact ih (r.merge s)

/-- Once a status reports something, no merge replaces it. -/
theorem status_foldl_merge_of_report {rs : List Result} {r : Result} (h : r.status.isOk = false) :
    (rs.foldl Result.merge r).status = r.status := by
  induction rs generalizing r with
  | nil => rfl
  | cons s rs ih =>
      have hs : (r.merge s).status = r.status := by simp [Result.merge, h]
      rw [List.foldl_cons, ih (by rw [hs]; exact h), hs]

theorem status_foldl_merge {rs : List Result} {r : Result} (h : r.status = .ok) :
    (rs.foldl Result.merge r).status = firstReport rs := by
  induction rs generalizing r with
  | nil => exact h
  | cons s rs ih =>
      rw [List.foldl_cons]
      cases hs : s.status.isOk with
      | true =>
          have hm : (r.merge s).status = .ok := by simp [Result.merge, hs, h]
          rw [ih hm]
          simp [firstReport, hs]
      | false =>
          have hm : (r.merge s).status = s.status := by
            simp only [Result.merge, hs, h]; rfl
          rw [status_foldl_merge_of_report (by rw [hm]; exact hs), hm]
          simp [firstReport, hs]

/-- Merging results into a bare one gathers them. -/
theorem foldl_merge_of (d : Decision) (rs : List Result) :
    rs.foldl Result.merge (.of d) = gathered d rs := by
  -- a result is its six fields
  have hd := decision_foldl_merge rs (.of d)
  have hs : (rs.foldl Result.merge (.of d)).status = firstReport rs := status_foldl_merge rfl
  have ho := read_foldl_merge_of .obligations d rs
  have ha := read_foldl_merge_of .advice d rs
  have hp := read_foldl_merge_of .policies d rs
  have hq := read_foldl_merge_of .policySets d rs
  revert hd hs ho ha hp hq
  cases rs.foldl Result.merge (.of d) with
  | mk d' s o a p q =>
      rintro rfl rfl rfl rfl rfl rfl
      rfl

theorem read_gathered {α : Type} (L : Carried α) (d : Decision) (rs : List Result) :
    L.read (gathered d rs) = rs.flatMap L.read := by
  rw [← foldl_merge_of, read_foldl_merge_of]

theorem gathered_concat (d : Decision) (rs : List Result) (r : Result) :
    gathered d (rs ++ [r]) = (gathered d rs).merge r := by
  rw [← foldl_merge_of, ← foldl_merge_of, List.foldl_append]
  rfl

/-- Some results gathered under a decision; absent if there are none. -/
def gathered? (d : Decision) (rs : List Result) : Option Result :=
  if rs.isEmpty then none else some (gathered d rs)

/-- One more result is one more step of `accumulate`. -/
theorem accumulate_gathered? (d : Decision) (rs : List Result) (r : Result) :
    accumulate d (gathered? d rs) r = gathered? d (rs ++ [r]) := by
  cases rs with
  | nil => exact congrArg some (gathered_concat d [] r).symm
  | cons s rs => exact congrArg some (gathered_concat d (s :: rs) r).symm

theorem gathered?_eq_some_iff {d : Decision} {rs : List Result} {r : Result} :
    gathered? d rs = some r ↔ rs ≠ [] ∧ gathered d rs = r := by
  cases rs <;> simp [gathered?]

/-- Results of one decision are gathered where there are any. -/
theorem gathered?_filter (d : Decision) (rs : List Result) :
    gathered? d (rs.filter (·.decision = d)) =
      if d ∈ rs.map Result.decision then some (gathered d (rs.filter (·.decision = d)))
      else none := by
  have hm : (rs.filter (·.decision = d)).isEmpty = true ↔ d ∉ rs.map Result.decision := by simp
  by_cases h : d ∈ rs.map Result.decision
  · rw [if_pos h]
    exact if_neg fun he => hm.mp he h
  · rw [if_neg h]
    exact if_pos (hm.mpr h)

/-- Several results merged into the first one; absent if there are none. -/
def merged? : List Result → Option Result
  | [] => none
  | first :: rest => some (rest.foldl Result.merge first)

theorem merged?_concat (rs : List Result) (r : Result) :
    merged? (rs ++ [r]) = some ((merged? rs).elim r fun merged => merged.merge r) := by
  cases rs with
  | nil => rfl
  | cons first rest => exact congrArg some List.foldl_append

theorem decision_merged? (rs : List Result) :
    (merged? rs).map Result.decision = rs.head?.map Result.decision := by
  cases rs with
  | nil => rfl
  | cons first rest => exact congrArg some (decision_foldl_merge rest first)

/-- Merging leaves the decision to the first result. -/
theorem exists_of_merged? {rs : List Result} {r : Result} (h : merged? rs = some r) :
    ∃ first rest, rs = first :: rest ∧ r = rest.foldl Result.merge first ∧
      r.decision = first.decision := by
  cases rs with
  | nil => cases h
  | cons first rest =>
      obtain rfl := Option.some.inj h
      exact ⟨first, rest, rfl, rfl, decision_foldl_merge rest first⟩

/-! ## Gathering -/

/-- The result decides what some results do and carries what they do, in their order. -/
structure Gathers (r : Result) (rs : List Result) : Prop where
  decision : ∀ s ∈ rs, s.decision = r.decision
  carried : ∀ {α : Type} (L : Carried α), L.read r = rs.flatMap L.read

theorem Gathers.single (r : Result) : r.Gathers [r] :=
  ⟨fun _ hs => List.mem_singleton.mp hs ▸ rfl, fun L => (List.flatMap_singleton L.read r).symm⟩

theorem Gathers.none (d : Decision) : (Result.of d).Gathers [] :=
  ⟨fun _ hs => absurd hs List.not_mem_nil, fun L => L.read_withStatus d .ok⟩

theorem Gathers.filter (d : Decision) (rs : List Result) :
    (gathered d (rs.filter (·.decision = d))).Gathers (rs.filter (·.decision = d)) where
  decision := fun _ hs => of_decide_eq_true (List.mem_filter.mp hs).2
  carried := fun L => read_gathered L d _

end Result

end Abac
