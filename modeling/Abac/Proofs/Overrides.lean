import Abac.Combining.Algorithm
import Abac.Proofs.Merging

/-!
# Deny-overrides and permit-overrides

The survey behind an overriding algorithm keeps three flags, the merged results
of one effect and a status, and stops at the first child that decides the
overriding effect. `Tally.of` says what all of this amounts to: it is read off
the list of the results seen so far, with no memory of the order in which the
flags went up. One step of the survey keeps it (`weigh_of`), so a whole run ends
in the tally of all children (`ofResults_weigh`).

With the loop gone, the algorithm is the reference `Effect.overridden`: a
cascade of questions about which decisions there are among the children.
-/

namespace Abac

/-- The child that comes to a result, and whose target matches. -/
def Child.fixed (r : Result) : Child := ⟨"", [], fun _ => pure .matched, fun _ => pure r⟩

/-! ## What the survey knows -/

/-- Whether a result is undecided. -/
def Result.isUndecided (r : Result) : Bool := r.decision.isIndeterminate

/-- An undecided decision is not final. -/
theorem Decision.not_isFinal_of_isIndeterminate {d : Decision} (h : d.isIndeterminate = true) :
    d.isFinal = false := by
  revert h
  cases d <;> decide

/-- The tally of the results seen so far. -/
def Tally.of (e : Effect) (rs : List Result) : Tally where
  opposing := Result.gathered? e.opposite.decision (rs.filter (·.decision = e.opposite.decision))
  mayDecide := rs.any fun r => e.standing r.decision = .mayDecide
  mayOppose := rs.any fun r => e.standing r.decision = .mayOppose
  unclear := rs.any fun r => e.standing r.decision = .unclear
  failure := (rs.find? Result.isUndecided).map Result.status

/-- Whether a decision is undecided shows in how it stands to an effect. -/
theorem Effect.isIndeterminate_eq (e : Effect) (d : Decision) :
    d.isIndeterminate = (e.standing d == .mayDecide || e.standing d == .mayOppose ||
      e.standing d == .unclear) := by
  cases e <;> cases d <;> rfl

namespace Survey

/-- One step of the survey: a result that does not settle the combination is one more result in the
tally. -/
theorem weigh_of {e : Effect} {seen : List Result} {r : Result} (h : r.decision ≠ e.decision) :
    weigh e (.of e seen) r = .proceed (.of e (seen ++ [r])) := by
  have hu := e.isIndeterminate_eq r.decision
  have ho := Effect.standing_eq_opposes_iff (e := e) (d := r.decision)
  have hd := Effect.standing_eq_decides_iff (e := e) (d := r.decision)
  rw [weigh]
  -- each standing raises at most the flags that the tally of the longer list has
  cases hs : e.standing r.decision with
  | decides => exact absurd (hd.mp hs) h
  | opposes =>
      simp [Tally.of, Result.isUndecided, hu, hs, ← ho, Result.accumulate_gathered?]
  | absent =>
      simp [Tally.of, Result.isUndecided, hu, hs, ← ho]
  | mayDecide =>
      simp [Tally.of, Tally.noteFailure, Result.isUndecided, hu, hs, ← ho]
  | mayOppose =>
      simp [Tally.of, Tally.noteFailure, Result.isUndecided, hu, hs, ← ho]
  | unclear =>
      simp [Tally.of, Tally.noteFailure, Result.isUndecided, hu, hs, ← ho]

theorem weigh_of_decides {e : Effect} {t : Tally} {r : Result} (h : r.decision = e.decision) :
    weigh e t r = .settle r := by
  rw [weigh, Effect.standing_eq_decides_iff.mpr h]

/-- A survey that weighs results comes to the first one that decides the effect, or else concludes
from the tally of all. -/
theorem ofResultsFrom_weigh {s : Survey Tally} {e : Effect} (hs : s.react = weigh e)
    (seen rs : List Result) :
    s.ofResultsFrom (.of e seen) rs =
      match rs.find? (·.decision = e.decision) with
      | some r => r
      | none => s.conclude (.of e (seen ++ rs)) := by
  induction rs generalizing seen with
  | nil => rw [List.append_nil]; rfl
  | cons r rs ih =>
      rw [ofResultsFrom, hs]
      by_cases hr : r.decision = e.decision
      · rw [weigh_of_decides hr, List.find?_cons_of_pos (by simpa using hr)]
      · rw [weigh_of hr, List.find?_cons_of_neg (by simpa using hr)]
        rw [List.append_cons seen r rs]
        exact ih (seen ++ [r])

theorem ofResults_weigh {s : Survey Tally} {e : Effect} (hs : s.react = weigh e)
    (h0 : s.start = .empty) (rs : List Result) :
    s.ofResults rs =
      match rs.find? (·.decision = e.decision) with
      | some r => r
      | none => s.conclude (.of e rs) := by
  rw [ofResults, h0]
  exact ofResultsFrom_weigh hs [] rs

end Survey

/-! ## The reference -/

/-- The status of the first undecided result; OK if there is none. -/
def Result.firstFailure (rs : List Result) : Status :=
  ((rs.find? Result.isUndecided).map Result.status).getD .ok

namespace Effect

/-- Whether decisions leave both effects possible: one of them could have been either, or one could
have been the overriding effect while the other effect is decided or possible. -/
def Clashes (e : Effect) (ds : List Decision) : Prop :=
  .indeterminateDenyPermit ∈ ds ∨ .indeterminate ∈ ds ∨
    e.indeterminate ∈ ds ∧ (e.opposite.decision ∈ ds ∨ e.opposite.indeterminate ∈ ds)

instance (e : Effect) (ds : List Decision) : Decidable (e.Clashes ds) :=
  inferInstanceAs (Decidable (_ ∨ _ ∨ _ ∧ _))

/-- What deny-overrides and permit-overrides decide when the children decide `ds`. -/
def overriding (e : Effect) (ds : List Decision) : Decision :=
  if e.decision ∈ ds then e.decision
  else if e.Clashes ds then .indeterminateDenyPermit
  else if e.indeterminate ∈ ds then e.indeterminate
  else if e.opposite.decision ∈ ds then e.opposite.decision
  else if e.opposite.indeterminate ∈ ds then e.opposite.indeterminate
  else .notApplicable

/-- What they come to: the first child that decides the overriding effect, unchanged, if there is
one. Otherwise the other effect gathers what the children that decided it carry, and an undecided
result has nothing but the status of the first undecided child. -/
def overridden (e : Effect) (rs : List Result) : Result :=
  match rs.find? (·.decision = e.decision) with
  | some r => r
  | none =>
    let d := e.overriding (rs.map Result.decision)
    if d.isIndeterminate then .withStatus d (Result.firstFailure rs)
    else if d = e.opposite.decision then .gathered d (rs.filter (·.decision = d))
    else .notApplicable

/-! ## The survey meets the reference -/

theorem overriding_cases {e : Effect} {ds : List Decision} (h : e.decision ∉ ds) :
    (e.overriding ds).isIndeterminate ∨ e.overriding ds = e.opposite.decision ∨
      e.overriding ds = .notApplicable := by
  rw [overriding, if_neg h]
  split
  · exact Or.inl rfl
  split
  · exact Or.inl (isIndeterminate_indeterminate e)
  split
  · exact Or.inr (Or.inl rfl)
  split
  · exact Or.inl (isIndeterminate_indeterminate e.opposite)
  · exact Or.inr (Or.inr rfl)

/-- What the combination decides depends on what the children decide alone. -/
theorem decision_overridden (e : Effect) (rs : List Result) :
    (e.overridden rs).decision = e.overriding (rs.map Result.decision) := by
  rw [overridden]
  split
  · rename_i r hf
    have hd : r.decision = e.decision := by simpa using List.find?_some hf
    have hm : e.decision ∈ rs.map Result.decision :=
      hd ▸ List.mem_map_of_mem (List.mem_of_find?_eq_some hf)
    rw [overriding, if_pos hm, hd]
  · rename_i hf
    have he : e.decision ∉ rs.map Result.decision := by simpa using hf
    dsimp only
    rcases overriding_cases he with hi | ho | hn
    · rw [if_pos hi]
      rfl
    · rw [if_neg (ho ▸ not_isIndeterminate_decision e.opposite), if_pos ho]
      rfl
    · rw [hn, if_neg (by decide), if_neg (notApplicable_ne_decision e.opposite)]
      rfl

/-- The combination is undecided only if a child is. -/
theorem exists_undecided {e : Effect} {ds : List Decision}
    (h : (e.overriding ds).isIndeterminate = true) : ∃ d ∈ ds, d.isIndeterminate = true := by
  rw [overriding] at h
  split at h
  · exact absurd h (not_isIndeterminate_decision e)
  split at h
  · rename_i hc
    rcases hc with hc | hc | ⟨hc, _⟩
    · exact ⟨_, hc, rfl⟩
    · exact ⟨_, hc, rfl⟩
    · exact ⟨_, hc, isIndeterminate_indeterminate e⟩
  split at h
  · rename_i hd
    exact ⟨_, hd, isIndeterminate_indeterminate e⟩
  split at h
  · exact absurd h (not_isIndeterminate_decision e.opposite)
  split at h
  · rename_i hm
    exact ⟨_, hm, isIndeterminate_indeterminate e.opposite⟩
  · simp [Decision.isIndeterminate] at h

/-- An undecided combination has nothing but the status of the first undecided child. -/
theorem overridden_of_undecided {e : Effect} {rs : List Result}
    (h : (e.overridden rs).decision.isIndeterminate = true) :
    ∃ first, rs.find? Result.isUndecided = some first ∧
      e.overridden rs = .withStatus (e.overridden rs).decision first.status := by
  have hd := decision_overridden e rs
  rw [hd] at h ⊢
  obtain ⟨d, hm, hi⟩ := exists_undecided h
  obtain ⟨r, hr, rfl⟩ := List.mem_map.mp hm
  have hs : (rs.find? Result.isUndecided).isSome := List.find?_isSome.mpr ⟨r, hr, hi⟩
  obtain ⟨first, hf⟩ := Option.isSome_iff_exists.mp hs
  refine ⟨first, hf, ?_⟩
  -- no child settled the combination, or it would not be undecided
  have he : e.decision ∉ rs.map Result.decision := by
    intro hm
    rw [overriding, if_pos hm] at h
    exact not_isIndeterminate_decision e h
  have hn : rs.find? (·.decision = e.decision) = none := by simpa using he
  rw [overridden, hn]
  dsimp only
  rw [if_pos h, Result.firstFailure, hf]
  rfl

theorem mayDecide_of (e : Effect) (rs : List Result) :
    (Tally.of e rs).mayDecide = true ↔ e.indeterminate ∈ rs.map Result.decision := by
  simp [Tally.of, standing_eq_mayDecide_iff]

theorem mayOppose_of (e : Effect) (rs : List Result) :
    (Tally.of e rs).mayOppose = true ↔ e.opposite.indeterminate ∈ rs.map Result.decision := by
  simp [Tally.of, standing_eq_mayOppose_iff]

theorem unclear_of (e : Effect) (rs : List Result) :
    (Tally.of e rs).unclear = true ↔
      .indeterminateDenyPermit ∈ rs.map Result.decision ∨
        .indeterminate ∈ rs.map Result.decision := by
  simp [Tally.of, standing_eq_unclear_iff, and_or_left, exists_or]

theorem opposing_of (e : Effect) (rs : List Result) :
    (Tally.of e rs).opposing =
      if e.opposite.decision ∈ rs.map Result.decision then
        some (.gathered e.opposite.decision (rs.filter (·.decision = e.opposite.decision)))
      else none :=
  Result.gathered?_filter e.opposite.decision rs

/-- What the survey asks of its flags when the children are used up. -/
theorem clashes_iff (e : Effect) (rs : List Result) :
    ((Tally.of e rs).unclear || ((Tally.of e rs).mayDecide &&
      ((Tally.of e rs).mayOppose || (Tally.of e rs).opposing.isSome))) = true ↔
      e.Clashes (rs.map Result.decision) := by
  have hs : (Tally.of e rs).opposing.isSome = true ↔
      e.opposite.decision ∈ rs.map Result.decision := by
    rw [opposing_of]
    split <;> simp_all
  rw [Bool.or_eq_true, Bool.and_eq_true, Bool.or_eq_true, unclear_of, mayDecide_of, mayOppose_of,
    hs, Clashes, or_assoc, or_comm (a := e.opposite.indeterminate ∈ _)]

theorem conclude_overrides {e : Effect} {rs : List Result}
    (h : rs.find? (·.decision = e.decision) = none) :
    (Survey.overrides e).conclude (.of e rs) = e.overridden rs := by
  have he : e.decision ∉ rs.map Result.decision := by simpa using h
  rw [overridden, h, overriding, if_neg he]
  dsimp only [Survey.overrides]
  -- the two sides ask the same questions in the same order, one flag for each
  by_cases hc : e.Clashes (rs.map Result.decision)
  · rw [if_pos ((clashes_iff e rs).mpr hc), if_pos hc]
    rfl
  rw [if_neg fun hf => hc ((clashes_iff e rs).mp hf), if_neg hc]
  by_cases hd : e.indeterminate ∈ rs.map Result.decision
  · rw [if_pos ((mayDecide_of e rs).mpr hd), if_pos hd, if_pos (isIndeterminate_indeterminate e)]
    rfl
  rw [if_neg fun hf => hd ((mayDecide_of e rs).mp hf), if_neg hd, opposing_of]
  by_cases ho : e.opposite.decision ∈ rs.map Result.decision
  · rw [if_pos ho, if_pos ho, if_neg (not_isIndeterminate_decision e.opposite), if_pos rfl]
  rw [if_neg ho, if_neg ho]
  by_cases hm : e.opposite.indeterminate ∈ rs.map Result.decision
  · rw [if_pos hm, if_pos (isIndeterminate_indeterminate e.opposite)]
    exact if_pos ((mayOppose_of e rs).mpr hm)
  · rw [if_neg hm, if_neg (notApplicable_ne_decision e.opposite)]
    exact if_neg fun hf => hm ((mayOppose_of e rs).mp hf)

end Effect

/-- The overriding algorithm is the reference, of all children that come to a result. -/
theorem Method.outcome_overrides {e : Effect} {children : List Child} {rs : List Result}
    (h : Survey.outcomes children = rs.map .ok) (ps : List Parameter) (ctx : Context) :
    ((Method.overrides e).combine children ps ctx).outcome = .ok (e.overridden rs) := by
  have hr := Survey.ofResults_weigh (s := .overrides e) (e := e) rfl rfl rs
  rw [Method.combine, Survey.outcome_run _ h, hr]
  split
  · rename_i r hf
    rw [Effect.overridden, hf]
  · rename_i hf
    rw [Effect.conclude_overrides hf]

/-- **Deny-overrides and permit-overrides are their reference.** An undecided result has the status
of the first undecided child and nothing else. -/
theorem Method.overrides_eq_reference {e : Effect} {children : List Child} {rs : List Result}
    (h : Survey.outcomes children = rs.map .ok) (ps : List Parameter) (ctx : Context) :
    ((Method.overrides e).combine children ps ctx).outcome = .ok (e.overridden rs) ∧
      ((e.overridden rs).decision.isIndeterminate = true →
        ∃ first, rs.find? Result.isUndecided = some first ∧
          e.overridden rs = .withStatus (e.overridden rs).decision first.status) :=
  ⟨outcome_overrides h ps ctx, Effect.overridden_of_undecided⟩

theorem Method.overrides_eq_reference_undecided :
    let rs := [.of .permit, .withStatus .indeterminatePermit (.processingError "first"),
      .withStatus .indeterminateDeny (.processingError "second")]
    Survey.outcomes (rs.map .fixed) = rs.map .ok ∧
      ((Method.overrides .deny).combine (rs.map .fixed) [] .bare).outcome =
        .ok (.withStatus .indeterminateDenyPermit (.processingError "first")) := by
  intro rs
  have h : Survey.outcomes (rs.map .fixed) = rs.map .ok := rfl
  exact ⟨h, (Method.overrides_eq_reference (e := .deny) h [] .bare).1⟩

/-- A status that a child reports beside the other effect is kept: the gathered result need not be
OK. -/
theorem Method.overrides_keeps_report :
    let late := Result.withStatus .permit (.processingError "late")
    ((Method.overrides .deny).combine [.fixed late] [] .bare).outcome = .ok late ∧
      ((Method.overrides .deny).combine [.fixed late] [] .bare).outcome ≠
        .ok { Result.gathered .permit [late] with status := .ok } := by
  refine ⟨rfl, fun h => ?_⟩
  have hs := congrArg Result.status (Except.ok.inj h)
  exact absurd hs (by decide)

end Abac
