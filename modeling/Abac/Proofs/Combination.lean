import Abac.Proofs.Contribution

/-!
# What a combination may come to

The contributors say where a final decision comes from. About the other decisions
less is known, but not nothing: a built-in method never makes up a result. It
hands on that of a child, merges several that decided the same or were undecided,
or gives a bare decision with the status of a child that left it undecided.
`Combined` lists these ways, and `Method.combined` says that there are no others.

What holds of the results of all children and survives each of the ways therefore
holds of every result in a tree.
-/

namespace Abac

/-- Some child comes to the result. -/
def Comes (children : List Child) (r : Result) : Prop :=
  ∃ c ∈ children, (c.evaluate ()).outcome = .ok r

/-- The ways in which a combination comes to a result. -/
inductive Combined (children : List Child) : Result → Prop where
  /-- The result of a child, unchanged. -/
  | child {r : Result} : Comes children r → Combined children r
  /-- A final decision with what some children carry that decided the same. -/
  | gathered {e : Effect} {rs : List Result} :
      (∀ q ∈ rs, Comes children q ∧ q.decision = e.decision) →
      Combined children (.gathered e.decision rs)
  /-- A bare result with the status of an undecided child. -/
  | failed {d : Decision} {q : Result} : d.isIndeterminate = true → Comes children q →
      q.isUndecided = true → Combined children (.withStatus d q.status)
  /-- Undecided children, merged into the first of them. -/
  | merged {first : Result} {rest : List Result} :
      (∀ q ∈ first :: rest, Comes children q ∧ q.isUndecided = true) →
      Combined children (rest.foldl Result.merge first)
  /-- The target of a child is unclear. -/
  | unclear {c : Child} {s : Status} : c ∈ children →
      (c.matchTarget ()).outcome = .ok (.unclear s) → Combined children (.indeterminate s)
  /-- More than one child applies where only one may. -/
  | several : Combined children (.indeterminate severalApplicable)
  /-- No child applies. -/
  | absent : Combined children .notApplicable

theorem comes_of_outcomes {children : List Child} {seen : List Result}
    (h : Survey.outcomes children = seen.map .ok) : ∀ q ∈ seen, Comes children q := by
  intro q hq
  have hm : Except.ok q ∈ Survey.outcomes children := by
    rw [h]
    exact List.mem_map_of_mem hq
  exact List.mem_map.mp hm

namespace Combined

variable {children : List Child} {seen : List Result}

/-- The children that decided an effect, gathered. -/
theorem gathered_filter (hc : ∀ q ∈ seen, Comes children q) (e : Effect) :
    Combined children (.gathered e.decision (seen.filter (·.decision = e.decision))) := by
  refine .gathered fun q hq => ?_
  obtain ⟨hs, hd⟩ := List.mem_filter.mp hq
  exact ⟨hc q hs, of_decide_eq_true hd⟩

/-- A final decision that no child need have come to. -/
theorem bare (e : Effect) : Combined children (.of e.decision) :=
  @gathered children e [] fun _ hq => nomatch hq

/-- What is gathered from the tally, where it is not empty. -/
theorem of_opposing {e : Effect} {r : Result} (hc : ∀ q ∈ seen, Comes children q)
    (h : (Tally.of e seen).opposing = some r) : Combined children r := by
  obtain ⟨-, rfl⟩ := Result.gathered?_eq_some_iff.mp h
  exact gathered_filter hc e.opposite

/-- A tally that has raised a flag knows the status of an undecided child. -/
theorem of_failed {e : Effect} {d : Decision} (hc : ∀ q ∈ seen, Comes children q)
    (hd : d.isIndeterminate = true) (h : ∃ q ∈ seen, q.isUndecided = true) :
    Combined children ((Tally.of e seen).failed d) := by
  obtain ⟨q, hf⟩ := Option.isSome_iff_exists.mp (List.find?_isSome.mpr h)
  have hq : (Tally.of e seen).failed d = .withStatus d q.status := by
    rw [Tally.failed, Tally.of, hf]
    rfl
  rw [hq]
  exact .failed hd (hc q (List.mem_of_find?_eq_some hf)) (List.find?_some hf)

/-- A combination that is not final carries nothing, if the same is true of the children. -/
theorem read_eq_nil {α : Type} {L : Carried α} {r : Result} (h : Combined children r)
    (hc : ∀ q, Comes children q → q.decision.isFinal = false → L.read q = [])
    (hr : r.decision.isFinal = false) : L.read r = [] := by
  cases h with
  | child hq => exact hc r hq hr
  | @gathered e => exact absurd e.isFinal_decision (Bool.eq_false_iff.mp hr)
  | failed => exact L.read_withStatus _ _
  | @merged first rest hq =>
      have hn : ∀ q ∈ first :: rest, L.read q = [] := fun q hm =>
        hc q (hq q hm).1 (Decision.not_isFinal_of_isIndeterminate (hq q hm).2)
      obtain ⟨hf, hn⟩ := List.forall_mem_cons.mp hn
      rw [Result.read_foldl_merge, hf, List.nil_append]
      exact List.flatMap_eq_nil_iff.mpr hn
  | unclear => exact L.read_withStatus _ _
  | several => exact L.read_withStatus _ _
  | absent => exact L.read_withStatus _ _

end Combined

/-- Every flag stands for an undecided result. -/
theorem Tally.exists_undecided {e : Effect} {seen : List Result}
    (h : (Tally.of e seen).mayDecide = true ∨ (Tally.of e seen).mayOppose = true ∨
      (Tally.of e seen).unclear = true) : ∃ q ∈ seen, q.isUndecided = true := by
  have key : ∀ t : Standing, (seen.any fun r => e.standing r.decision = t) = true →
      t = .mayDecide ∨ t = .mayOppose ∨ t = .unclear → ∃ q ∈ seen, q.isUndecided = true := by
    intro t ha ht
    obtain ⟨q, hq, hs⟩ := List.any_eq_true.mp ha
    refine ⟨q, hq, ?_⟩
    rw [Result.isUndecided, e.isIndeterminate_eq, of_decide_eq_true hs]
    rcases ht with rfl | rfl | rfl <;> rfl
  rcases h with h | h | h
  · exact key _ h (Or.inl rfl)
  · exact key _ h (Or.inr (Or.inl rfl))
  · exact key _ h (Or.inr (Or.inr rfl))

/-! ## Surveys -/

namespace Survey

variable {children : List Child} {seen : List Result}

/-- A survey with an overriding effect comes to the result of a child or concludes. -/
theorem Overrules.combined {σ : Type} {s : Survey σ} {e : Effect} {I : List Result → σ → Prop}
    {presumed : Prop} (hs : s.Overrules e I presumed)
    (hc : ∀ {seen summary}, (∀ q ∈ seen, Comes children q) → I seen summary →
      Combined children (s.conclude summary))
    {r : Result} (h : (s.run children).outcome = .ok r) : Combined children r := by
  cases ended_of_run hs.keeps h with
  | settled hch _ hI hr hset =>
      obtain ⟨-, rfl⟩ := hs.eq_of_settle hI.1 hset
      exact .child ⟨_, hch ▸ List.mem_append_right _ List.mem_cons_self, hr⟩
  | concluded ho hI hr => exact hr ▸ hc (comes_of_outcomes ho) hI.1

theorem combined_conclude_overrides (e : Effect) (hc : ∀ q ∈ seen, Comes children q) :
    Combined children ((overrides e).conclude (.of e seen)) := by
  dsimp only [overrides]
  split
  · rename_i h
    refine .of_failed hc rfl (Tally.exists_undecided (e := e) ?_)
    rcases Bool.or_eq_true _ _ ▸ h with h | h
    · exact Or.inr (Or.inr h)
    · exact Or.inl (Bool.and_eq_true _ _ ▸ h).1
  split
  · rename_i h
    exact .of_failed hc e.isIndeterminate_indeterminate (Tally.exists_undecided (Or.inl h))
  split
  · exact .of_opposing hc ‹_›
  split
  · rename_i h
    exact .of_failed hc e.opposite.isIndeterminate_indeterminate
      (Tally.exists_undecided (Or.inr (Or.inl h)))
  · exact .absent

theorem combined_conclude_earlierRuleOverrides (e : Effect) (hc : ∀ q ∈ seen, Comes children q) :
    Combined children ((earlierRuleOverrides e).conclude (Tally.of e seen).coarse) := by
  dsimp only [earlierRuleOverrides, Tally.coarse]
  split
  · rename_i h
    refine .of_failed hc rfl (Tally.exists_undecided (e := e) ?_)
    rcases Bool.or_eq_true _ _ ▸ h with h | h
    · exact Or.inr (Or.inr h)
    · exact Or.inl h
  split
  · exact .of_opposing hc ‹_›
  split
  · rename_i h
    exact .of_failed hc rfl (Tally.exists_undecided (Or.inr (Or.inl h)))
  · exact .absent

/-- A child that denies settles the earlier deny-overrides of policies as it is, and an undecided
one settles it with a bare deny. -/
theorem earlierDenyOverrides_settles_eq {permitted : Option Result} {rc r : Result}
    (h : earlierDenyOverrides.react permitted rc = .settle r) : rc = r ∨ r = .of .deny := by
  cases hd : rc.decision <;> simp only [earlierDenyOverrides, hd] at h <;> cases h
  · exact Or.inl rfl
  all_goals exact Or.inr rfl

theorem combined_earlierDenyOverrides {r : Result}
    (h : (earlierDenyOverrides.run children).outcome = .ok r) : Combined children r := by
  cases ended_of_run keeps_earlierDenyOverrides h with
  | settled hch _ _ hr hset =>
      rcases earlierDenyOverrides_settles_eq hset with rfl | rfl
      · exact .child ⟨_, hch ▸ List.mem_append_right _ List.mem_cons_self, hr⟩
      · exact .bare .deny
  | concluded ho hI hr =>
      obtain ⟨rfl, -⟩ := hI
      rw [← hr]
      dsimp only [earlierDenyOverrides]
      cases hg : Result.gathered? .permit _ with
      | none => exact .absent
      | some q =>
          obtain ⟨-, rfl⟩ := Result.gathered?_eq_some_iff.mp hg
          exact .gathered_filter (comes_of_outcomes ho) .permit

/-- The conclusion from children that denied or were undecided. -/
theorem combined_conclude_earlierPermitOverrides (hc : ∀ q ∈ seen, Comes children q) :
    Combined children (earlierPermitOverrides.conclude
      ⟨Result.gathered? .deny (seen.filter (·.decision = .deny)),
        Result.merged? (seen.filter Result.isUndecided)⟩) := by
  dsimp only [earlierPermitOverrides]
  cases hg : Result.gathered? .deny (seen.filter (·.decision = .deny)) with
  | some denied =>
      obtain ⟨-, rfl⟩ := Result.gathered?_eq_some_iff.mp hg
      exact .gathered_filter hc .deny
  | none =>
      cases hm : Result.merged? (seen.filter Result.isUndecided) with
      | none => exact .absent
      | some u =>
          obtain ⟨first, rest, hs, rfl, -⟩ := Result.exists_of_merged? hm
          refine .merged fun q hq => ?_
          rw [← hs] at hq
          obtain ⟨hq, hu⟩ := List.mem_filter.mp hq
          exact ⟨hc q hq, hu⟩

theorem combined_firstApplicable {r : Result}
    (h : (firstApplicable.run children).outcome = .ok r) : Combined children r := by
  cases ended_of_run keeps_firstApplicable h with
  | settled hch _ _ hr hset =>
      obtain ⟨-, rfl⟩ := firstApplicable_settles hset
      exact .child ⟨_, hch ▸ List.mem_append_right _ List.mem_cons_self, hr⟩
  | concluded _ _ hr => exact hr ▸ .absent

end Survey

/-- The only applicable child, or the reason why there is none. -/
theorem combined_onlyApplicableFrom {all children : List Child} {chosen : Option Child}
    (hs : children ⊆ all) (hc : ∀ c, chosen = some c → c ∈ all) {r : Result}
    (h : (onlyApplicableFrom chosen children).outcome = .ok r) : Combined all r := by
  induction children generalizing chosen with
  | nil =>
      cases chosen with
      | some c => exact .child ⟨c, hc c rfl, h⟩
      | none => exact Except.ok.inj h ▸ .absent
  | cons c rest ih =>
      obtain ⟨hm, hr⟩ := List.cons_subset.mp hs
      rw [onlyApplicableFrom] at h
      obtain ⟨a, ha, h⟩ := Run.bind_eq_ok h
      cases a with
      | unmatched => exact ih hr hc h
      | unclear s => exact Except.ok.inj h ▸ .unclear hm ha
      | matched =>
          cases chosen with
          | some _ => exact Except.ok.inj h ▸ .several
          | none => exact ih hr (fun _ he => Option.some.inj he ▸ hm) h

/-- **There are no other ways** for a built-in method. -/
theorem Method.combined {m : Method} (hm : m.isStandard = true) {children : List Child}
    {ps : List Parameter} {ctx : Context} {r : Result}
    (h : (m.combine children ps ctx).outcome = .ok r) :
    Combined children r := by
  cases m with
  | overrides e =>
      refine (Survey.overrules_overrides e).combined (fun hc ht => ?_) h
      exact ht ▸ Survey.combined_conclude_overrides e hc
  | earlierRuleOverrides e =>
      refine (Survey.overrules_earlierRuleOverrides e).combined (fun hc ht => ?_) h
      exact ht ▸ Survey.combined_conclude_earlierRuleOverrides e hc
  | earlierDenyOverrides => exact Survey.combined_earlierDenyOverrides h
  | earlierPermitOverrides =>
      refine Survey.overrules_earlierPermitOverrides.combined (fun hc ht => ?_) h
      exact ht ▸ Survey.combined_conclude_earlierPermitOverrides hc
  | defaulting e =>
      refine (Survey.overrules_defaulting e).combined (fun hc ht => ?_) h
      exact ht ▸ .gathered_filter hc e.opposite
  | firstApplicable => exact Survey.combined_firstApplicable h
  | onlyOneApplicable =>
      exact combined_onlyApplicableFrom (List.Subset.refl _) (fun _ hc => by cases hc) h
  | custom combine => cases hm

end Abac
