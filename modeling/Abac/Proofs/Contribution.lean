import Abac.Proofs.Overrides
import Abac.Proofs.Untracked

/-!
# Which children a decision comes from

A combination that permits or denies carries the obligations, the advice and the
policies of some of its children, and of no others. Which ones depends on the
method and on how the combination ended (`Method.contributors`): the one child
that settled it, or every child that decided the same. `Method.contribution`
says so for all built-in methods at once, and it also says when there need not
be any such child.

The methods that go through the children one by one are surveys, and each has an
invariant that ties its summary to the results it has seen. `Survey.ended_of_run`
is the one induction that all of them share. Most of them let one effect override
the other, and what follows from that follows for all of these at once
(`Survey.Overrules`).
-/

namespace Abac

namespace Survey

variable {σ : Type}

/-! ## How a survey ends -/

/-- A relation of the results seen so far to the summary that a survey keeps of them. -/
structure Keeps (s : Survey σ) (I : List Result → σ → Prop) : Prop where
  start : I [] s.start
  step : ∀ {seen : List Result} {summary next : σ} {r : Result}, I seen summary →
    s.react summary r = .proceed next → I (seen ++ [r]) next

/-- A survey ends at a child that settles it, or after the last one. The children after the one that
settles it need not come to a result. -/
inductive Ended (s : Survey σ) (I : List Result → σ → Prop) (children : List Child) (r : Result) :
    Prop where
  | settled {before rest : List Child} {c : Child} {seen : List Result} {summary : σ}
      {rc : Result} : children = before ++ c :: rest → outcomes before = seen.map .ok →
      I seen summary → (c.evaluate ()).outcome = .ok rc → s.react summary rc = .settle r →
      Ended s I children r
  | concluded {seen : List Result} {summary : σ} : outcomes children = seen.map .ok →
      I seen summary → s.conclude summary = r → Ended s I children r

theorem ended_of_runFrom {s : Survey σ} {I : List Result → σ → Prop} (hI : s.Keeps I)
    {done rest : List Child} {seen : List Result} {summary : σ} {r : Result}
    (hd : outcomes done = seen.map .ok) (hs : I seen summary)
    (h : (s.runFrom summary rest).outcome = .ok r) : s.Ended I (done ++ rest) r := by
  induction rest generalizing done seen summary with
  | nil =>
      rw [List.append_nil]
      exact .concluded hd hs (Except.ok.inj h)
  | cons c rest ih =>
      rw [runFrom] at h
      cases hc : (c.evaluate ()).outcome with
      | error f => rw [Run.bind_of_error hc] at h; simp at h
      | ok rc =>
          rw [Run.bind_of_ok hc] at h
          cases hr : s.react summary rc with
          | settle r' =>
              rw [hr] at h
              obtain rfl := Except.ok.inj h
              exact .settled rfl hd hs hc hr
          | proceed next =>
              -- the child joins those that are done, and its result those seen
              rw [hr] at h
              rw [List.append_cons]
              refine ih ?_ (hI.step hs hr) h
              rw [outcomes, List.map_append, List.map_append, ← hd]
              exact congrArg (outcomes done ++ [·]) hc

theorem ended_of_run {s : Survey σ} {I : List Result → σ → Prop} (hI : s.Keeps I)
    {children : List Child} {r : Result} (h : (s.run children).outcome = .ok r) :
    s.Ended I children r := by
  have hd : outcomes [] = [].map .ok := rfl
  exact ended_of_runFrom hI hd hI.start h

end Survey

/-! ## Children by what they come to -/

/-- Whether a child comes to a result of some kind. -/
def Child.comesTo (p : Result → Bool) (c : Child) : Bool :=
  match (c.evaluate ()).outcome with
  | .ok r => p r
  | .error _ => false

/-- Whether a child's target matches. -/
def Child.applies (c : Child) : Bool :=
  match (c.matchTarget ()).outcome with
  | .ok a => a.isMatched
  | .error _ => false

theorem Child.comesTo_of_ok {p : Result → Bool} {c : Child} {r : Result}
    (h : (c.evaluate ()).outcome = .ok r) : c.comesTo p = p r := by rw [comesTo, h]

theorem Survey.exists_result_of_mem {children : List Child} {seen : List Result}
    (h : outcomes children = seen.map .ok) {c : Child} (hc : c ∈ children) :
    ∃ r ∈ seen, (c.evaluate ()).outcome = .ok r := by
  have hm : (c.evaluate ()).outcome ∈ outcomes children := List.mem_map_of_mem hc
  rw [h] at hm
  obtain ⟨r, hr, he⟩ := List.mem_map.mp hm
  exact ⟨r, hr, he.symm⟩

section

variable {α β : Type}

/-- The first element that comes to a result of some kind. `child` is how an algorithm sees an
element. -/
def firstTo (child : α → Child) (p : Result → Bool) (xs : List α) : List α :=
  (xs.find? fun x => (child x).comesTo p).toList

/-- All elements that come to a result of some kind. -/
def allTo (child : α → Child) (p : Result → Bool) (xs : List α) : List α :=
  xs.filter fun x => (child x).comesTo p

theorem firstTo_map (child : β → Child) (f : α → β) (p : Result → Bool) (xs : List α) :
    firstTo child p (xs.map f) = (firstTo (fun x => child (f x)) p xs).map f := by
  rw [firstTo, firstTo, List.find?_map, Option.toList_map]
  rfl

theorem allTo_map (child : β → Child) (f : α → β) (p : Result → Bool) (xs : List α) :
    allTo child p (xs.map f) = (allTo (fun x => child (f x)) p xs).map f := by
  rw [allTo, allTo, List.filter_map]
  rfl

theorem sublist_find?_toList (p : α → Bool) (xs : List α) : (xs.find? p).toList.Sublist xs := by
  cases h : xs.find? p with
  | none => exact List.nil_sublist xs
  | some x => exact List.singleton_sublist.mpr (List.mem_of_find?_eq_some h)

theorem firstTo_sublist (child : α → Child) (p : Result → Bool) (xs : List α) :
    (firstTo child p xs).Sublist xs := sublist_find?_toList _ xs

theorem allTo_sublist (child : α → Child) (p : Result → Bool) (xs : List α) :
    (allTo child p xs).Sublist xs := List.filter_sublist

/-- An element that comes to a result of some kind is the first one, if the results before it are of
another kind. -/
theorem outcomes_firstTo {p : Result → Bool} {before rest : List Child} {c : Child}
    {seen : List Result} {rc : Result} (hb : Survey.outcomes before = seen.map .ok)
    (hn : ∀ s ∈ seen, p s = false) (hc : (c.evaluate ()).outcome = .ok rc) (hp : p rc = true) :
    Survey.outcomes (firstTo id p (before ++ c :: rest)) = [.ok rc] := by
  have hf : (before ++ c :: rest).find? (Child.comesTo p) = some c := by
    rw [List.find?_append, List.find?_eq_none.mpr, Option.none_or,
      List.find?_cons_of_pos (by rw [Child.comesTo_of_ok hc, hp])]
    -- no child before it comes to such a result
    intro b hm
    obtain ⟨s, hs, hb⟩ := Survey.exists_result_of_mem hb hm
    rw [Child.comesTo_of_ok hb, hn s hs]
    exact Bool.false_ne_true
  rw [firstTo]
  simp only [id_eq]
  rw [hf]
  exact congrArg (fun o => [o]) hc

theorem outcomes_allTo {children : List Child} {seen : List Result}
    (h : Survey.outcomes children = seen.map .ok) (p : Result → Bool) :
    Survey.outcomes (allTo id p children) = (seen.filter p).map .ok := by
  induction children generalizing seen with
  | nil =>
      obtain rfl : seen = [] := by simpa [Survey.outcomes] using h.symm
      rfl
  | cons c rest ih =>
      cases seen with
      | nil => simp [Survey.outcomes] at h
      | cons s seen =>
          simp only [Survey.outcomes, List.map_cons, List.cons.injEq] at h
          have hr := ih h.2
          rw [allTo] at hr ⊢
          rw [List.filter_cons, List.filter_cons, id, Child.comesTo_of_ok h.1]
          split
          · rw [Survey.outcomes, List.map_cons, List.map_cons, h.1]
            exact congrArg (.ok s :: ·) hr
          · exact hr

end

/-! ## The contributors -/

namespace Method

variable {α : Type}

/-- The elements from which a combination has its final decision. -/
def contributors (child : α → Child) (m : Method) (d : Decision) (xs : List α) : List α :=
  match m with
  | .overrides e | .earlierRuleOverrides e | .defaulting e =>
    if d = e.decision then firstTo child (·.decision = d) xs else allTo child (·.decision = d) xs
  | .earlierPermitOverrides =>
    if d = .permit then firstTo child (·.decision = d) xs else allTo child (·.decision = d) xs
  | .earlierDenyOverrides =>
    -- an undecided child that comes first denies by itself and contributes nothing
    if d = .deny then
      allTo child (·.decision = d) (firstTo child (fun r => r.decision = d || r.isUndecided) xs)
    else allTo child (·.decision = d) xs
  | .firstApplicable => firstTo child (·.decision ≠ .notApplicable) xs
  | .onlyOneApplicable => (xs.find? fun x => (child x).applies).toList
  | .custom _ => []

/-- Whether the method is built in. -/
def isStandard : Method → Bool
  | .custom _ => false
  | _ => true

/-- Whether the method may come to an effect that no child decided. -/
def presumes (x : Effect) : Method → Bool
  | .defaulting e => x = e.opposite
  | .earlierDenyOverrides => x = .deny
  | _ => false

theorem contributors_map {β : Type} (child : β → Child) (f : α → β) (m : Method) (d : Decision)
    (xs : List α) :
    m.contributors child d (xs.map f) = (m.contributors (fun x => child (f x)) d xs).map f := by
  cases m with
  | custom => rfl
  | onlyOneApplicable =>
      rw [contributors, contributors, List.find?_map, Option.toList_map]
      rfl
  | _ => simp only [contributors, firstTo_map, allTo_map, apply_ite (List.map f)]

/-- The contributors are in the order of the elements. -/
theorem contributors_sublist (child : α → Child) (m : Method) (d : Decision) (xs : List α) :
    (m.contributors child d xs).Sublist xs := by
  have hf := fun p => firstTo_sublist child p xs
  have ha := fun p => allTo_sublist child p xs
  cases m with
  | custom => exact List.nil_sublist xs
  | onlyOneApplicable => exact sublist_find?_toList _ xs
  | firstApplicable => exact hf _
  | earlierDenyOverrides =>
      rw [contributors]
      split
      · exact (allTo_sublist child _ _).trans (hf _)
      · exact ha _
  | _ =>
      rw [contributors]
      split
      · exact hf _
      · exact ha _

end Method

/-! ## Surveys with an overriding effect -/

namespace Survey

variable {σ : Type}

/-- A survey that a child settles by deciding the effect, and that otherwise gathers the children
that decided the other one. `I` ties the summary to the results seen before it is settled, and
`presumed` holds if the survey may come to the other effect without any child that decided it. -/
structure Overrules (s : Survey σ) (e : Effect) (I : List Result → σ → Prop) (presumed : Prop) :
    Prop where
  start : I [] s.start
  settles : ∀ {summary : σ} {r : Result}, r.decision = e.decision → s.react summary r = .settle r
  proceeds : ∀ {seen : List Result} {summary : σ} {r : Result}, I seen summary →
    r.decision ≠ e.decision → ∃ next, s.react summary r = .proceed next ∧ I (seen ++ [r]) next
  concludes : ∀ {seen : List Result} {summary : σ}, I seen summary →
    (s.conclude summary).decision.isFinal = true →
    s.conclude summary = .gathered e.opposite.decision
        (seen.filter (·.decision = e.opposite.decision)) ∧
      (seen.filter (·.decision = e.opposite.decision) = [] → presumed)

namespace Overrules

variable {s : Survey σ} {e : Effect} {I : List Result → σ → Prop} {presumed : Prop}

/-- As long as the survey goes on, no child has decided the effect. -/
theorem keeps (hs : s.Overrules e I presumed) :
    s.Keeps fun seen summary => I seen summary ∧ ∀ q ∈ seen, q.decision ≠ e.decision where
  start := ⟨hs.start, fun _ hq => absurd hq List.not_mem_nil⟩
  step := by
    intro seen summary next r hI hr
    obtain ⟨hI, hn⟩ := hI
    by_cases hd : r.decision = e.decision
    · rw [hs.settles hd] at hr
      cases hr
    · obtain ⟨next', hp, hI'⟩ := hs.proceeds hI hd
      obtain rfl := Reaction.proceed.inj (hp.symm.trans hr)
      exact ⟨hI', List.forall_mem_append.mpr ⟨hn, List.forall_mem_singleton.mpr hd⟩⟩

theorem eq_of_settle (hs : s.Overrules e I presumed) {seen : List Result} {summary : σ}
    {rc r : Result} (hI : I seen summary) (hr : s.react summary rc = .settle r) :
    rc.decision = e.decision ∧ rc = r := by
  by_cases hd : rc.decision = e.decision
  · rw [hs.settles hd] at hr
    exact ⟨hd, Reaction.settle.inj hr⟩
  · obtain ⟨next, hp, -⟩ := hs.proceeds hI hd
    rw [hp] at hr
    cases hr

theorem contribution (hs : s.Overrules e I presumed) {children : List Child} {r : Result}
    (h : (s.run children).outcome = .ok r) (hf : r.decision.isFinal = true) :
    ∃ rs : List Result,
      outcomes (if r.decision = e.decision then firstTo id (·.decision = r.decision) children
        else allTo id (·.decision = r.decision) children) = rs.map .ok ∧
      r.Gathers rs ∧ (rs = [] → r.decision = e.opposite.decision ∧ presumed) := by
  cases ended_of_run hs.keeps h with
  | @settled before rest c seen summary rc hch hb hI hc hr =>
      obtain ⟨hd, rfl⟩ := hs.eq_of_settle hI.1 hr
      refine ⟨[rc], ?_, .single rc, by simp⟩
      rw [if_pos hd, hch]
      refine outcomes_firstTo hb (fun q hq => ?_) hc (by simp)
      rw [hd]
      exact decide_eq_false (hI.2 q hq)
  | @concluded seen summary ho hI hr =>
      obtain ⟨hg, hp⟩ := hs.concludes hI.1 (hr ▸ hf)
      rw [hr] at hg
      have hd : r.decision = e.opposite.decision := congrArg Result.decision hg
      refine ⟨seen.filter (·.decision = e.opposite.decision), ?_, ?_, fun hn => ⟨hd, hp hn⟩⟩
      · rw [hd, if_neg (by cases e <;> decide)]
        exact outcomes_allTo ho _
      · rw [hg]
        exact .filter _ seen

/-- The summary of a survey that weighs results is their tally. Its conclusion is final only where
it is the gathered result of the other effect. -/
theorem of_weigh {s : Survey Tally} (hs : s.react = weigh e) (h0 : s.start = .empty)
    (hc : ∀ t, (s.conclude t).decision.isFinal = true → t.opposing = some (s.conclude t)) :
    s.Overrules e (fun seen t => t = .of e seen) False where
  start := h0
  settles := fun hd => by rw [hs, weigh_of_decides hd]
  proceeds := by
    intro seen t r ht hd
    rw [ht, hs, weigh_of hd]
    exact ⟨_, rfl, rfl⟩
  concludes := by
    intro seen t ht hf
    have ho := hc t hf
    rw [ht] at ho ⊢
    obtain ⟨hn, hg⟩ := Result.gathered?_eq_some_iff.mp ho
    exact ⟨hg.symm, fun he => hn he⟩

end Overrules

theorem overrules_overrides (e : Effect) :
    (overrides e).Overrules e (fun seen t => t = .of e seen) False := by
  refine .of_weigh rfl rfl fun t => ?_
  dsimp only [overrides]
  -- every branch but that of the gathered result is undecided or does not apply
  split
  · intro h
    cases h
  split
  · intro h
    cases e <;> cases h
  split
  · intro _
    assumption
  split
  · intro h
    cases e <;> cases h
  · intro h
    cases h

/-- What the later algorithm gathers for the other effect is what the earlier one gathers, because a
final decision has nothing to forget. -/
theorem overrules_earlierRuleOverrides (e : Effect) :
    (earlierRuleOverrides e).Overrules e (fun seen t => t = (Tally.of e seen).coarse) False where
  start := rfl
  settles := by
    intro t r hd
    dsimp only [earlierRuleOverrides, weighEarlier]
    rw [hd, if_neg e.notApplicable_ne_decision.symm, if_pos rfl]
  proceeds := by
    rintro seen t r rfl hd
    dsimp only [earlierRuleOverrides]
    rw [weighEarlier_coarse, weigh_of hd]
    exact ⟨_, rfl, rfl⟩
  concludes := by
    rintro seen t rfl hf
    have hs : (Tally.of e seen).Settled := by
      intro r hr
      obtain ⟨-, rfl⟩ := Result.gathered?_eq_some_iff.mp hr
      exact Bool.eq_false_iff.mpr e.opposite.not_isIndeterminate_decision
    rw [conclude_coarse e hs] at hf ⊢
    obtain ⟨hq, hf⟩ := Result.untracked_of_final hf
    rw [hq]
    exact (overrules_overrides e).concludes rfl hf

theorem overrules_defaulting (e : Effect) :
    (defaulting e).Overrules e (fun seen merged => merged =
      .gathered e.opposite.decision (seen.filter (·.decision = e.opposite.decision))) True where
  start := rfl
  settles := fun hd => if_pos hd
  proceeds := by
    intro seen merged r hm hd
    dsimp only [defaulting]
    rw [hm, if_neg hd, List.filter_append]
    by_cases ho : r.decision = e.opposite.decision
    · rw [if_pos ho, List.filter_cons_of_pos (by simpa using ho), List.filter_nil]
      exact ⟨_, rfl, (Result.gathered_concat _ _ r).symm⟩
    · rw [if_neg ho, List.filter_cons_of_neg (by simpa using ho), List.filter_nil,
        List.append_nil]
      exact ⟨_, rfl, rfl⟩
  concludes := fun hI _ => ⟨hI, fun _ => trivial⟩

theorem overrules_earlierPermitOverrides :
    earlierPermitOverrides.Overrules .permit (fun seen summary =>
      summary = ⟨Result.gathered? .deny (seen.filter (·.decision = .deny)),
        Result.merged? (seen.filter Result.isUndecided)⟩) False where
  start := rfl
  settles := fun hd => by simp [earlierPermitOverrides, hd, Effect.decision]
  proceeds := by
    rintro seen summary r rfl hp
    rw [List.filter_append, List.filter_append]
    dsimp only [earlierPermitOverrides]
    -- an undecided child is merged into the undecided ones before it
    have hu : r.isUndecided = true →
        Result.merged? (seen.filter Result.isUndecided ++ [r].filter Result.isUndecided) =
          some ((Result.merged? (seen.filter Result.isUndecided)).elim r fun u => u.merge r) := by
      intro hr
      rw [List.filter_cons_of_pos hr, List.filter_nil, Result.merged?_concat]
    cases hd : r.decision with
    | permit => exact absurd hd hp
    | deny => exact ⟨_, rfl, by simp [hd, Result.isUndecided, Decision.isIndeterminate,
        Result.accumulate_gathered?]⟩
    | notApplicable =>
        exact ⟨_, rfl, by simp [hd, Result.isUndecided, Decision.isIndeterminate]⟩
    | _ =>
        rw [hu (by rw [Result.isUndecided, hd]; rfl)]
        exact ⟨_, rfl, by cases Result.merged? (seen.filter Result.isUndecided) <;> simp [hd]⟩
  concludes := by
    rintro seen summary rfl hf
    dsimp only [earlierPermitOverrides] at hf ⊢
    cases hg : Result.gathered? .deny (seen.filter (·.decision = .deny)) with
    | some denied =>
        obtain ⟨hn, rfl⟩ := Result.gathered?_eq_some_iff.mp hg
        exact ⟨rfl, fun he => hn he⟩
    | none =>
        -- without a child that denies, the conclusion is undecided or does not apply
        rw [hg] at hf
        cases hm : Result.merged? (seen.filter Result.isUndecided) with
        | none => rw [hm] at hf; cases hf
        | some u =>
            obtain ⟨first, rest, hs, -, hd⟩ := Result.exists_of_merged? hm
            have hi : first.isUndecided = true :=
              (List.mem_filter.mp (hs ▸ List.mem_cons_self)).2
            rw [hm] at hf
            dsimp only [Option.none_or, Option.getD_some] at hf
            rw [hd, Decision.not_isFinal_of_isIndeterminate hi] at hf
            cases hf

/-! ## The other methods -/

theorem keeps_earlierDenyOverrides :
    earlierDenyOverrides.Keeps fun seen permitted =>
      permitted = Result.gathered? .permit (seen.filter (·.decision = .permit)) ∧
        ∀ q ∈ seen, q.decision ≠ .deny ∧ q.isUndecided = false where
  start := ⟨rfl, by simp⟩
  step := by
    intro seen permitted next r hI hr
    obtain ⟨rfl, hn⟩ := hI
    rw [List.filter_append, List.forall_mem_append, List.forall_mem_singleton]
    cases hd : r.decision <;> simp only [earlierDenyOverrides, hd] at hr <;> cases hr
    · exact ⟨by simp [hd, Result.accumulate_gathered?], hn, by decide,
        by rw [Result.isUndecided, hd]; rfl⟩
    · exact ⟨by simp [hd], hn, by decide, by rw [Result.isUndecided, hd]; rfl⟩

/-- A child settles the earlier deny-overrides of policies by denying, or by being undecided; in the
latter case nothing of it gets into the result. -/
theorem earlierDenyOverrides_settles {permitted : Option Result} {rc r : Result}
    (h : earlierDenyOverrides.react permitted rc = .settle r) :
    (decide (rc.decision = .deny) || rc.isUndecided) = true ∧ r.decision = .deny ∧
      r.Gathers ([rc].filter (·.decision = .deny)) := by
  cases hd : rc.decision <;> simp only [earlierDenyOverrides, hd] at h <;> cases h
  case deny =>
    refine ⟨rfl, hd, ?_⟩
    rw [List.filter_cons_of_pos (by simpa using hd)]
    exact .single rc
  all_goals
    have hu : rc.isUndecided = true := by rw [Result.isUndecided, hd]; rfl
    refine ⟨hu, rfl, ?_⟩
    rw [List.filter_cons_of_neg (by simp [hd])]
    exact .none .deny

theorem keeps_firstApplicable :
    firstApplicable.Keeps fun seen _ => ∀ q ∈ seen, q.decision = .notApplicable where
  start := by simp
  step := by
    intro seen _ next r hn hr
    refine List.forall_mem_append.mpr ⟨hn, List.forall_mem_singleton.mpr ?_⟩
    dsimp only [firstApplicable] at hr
    split at hr
    · assumption
    · cases hr

theorem firstApplicable_settles {rc r : Result}
    (h : firstApplicable.react () rc = .settle r) : rc.decision ≠ .notApplicable ∧ rc = r := by
  dsimp only [firstApplicable] at h
  split at h
  · cases h
  · exact ⟨‹_›, Reaction.settle.inj h⟩

end Survey

/-- If the only applicable child decides, it is the first whose target matches. -/
theorem contribution_of_onlyApplicableFrom {chosen : Option Child} {children : List Child}
    {r : Result} (h : (onlyApplicableFrom chosen children).outcome = .ok r)
    (hf : r.decision.isFinal = true) :
    ∃ c, chosen.or (children.find? Child.applies) = some c ∧ (c.evaluate ()).outcome = .ok r := by
  induction children generalizing chosen with
  | nil =>
      cases chosen with
      | some c => exact ⟨c, rfl, h⟩
      | none =>
          obtain rfl := Except.ok.inj h
          cases hf
  | cons c rest ih =>
      rw [onlyApplicableFrom] at h
      cases hm : (c.matchTarget ()).outcome with
      | error f =>
          rw [Run.bind_of_error hm] at h
          cases h
      | ok a =>
          rw [Run.bind_of_ok hm] at h
          have ha : c.applies = a.isMatched := by rw [Child.applies, hm]
          cases a with
          | unmatched =>
              obtain ⟨c', hc, he⟩ := ih h
              rw [List.find?_cons_of_neg (by rw [ha]; decide)]
              exact ⟨c', hc, he⟩
          | unclear s =>
              obtain rfl := Except.ok.inj h
              cases hf
          | matched =>
              rw [List.find?_cons_of_pos (by rw [ha]; rfl)]
              cases chosen with
              | some c' =>
                  -- a second match leaves the combination undecided
                  obtain rfl := Except.ok.inj h
                  cases hf
              | none =>
                  obtain ⟨c', hc, he⟩ := ih h
                  exact ⟨c', hc, he⟩

namespace Method

theorem contribution_of_earlierDenyOverrides {children : List Child} {r : Result}
    (h : (Survey.earlierDenyOverrides.run children).outcome = .ok r) {x : Effect}
    (hx : r.decision = x.decision) :
    ∃ rs : List Result,
      Survey.outcomes (earlierDenyOverrides.contributors id x.decision children) = rs.map .ok ∧
        r.Gathers rs ∧ (rs = [] → x = .deny) := by
  cases Survey.ended_of_run Survey.keeps_earlierDenyOverrides h with
  | @settled before rest c seen _ rc hch hb hI hc hr =>
      obtain ⟨hp, hd, hg⟩ := Survey.earlierDenyOverrides_settles hr
      obtain rfl : x = .deny := Effect.decision_inj.mp (hx.symm.trans hd)
      have hn : ∀ q ∈ seen, (decide (q.decision = .deny) || q.isUndecided) = false := by
        intro q hq
        simp [hI.2 q hq]
      have hf : Survey.outcomes (firstTo id _ (before ++ c :: rest)) = [rc].map .ok :=
        outcomes_firstTo hb hn hc hp
      have hs := outcomes_allTo hf (·.decision = .deny)
      rw [← hch] at hs
      exact ⟨_, hs, hg, fun _ => rfl⟩
  | @concluded seen permitted ho hI hr =>
      obtain ⟨rfl, -⟩ := hI
      cases hg : Result.gathered? .permit (seen.filter (·.decision = .permit)) with
      | none =>
          rw [hg] at hr
          rw [← hr] at hx
          cases x <;> cases hx
      | some q =>
          obtain ⟨hn, rfl⟩ := Result.gathered?_eq_some_iff.mp hg
          rw [hg] at hr
          obtain rfl : _ = r := hr
          obtain rfl : x = .permit := Effect.decision_inj.mp hx.symm
          exact ⟨_, outcomes_allTo ho _, .filter .permit seen, fun he => absurd he hn⟩

theorem contribution_of_firstApplicable {children : List Child} {r : Result}
    (h : (Survey.firstApplicable.run children).outcome = .ok r) (hf : r.decision.isFinal = true) :
    Survey.outcomes (firstTo id (·.decision ≠ .notApplicable) children) = [.ok r] := by
  cases Survey.ended_of_run Survey.keeps_firstApplicable h with
  | settled hch hb hn hc hr =>
      obtain ⟨hd, rfl⟩ := Survey.firstApplicable_settles hr
      rw [hch]
      exact outcomes_firstTo hb (fun q hq => by simp [hn q hq]) hc (by simpa using hd)
  | concluded _ _ hr =>
      rw [← hr] at hf
      cases hf

/-- **The contributors of a final decision.** They come to results of the same decision, and the
combination carries what these results do and nothing else. There are some, unless the method
presumes the effect. -/
theorem contribution {m : Method} (hm : m.isStandard = true) {children : List Child}
    {ps : List Parameter} {ctx : Context} {r : Result}
    (h : (m.combine children ps ctx).outcome = .ok r)
    {x : Effect} (hx : r.decision = x.decision) :
    ∃ rs : List Result,
      Survey.outcomes (m.contributors id x.decision children) = rs.map .ok ∧ r.Gathers rs ∧
        (rs = [] → m.presumes x = true) := by
  have hf : r.decision.isFinal = true := hx ▸ x.isFinal_decision
  cases m with
  | overrides e =>
      obtain ⟨rs, ho, hg, hp⟩ := (Survey.overrules_overrides e).contribution h hf
      exact ⟨rs, hx ▸ ho, hg, fun hn => (hp hn).2.elim⟩
  | earlierRuleOverrides e =>
      obtain ⟨rs, ho, hg, hp⟩ := (Survey.overrules_earlierRuleOverrides e).contribution h hf
      exact ⟨rs, hx ▸ ho, hg, fun hn => (hp hn).2.elim⟩
  | earlierDenyOverrides =>
      obtain ⟨rs, ho, hg, hp⟩ := contribution_of_earlierDenyOverrides h hx
      exact ⟨rs, ho, hg, fun hn => decide_eq_true (hp hn)⟩
  | earlierPermitOverrides =>
      obtain ⟨rs, ho, hg, hp⟩ := Survey.overrules_earlierPermitOverrides.contribution h hf
      exact ⟨rs, hx ▸ ho, hg, fun hn => (hp hn).2.elim⟩
  | defaulting e =>
      obtain ⟨rs, ho, hg, hp⟩ := (Survey.overrules_defaulting e).contribution h hf
      -- with no contributor, the effect is the one that the method starts from
      refine ⟨rs, hx ▸ ho, hg, fun hn => decide_eq_true ?_⟩
      exact Effect.decision_inj.mp (hx.symm.trans (hp hn).1)
  | firstApplicable =>
      exact ⟨[r], contribution_of_firstApplicable h hf, .single r, by simp⟩
  | onlyOneApplicable =>
      obtain ⟨c, hc, he⟩ := contribution_of_onlyApplicableFrom h hf
      refine ⟨[r], ?_, .single r, by simp⟩
      have hl : children.find? (fun x => (id x).applies) = some c := hc
      rw [contributors, hl]
      exact congrArg (fun o => [o]) he
  | custom combine => cases hm

end Method

end Abac
