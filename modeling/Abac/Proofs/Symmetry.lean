import Abac.Proofs.Contribution
import Abac.Proofs.Flattening

/-!
# The order of the children

First-applicable depends on the order of the children by its nature. The other
built-in methods are symmetric: they look at which decisions there are, or at
how many targets match, and neither has an order. The loops do not show this,
since each of them stops early and remembers what came first.

For the methods that evaluate the children in order, `Method.verdict?` says what
they decide from the children's decisions alone, and in all but one of them it
asks only whether a decision is among these. The exception is the earlier
permit-overrides of policies: where nothing is decided, it merges the undecided
children into the first of them, whose decision stays. Only-one-applicable is
compared by the children that match, and of two lists in which there is exactly
one it is the same one.
-/

namespace Abac

/-- Finding out whether the child applies comes to an answer, and evaluating it to a result. -/
structure Child.Completes (c : Child) : Prop where
  target : ∃ a, (c.matchTarget ()).outcome = .ok a
  result : ∃ r, (c.evaluate ()).outcome = .ok r

theorem Child.Completes.fixed (r : Result) : (Child.fixed r).Completes := ⟨⟨_, rfl⟩, ⟨r, rfl⟩⟩

/-! ## Methods that look at decisions alone -/

namespace Survey

theorem exists_decisions {children : List Child} (h : ∀ c ∈ children, c.Completes) :
    ∃ ds : List Decision, decisions children = ds.map .ok := by
  have hr : decisions children ∈ Set.range (List.map Except.ok) := by
    rw [Set.range_list_map]
    intro o ho
    obtain ⟨_, hm, rfl⟩ := List.mem_map.mp ho
    obtain ⟨c, hc, rfl⟩ := List.mem_map.mp hm
    obtain ⟨r, hr⟩ := (h c hc).result
    exact ⟨r.decision, by rw [hr]; rfl⟩
  obtain ⟨ds, hd⟩ := hr
  exact ⟨ds, hd.symm⟩

/-- A survey of children that come to results is settled by one of these, or concludes from all. -/
theorem exists_run {σ : Type} {s : Survey σ} {I : List Result → σ → Prop} (hI : s.Keeps I)
    {children : List Child} {rs : List Result} (h : outcomes children = rs.map .ok) :
    ∃ r, (s.run children).outcome = .ok r ∧
      ((∃ seen rc rest summary, rs = seen ++ rc :: rest ∧ I seen summary ∧
          s.react summary rc = .settle r) ∨
        ∃ summary, I rs summary ∧ s.conclude summary = r) := by
  have hr := s.outcome_run h
  have hinj : Function.Injective (List.map (Except.ok (ε := Fault) (α := Result))) :=
    List.map_injective_iff.mpr fun _ _ => Except.ok.inj
  refine ⟨s.ofResults rs, hr, ?_⟩
  cases ended_of_run hI hr with
  | @settled before rest c seen summary rc hch hb hs hc hr =>
      -- the results are those before the child, its own, and the ones that are not looked at
      rw [hch, outcomes, List.map_append, List.map_cons, hc] at h
      obtain ⟨seen', tail, rfl, hb', ht⟩ := List.map_eq_append_iff.mp h.symm
      obtain ⟨rc', rest', rfl, hc', -⟩ := List.map_eq_cons_iff.mp ht
      obtain rfl := Except.ok.inj hc'
      obtain rfl := hinj (hb'.trans hb)
      exact .inl ⟨_, _, rest', summary, rfl, hs, hr⟩
  | @concluded seen summary hs hI hr =>
      obtain rfl := hinj (hs.symm.trans h)
      exact .inr ⟨summary, hI, hr⟩

end Survey

namespace Method

/-- What a method decides when the children decide `ds`; absent for the methods that look at more
than decisions. -/
def verdict? (ds : List Decision) : Method → Option Decision
  | .overrides e => some (e.overriding ds)
  | .earlierRuleOverrides e => some (e.overriding ds).untracked
  | .earlierDenyOverrides =>
    some <| if ∃ d ∈ ds, d = .deny ∨ d.isIndeterminate = true then .deny
      else if .permit ∈ ds then .permit
      else .notApplicable
  | .earlierPermitOverrides =>
    some <| if .permit ∈ ds then .permit
      else if .deny ∈ ds then .deny
      else (ds.find? Decision.isIndeterminate).getD .notApplicable
  | .defaulting e => some (if e.decision ∈ ds then e.decision else e.opposite.decision)
  | .firstApplicable => some ((ds.find? (· ≠ .notApplicable)).getD .notApplicable)
  | .onlyOneApplicable => none
  | .custom _ => none

/-! ### What each method decides -/

theorem decision_mem {rs seen rest : List Result} {rc : Result} (h : rs = seen ++ rc :: rest) :
    rc.decision ∈ rs.map Result.decision :=
  List.mem_map_of_mem (h ▸ List.mem_append_right seen List.mem_cons_self)

theorem decides_defaulting {e : Effect} {children : List Child} {rs : List Result}
    (h : Survey.outcomes children = rs.map .ok) (ps : List Parameter) (ctx : Context) :
    (Method.defaulting e).decides children ps ctx =
      .ok (if e.decision ∈ rs.map Result.decision then e.decision else e.opposite.decision) := by
  obtain ⟨r, hr, hend⟩ := Survey.exists_run (Survey.overrules_defaulting e).keeps h
  rw [decides, combine, hr]
  refine congrArg Except.ok ?_
  obtain ⟨seen, rc, rest, _, hrs, hI, hs⟩ | ⟨_, ⟨rfl, hn⟩, rfl⟩ := hend
  · obtain ⟨hd, rfl⟩ := (Survey.overrules_defaulting e).eq_of_settle hI.1 hs
    rw [if_pos (hd ▸ decision_mem hrs), hd]
  · have hm : e.decision ∉ rs.map Result.decision := by simpa using hn
    rw [if_neg hm]
    rfl

theorem decides_firstApplicable {children : List Child} {rs : List Result}
    (h : Survey.outcomes children = rs.map .ok) (ps : List Parameter) (ctx : Context) :
    Method.firstApplicable.decides children ps ctx =
      .ok (((rs.map Result.decision).find? (· ≠ .notApplicable)).getD .notApplicable) := by
  obtain ⟨r, hr, hend⟩ := Survey.exists_run Survey.keeps_firstApplicable h
  rw [decides, combine, hr]
  refine congrArg Except.ok ?_
  obtain ⟨seen, rc, rest, _, rfl, hn, hs⟩ | ⟨_, hn, rfl⟩ := hend
  · obtain ⟨hd, rfl⟩ := Survey.firstApplicable_settles hs
    have hf : (seen.map Result.decision).find? (· ≠ .notApplicable) = none := by simpa using hn
    rw [List.map_append, List.find?_append, hf, List.map_cons,
      List.find?_cons_of_pos (by simpa using hd)]
    rfl
  · have hf : (rs.map Result.decision).find? (· ≠ .notApplicable) = none := by simpa using hn
    rw [hf]
    rfl

theorem decides_earlierDenyOverrides {children : List Child} {rs : List Result}
    (h : Survey.outcomes children = rs.map .ok) (ps : List Parameter) (ctx : Context) :
    Method.earlierDenyOverrides.decides children ps ctx =
      .ok (if ∃ d ∈ rs.map Result.decision, d = .deny ∨ d.isIndeterminate = true then .deny
        else if .permit ∈ rs.map Result.decision then .permit else .notApplicable) := by
  obtain ⟨r, hr, hend⟩ := Survey.exists_run Survey.keeps_earlierDenyOverrides h
  rw [decides, combine, hr]
  refine congrArg Except.ok ?_
  obtain ⟨seen, rc, rest, _, hrs, -, hs⟩ | ⟨_, ⟨rfl, hn⟩, rfl⟩ := hend
  · obtain ⟨hp, hd, -⟩ := Survey.earlierDenyOverrides_settles hs
    have hp : rc.decision = .deny ∨ rc.isUndecided = true := by simpa using hp
    rw [if_pos ⟨_, decision_mem hrs, hp⟩, hd]
  · have hm : ¬ ∃ d ∈ rs.map Result.decision, d = .deny ∨ d.isIndeterminate = true := by
      rintro ⟨_, hm, hd⟩
      obtain ⟨q, hq, rfl⟩ := List.mem_map.mp hm
      rcases hd with hd | hd
      · exact (hn q hq).1 hd
      · exact absurd hd (Bool.eq_false_iff.mp (hn q hq).2)
    rw [if_neg hm]
    dsimp only [Survey.earlierDenyOverrides]
    rw [Result.gathered?_filter]
    split <;> rfl

theorem decides_earlierPermitOverrides {children : List Child} {rs : List Result}
    (h : Survey.outcomes children = rs.map .ok) (ps : List Parameter) (ctx : Context) :
    Method.earlierPermitOverrides.decides children ps ctx =
      .ok (if .permit ∈ rs.map Result.decision then .permit
        else if .deny ∈ rs.map Result.decision then .deny
        else ((rs.map Result.decision).find? Decision.isIndeterminate).getD .notApplicable) := by
  obtain ⟨r, hr, hend⟩ := Survey.exists_run Survey.overrules_earlierPermitOverrides.keeps h
  rw [decides, combine, hr]
  refine congrArg Except.ok ?_
  obtain ⟨seen, rc, rest, _, hrs, hI, hs⟩ | ⟨_, ⟨rfl, hn⟩, rfl⟩ := hend
  · obtain ⟨hd, rfl⟩ := Survey.overrules_earlierPermitOverrides.eq_of_settle hI.1 hs
    have hd : rc.decision = .permit := hd
    rw [if_pos (hd ▸ decision_mem hrs), hd]
  · have hm : .permit ∉ rs.map Result.decision := by simpa [Effect.decision] using hn
    rw [if_neg hm]
    have hu : (Result.merged? (rs.filter Result.isUndecided)).map Result.decision =
        (rs.map Result.decision).find? Decision.isIndeterminate := by
      rw [Result.decision_merged?, List.head?_filter, List.find?_map]
      rfl
    dsimp only [Survey.earlierPermitOverrides]
    rw [← hu, ← Option.getD_map Result.decision, Option.map_or, Result.gathered?_filter]
    split <;> rfl

theorem decides_earlierRuleOverrides {e : Effect} {children : List Child} {ds : List Decision}
    (h : Survey.decisions children = ds.map .ok) (ps : List Parameter) (ctx : Context) :
    (Method.earlierRuleOverrides e).decides children ps ctx = .ok (e.overriding ds).untracked := by
  have hl := decides_overrides (e := e) h ps ctx
  rw [decides, combine] at hl
  rw [decides, combine, (Survey.earlierRuleOverrides_follows e).run_eq, Run.outcome_map]
  cases hr : ((Survey.overrides e).run children).outcome with
  | error f => rw [hr] at hl; cases hl
  | ok r =>
      rw [hr] at hl
      exact congrArg (fun d => Except.ok d.untracked) (Except.ok.inj hl)

theorem decides_of_verdict? {m : Method} {children : List Child} {ds : List Decision}
    (h : Survey.decisions children = ds.map .ok) (ps : List Parameter) (ctx : Context)
    {d : Decision} (hd : m.verdict? ds = some d) : m.decides children ps ctx = .ok d := by
  cases m with
  | overrides e => exact Option.some.inj hd ▸ decides_overrides h ps ctx
  | earlierRuleOverrides e => exact Option.some.inj hd ▸ decides_earlierRuleOverrides h ps ctx
  | onlyOneApplicable => cases hd
  | custom combine => cases hd
  | earlierDenyOverrides =>
      obtain ⟨rs, hr, rfl⟩ := Survey.exists_results h
      exact Option.some.inj hd ▸ decides_earlierDenyOverrides hr ps ctx
  | earlierPermitOverrides =>
      obtain ⟨rs, hr, rfl⟩ := Survey.exists_results h
      exact Option.some.inj hd ▸ decides_earlierPermitOverrides hr ps ctx
  | defaulting e =>
      obtain ⟨rs, hr, rfl⟩ := Survey.exists_results h
      exact Option.some.inj hd ▸ decides_defaulting hr ps ctx
  | firstApplicable =>
      obtain ⟨rs, hr, rfl⟩ := Survey.exists_results h
      exact Option.some.inj hd ▸ decides_firstApplicable hr ps ctx

/-! ### Which of them are symmetric -/

/-- Whether the method does not mean the order of the children. -/
def isSymmetric : Method → Bool
  | .firstApplicable | .custom _ => false
  | _ => true

end Method

/-- Nothing is decided, and something is undecided. -/
def LeftOpen (ds : List Decision) : Prop :=
  (∀ d ∈ ds, d.isFinal = false) ∧ ∃ d ∈ ds, d.isIndeterminate = true

namespace Method

theorem verdict?_earlierPermitOverrides {ds : List Decision} (h : LeftOpen ds) :
    ∃ d, ds.find? Decision.isIndeterminate = some d ∧
      Method.earlierPermitOverrides.verdict? ds = some d := by
  have hs : (ds.find? Decision.isIndeterminate).isSome := List.find?_isSome.mpr h.2
  obtain ⟨d, hd⟩ := Option.isSome_iff_exists.mp hs
  have hp : .permit ∉ ds := fun hm => absurd (h.1 _ hm) (by decide)
  have hn : .deny ∉ ds := fun hm => absurd (h.1 _ hm) (by decide)
  refine ⟨d, hd, ?_⟩
  rw [verdict?, if_neg hp, if_neg hn, hd]
  rfl

/-- The verdict of a symmetric method depends on which decisions there are, not on their order,
unless it is left to the first undecided one. -/
theorem verdict?_perm {m : Method} (hm : m.isSymmetric = true) {ds es : List Decision}
    (hp : ds.Perm es) (ho : m = .earlierPermitOverrides → ¬ LeftOpen ds) :
    m.verdict? ds = m.verdict? es := by
  cases m with
  | firstApplicable => cases hm
  | custom combine => cases hm
  | onlyOneApplicable => rfl
  | overrides e => rw [verdict?, verdict?, e.overriding_perm hp]
  | earlierRuleOverrides e => rw [verdict?, verdict?, e.overriding_perm hp]
  | earlierDenyOverrides => simp only [verdict?, hp.mem_iff]
  | defaulting e => simp only [verdict?, hp.mem_iff]
  | earlierPermitOverrides =>
      have hf : .permit ∉ ds → .deny ∉ ds →
          ds.find? Decision.isIndeterminate = es.find? Decision.isIndeterminate := by
        intro hn hd
        -- nothing is decided, so nothing is undecided either
        have hi : ∀ d ∈ ds, ¬ d.isIndeterminate = true := by
          intro d hm hi
          refine ho rfl ⟨fun d' hm' => ?_, d, hm, hi⟩
          cases d' with
          | permit => exact absurd hm' hn
          | deny => exact absurd hm' hd
          | _ => rfl
        rw [List.find?_eq_none.mpr hi,
          List.find?_eq_none.mpr fun d hm => hi d (hp.mem_iff.mpr hm)]
      simp only [verdict?, ← hp.mem_iff]
      split
      · rfl
      split
      · rfl
      rw [hf ‹_› ‹_›]

end Method

/-! ## The only applicable child -/

/-- Whether it cannot be told if a child's target matches. -/
def Child.isUnclear (c : Child) : Bool :=
  match (c.matchTarget ()).outcome with
  | .ok (.unclear _) => true
  | _ => false

/-- What children whose targets match decide: nothing if there is none, and what the only one
decides. -/
def Child.soleDecision : List Child → Except Fault Decision
  | [] => .ok .notApplicable
  | [c] => (c.evaluate ()).outcome.map Result.decision
  | _ => .ok .indeterminate

theorem Child.soleDecision_perm {xs ys : List Child} (h : xs.Perm ys) :
    soleDecision xs = soleDecision ys := by
  match xs, ys with
  | [], [] => rfl
  | [c], [d] => rw [List.singleton_perm_singleton.mp h]
  | _ :: _ :: _, _ :: _ :: _ => rfl
  | [], _ :: _ => simpa using h.length_eq
  | [_], [] => simpa using h.length_eq
  | [_], _ :: _ :: _ => simpa using h.length_eq
  | _ :: _ :: _, [] => simpa using h.length_eq
  | _ :: _ :: _, [_] => simpa using h.length_eq

theorem decision_onlyApplicableFrom {children : List Child} (h : ∀ c ∈ children, c.Completes)
    (chosen : Option Child) :
    (onlyApplicableFrom chosen children).outcome.map Result.decision =
      if children.any Child.isUnclear then .ok .indeterminate
      else Child.soleDecision (chosen.toList ++ children.filter Child.applies) := by
  induction children generalizing chosen with
  | nil => cases chosen <;> rfl
  | cons c rest ih =>
      obtain ⟨⟨a, ha⟩, -⟩ := h c List.mem_cons_self
      have ih := ih fun c hc => h c (List.mem_cons_of_mem _ hc)
      rw [onlyApplicableFrom, Run.bind_of_ok ha, List.any_cons]
      cases a with
      | unmatched =>
          have hu : c.isUnclear = false := by rw [Child.isUnclear, ha]
          have hf : ¬ c.applies = true := by rw [Child.applies, ha]; decide
          rw [hu, Bool.false_or, List.filter_cons_of_neg hf]
          exact ih chosen
      | unclear s =>
          have hu : c.isUnclear = true := by rw [Child.isUnclear, ha]
          rw [hu, Bool.true_or, if_pos rfl]
          rfl
      | matched =>
          have hu : c.isUnclear = false := by rw [Child.isUnclear, ha]
          have hf : c.applies = true := by rw [Child.applies, ha]; rfl
          rw [hu, Bool.false_or, List.filter_cons_of_pos hf]
          cases chosen with
          | none => exact ih (some c)
          | some first =>
              -- a second match leaves the combination undecided, whatever comes later
              exact (ite_self _).symm

theorem Child.exists_soleDecision {children : List Child} (h : ∀ c ∈ children, c.Completes) :
    ∃ d, soleDecision children = .ok d := by
  match children with
  | [] => exact ⟨_, rfl⟩
  | [c] =>
      obtain ⟨r, hr⟩ := (h c (List.mem_singleton.mpr rfl)).result
      exact ⟨r.decision, by rw [soleDecision, hr]; rfl⟩
  | _ :: _ :: _ => exact ⟨_, rfl⟩

/-- Whether a target is unclear, and which child is the only one that matches, has no order. -/
theorem Method.decides_onlyOneApplicable_perm {xs ys : List Child} (hp : xs.Perm ys)
    (h : ∀ c ∈ xs, c.Completes) (ps : List Parameter) (ctx : Context) :
    ∃ d, Method.onlyOneApplicable.decides xs ps ctx = .ok d ∧
      Method.onlyOneApplicable.decides ys ps ctx = .ok d := by
  have hy : ∀ c ∈ ys, c.Completes := fun c hc => h c (hp.mem_iff.mpr hc)
  have hd : Method.onlyOneApplicable.decides ys ps ctx =
      Method.onlyOneApplicable.decides xs ps ctx := by
    rw [decides, decides, combine, combine, onlyApplicable, onlyApplicable,
      decision_onlyApplicableFrom h, decision_onlyApplicableFrom hy, hp.any_eq,
      Child.soleDecision_perm ((hp.filter Child.applies).append_left _)]
  obtain ⟨d, hs⟩ := Child.exists_soleDecision fun c hc =>
    h c (List.mem_of_mem_filter (p := Child.applies) hc)
  rw [hd, decides, combine, onlyApplicable, decision_onlyApplicableFrom h, Option.toList_none,
    List.nil_append, hs]
  split
  · exact ⟨_, rfl, rfl⟩
  · exact ⟨_, rfl, rfl⟩

/-! ## Symmetry -/

theorem LeftOpen.perm {ds es : List Decision} (h : LeftOpen ds) (hp : ds.Perm es) :
    LeftOpen es := by simpa only [LeftOpen, hp.mem_iff] using h

/-- **Symmetry.** If no child faults, a built-in method other than first-applicable decides the same
whatever the order of the children. The one exception is the earlier permit-overrides of policies
where nothing is decided and something is undecided: there each order has the decision of its own
first undecided child. -/
theorem Method.decides_perm {m : Method} (hm : m.isSymmetric = true) {xs ys : List Child}
    (hp : xs.Perm ys) (hx : ∀ c ∈ xs, c.Completes) (ps : List Parameter) (ctx : Context) :
    ∃ (ds es : List Decision) (d d' : Decision),
      Survey.decisions xs = ds.map .ok ∧ Survey.decisions ys = es.map .ok ∧
      m.decides xs ps ctx = .ok d ∧ m.decides ys ps ctx = .ok d' ∧
      ((m = .earlierPermitOverrides → ¬ LeftOpen ds) → d = d') ∧
      (m = .earlierPermitOverrides → LeftOpen ds →
        ds.find? Decision.isIndeterminate = some d ∧
          es.find? Decision.isIndeterminate = some d') := by
  obtain ⟨ds, hds⟩ := Survey.exists_decisions hx
  have hmap : (Survey.decisions xs).Perm (Survey.decisions ys) := (hp.map _).map _
  rw [hds] at hmap
  obtain ⟨es, hes, hde⟩ := exists_decisions_of_perm hmap
  cases hv : m.verdict? ds with
  | none =>
      obtain rfl : m = .onlyOneApplicable := by
        cases m with
        | onlyOneApplicable => rfl
        | custom combine => cases hm
        | _ => cases hv
      obtain ⟨d, hd, hd'⟩ := decides_onlyOneApplicable_perm hp hx ps ctx
      exact ⟨ds, es, d, d, hds, hes, hd, hd', fun _ => rfl, fun h => nomatch h⟩
  | some d =>
      by_cases ho : m = .earlierPermitOverrides ∧ LeftOpen ds
      · obtain ⟨rfl, ho⟩ := ho
        obtain ⟨d, hf, hv⟩ := verdict?_earlierPermitOverrides ho
        obtain ⟨d', hf', hv'⟩ := verdict?_earlierPermitOverrides (ho.perm hde)
        exact ⟨ds, es, d, d', hds, hes, decides_of_verdict? hds ps ctx hv,
          decides_of_verdict? hes ps ctx hv', fun hn => absurd ho (hn rfl), fun _ _ => ⟨hf, hf'⟩⟩
      · have hn := not_and.mp ho
        have hv' := hv
        rw [verdict?_perm hm hde hn] at hv'
        exact ⟨ds, es, d, d, hds, hes, decides_of_verdict? hds ps ctx hv,
          decides_of_verdict? hes ps ctx hv', fun _ => rfl, fun h ho => absurd ho (hn h)⟩

/-- A child that does not apply beside the only one that does, in either order. -/
theorem Method.decides_perm_onlyOneApplicable :
    let aside : Child := ⟨"aside", [], fun _ => pure .unmatched, fun _ => pure (.of .deny)⟩
    let sole : Child := .fixed (.of .permit)
    [aside, sole].Perm [sole, aside] ∧ (∀ c ∈ [aside, sole], c.Completes) ∧
      Method.onlyOneApplicable.decides [aside, sole] [] .bare = .ok .permit ∧
      Method.onlyOneApplicable.decides [sole, aside] [] .bare = .ok .permit := by
  intro aside sole
  have hp : [aside, sole].Perm [sole, aside] := .swap _ _ _
  have ha : aside.Completes := ⟨⟨_, rfl⟩, ⟨_, rfl⟩⟩
  have hx : ∀ c ∈ [aside, sole], c.Completes :=
    List.forall_mem_cons.mpr ⟨ha, List.forall_mem_singleton.mpr (.fixed _)⟩
  obtain ⟨_, _, d, d', _, _, hd, hd', he, -⟩ :=
    Method.decides_perm (m := .onlyOneApplicable) rfl hp hx [] .bare
  obtain rfl := he fun h => nomatch h
  obtain rfl : .permit = d := Except.ok.inj hd
  exact ⟨hp, hx, hd, hd'⟩

/-- Of two undecided children the earlier permit-overrides of policies takes the first. -/
theorem Method.earlierPermitOverrides_asymmetric :
    let first : Child := .fixed (.of .indeterminatePermit)
    let second : Child := .fixed (.of .indeterminateDeny)
    [first, second].Perm [second, first] ∧ (∀ c ∈ [first, second], c.Completes) ∧
      Method.earlierPermitOverrides.decides [first, second] [] .bare = .ok .indeterminatePermit ∧
      Method.earlierPermitOverrides.decides [second, first] [] .bare = .ok .indeterminateDeny := by
  intro first second
  have hx : ∀ c ∈ [first, second], c.Completes :=
    List.forall_mem_cons.mpr
      ⟨.fixed _, List.forall_mem_singleton.mpr (.fixed _)⟩
  exact ⟨.swap _ _ _, hx, rfl, rfl⟩

end Abac
