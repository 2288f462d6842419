import Abac.Proofs.Observation

/-!
# Methods that an effect overrules

Deny-overrides and permit-overrides, the earlier ones of rules, the earlier
permit-overrides of policies, and the methods that default to the other effect
keep different books about the children that do not decide the overriding effect.
About those that do they agree: each of them stops at the first child that decides
the effect or faults, and hands on what this child came to. Whether there is such
a child, and which one it is, shows in the children alone (`Child.settles`).

All of this follows from two facts about a survey, and is proved once for every
survey of which they hold: that a child which decides the effect settles it
whatever it has seen before (`Survey.Stops`), and that it comes to the effect in no
other way (`Survey.Overrules`).
-/

namespace Abac

/-- Whether a child ends every combination that the effect overrules: it decides the effect, or
comes to no result. -/
def Child.settles (e : Effect) (c : Child) : Bool := c.stops (·.decision = e.decision)

theorem Child.settles_of_ok {e : Effect} {c : Child} {r : Result}
    (h : (c.evaluate ()).outcome = .ok r) : c.settles e = decide (r.decision = e.decision) := by
  rw [settles, stops, h]

theorem Child.settles_of_error {e : Effect} {c : Child} {f : Fault}
    (h : (c.evaluate ()).outcome = .error f) : c.settles e = true := by rw [settles, stops, h]

/-! ## Surveys -/

namespace Survey

variable {σ : Type} {s : Survey σ}

/-- A survey comes to what the first child that settles it came to. Without such a child it does not
come to the effect. -/
theorem Overrules.outcome_runFrom {e : Effect} {I : List Result → σ → Prop} {presumed : Prop}
    (hs : s.Overrules e I presumed) {seen : List Result} {summary : σ} (hI : I seen summary)
    (children : List Child) :
    match children.find? (Child.settles e) with
    | some c => (s.runFrom summary children).outcome = (c.evaluate ()).outcome
    | none => ∃ r, (s.runFrom summary children).outcome = .ok r ∧ r.decision ≠ e.decision := by
  induction children generalizing seen summary with
  | nil =>
      refine ⟨s.conclude summary, rfl, fun hd => ?_⟩
      -- a final conclusion is the other effect
      obtain ⟨hg, -⟩ := hs.concludes hI (hd ▸ e.isFinal_decision)
      have ho : e.opposite.decision = e.decision := hd ▸ (congrArg Result.decision hg).symm
      revert ho
      cases e <;> decide
  | cons c rest ih =>
      cases hc : (c.evaluate ()).outcome with
      | error f =>
          rw [List.find?_cons_of_pos (Child.settles_of_error hc), runFrom, Run.bind_of_error hc]
          exact hc.symm
      | ok r =>
          have hset := Child.settles_of_ok (e := e) hc
          rw [runFrom, Run.bind_of_ok hc]
          by_cases hd : r.decision = e.decision
          · rw [List.find?_cons_of_pos (by rw [hset, decide_eq_true hd]), hs.settles hd]
            exact hc.symm
          · obtain ⟨next, hr, hI'⟩ := hs.proceeds hI hd
            rw [List.find?_cons_of_neg (by rw [hset, decide_eq_false hd]; decide), hr]
            exact ih hI'

/-- Nothing after a child at which a survey stops has a part in it. -/
theorem run_append_cons {m : Method} (hm : s.Stops m) {c : Child}
    (hc : c.stops (fun r => m.stopsAt r.decision) = true) (before rest rest' : List Child) :
    s.run (before ++ c :: rest) = s.run (before ++ c :: rest') := by
  rw [run, run]
  generalize s.start = summary
  induction before generalizing summary with
  | nil =>
      rw [List.nil_append, List.nil_append, runFrom, runFrom]
      cases ho : (c.evaluate ()).outcome with
      | error f => rw [Run.bind_of_error ho, Run.bind_of_error ho]
      | ok r =>
          rw [Child.stops, ho] at hc
          obtain ⟨q, hq⟩ := (hm summary r).mpr hc
          rw [Run.bind_of_ok ho, Run.bind_of_ok ho, hq]
  | cons b before ih =>
      rw [List.cons_append, List.cons_append, runFrom, runFrom]
      refine congrArg _ (funext fun r => ?_)
      cases s.react summary r with
      | settle q => rfl
      | proceed next => exact ih next

end Survey

/-! ## Methods -/

namespace Method

/-- Whether the effect overrules the other one in a method. -/
def isOverruledBy (e : Effect) : Method → Bool
  | .overrides x | .earlierRuleOverrides x | .defaulting x => x = e
  | .earlierPermitOverrides => e = .permit
  | _ => false

variable {e : Effect} {m : Method}

/-- A method in which the effect overrules is a survey that the effect settles. -/
theorem exists_survey_of_isOverruledBy (h : m.isOverruledBy e = true) :
    ∃ (σ : Type) (s : Survey σ) (I : List Result → σ → Prop) (presumed : Prop),
      s.Overrules e I presumed ∧ s.Stops m ∧
        ∀ children ps ctx, m.combine children ps ctx = s.run children := by
  cases m with
  | overrides x =>
      obtain rfl := of_decide_eq_true h
      exact ⟨_, _, _, _, Survey.overrules_overrides x, Survey.stops_overrides x, fun _ _ _ => rfl⟩
  | earlierRuleOverrides x =>
      obtain rfl := of_decide_eq_true h
      exact ⟨_, _, _, _, Survey.overrules_earlierRuleOverrides x,
        Survey.stops_earlierRuleOverrides x, fun _ _ _ => rfl⟩
  | defaulting x =>
      obtain rfl := of_decide_eq_true h
      exact ⟨_, _, _, _, Survey.overrules_defaulting x, Survey.stops_defaulting x, fun _ _ _ => rfl⟩
  | earlierPermitOverrides =>
      obtain rfl := of_decide_eq_true h
      exact ⟨_, _, _, _, Survey.overrules_earlierPermitOverrides,
        Survey.stops_earlierPermitOverrides, fun _ _ _ => rfl⟩
  | _ => cases h

theorem stopsAt_of_isOverruledBy (h : m.isOverruledBy e = true) (d : Decision) :
    m.stopsAt d = decide (d = e.decision) := by
  cases m with
  | overrides x => rw [← of_decide_eq_true h]; rfl
  | earlierRuleOverrides x => rw [← of_decide_eq_true h]; rfl
  | defaulting x => rw [← of_decide_eq_true h]; rfl
  | earlierPermitOverrides => rw [of_decide_eq_true h]; rfl
  | _ => cases h

theorem outcome_of_isOverruledBy (h : m.isOverruledBy e = true) (children : List Child)
    (ps : List Parameter) (ctx : Context) :
    match children.find? (Child.settles e) with
    | some c => (m.combine children ps ctx).outcome = (c.evaluate ()).outcome
    | none => ∃ r, (m.combine children ps ctx).outcome = .ok r ∧ r.decision ≠ e.decision := by
  obtain ⟨_, s, _, _, hs, -, hrun⟩ := exists_survey_of_isOverruledBy h
  rw [hrun]
  exact hs.outcome_runFrom hs.start children

theorem replays_of_isOverruledBy (h : m.isOverruledBy e = true) (children : List Child)
    (ps : List Parameter) (ctx : Context) :
    (m.combine children ps ctx).Replays (upTo id (·.decision = e.decision) children) := by
  obtain ⟨_, s, _, _, -, hstop, hrun⟩ := exists_survey_of_isOverruledBy h
  have hr := Survey.replays_run hstop children
  simp only [stopsAt_of_isOverruledBy h] at hr
  rwa [hrun]

theorem combine_append_cons_of_isOverruledBy (h : m.isOverruledBy e = true) {c : Child}
    (hc : c.settles e = true) (before rest rest' : List Child) (ps : List Parameter)
    (ctx : Context) :
    m.combine (before ++ c :: rest) ps ctx = m.combine (before ++ c :: rest') ps ctx := by
  obtain ⟨_, s, _, _, -, hstop, hrun⟩ := exists_survey_of_isOverruledBy h
  rw [hrun, hrun]
  refine Survey.run_append_cons hstop ?_ before rest rest'
  simp only [stopsAt_of_isOverruledBy h]
  exact hc

/-- **Methods with the same overriding effect agree on it.** The first child that faults or decides
the effect decides for all of them: they come to its fault, or to its result as it is. Without such
a child, none of them decides the effect. They evaluate the same children, namely those up to this
one, and whatever comes after it changes nothing. -/
theorem agree_on_overruling_effect (e : Effect) (children : List Child) (ps : List Parameter)
    (ctx : Context) :
    ((∃ c f, children.find? (Child.settles e) = some c ∧ (c.evaluate ()).outcome = .error f ∧
        ∀ m : Method, m.isOverruledBy e = true → (m.combine children ps ctx).outcome = .error f) ∨
      (∃ c r, children.find? (Child.settles e) = some c ∧ (c.evaluate ()).outcome = .ok r ∧
        r.decision = e.decision ∧
        ∀ m : Method, m.isOverruledBy e = true → (m.combine children ps ctx).outcome = .ok r) ∨
      (children.find? (Child.settles e) = none ∧ ∀ m : Method, m.isOverruledBy e = true →
        ∃ r, (m.combine children ps ctx).outcome = .ok r ∧ r.decision ≠ e.decision)) ∧
    ∀ m : Method, m.isOverruledBy e = true →
      (m.combine children ps ctx).Replays (upTo id (·.decision = e.decision) children) ∧
        ∀ before c rest rest', children = before ++ c :: rest → c.settles e = true →
          m.combine (before ++ c :: rest') ps ctx = m.combine children ps ctx := by
  refine ⟨?ends, fun m hm => ⟨replays_of_isOverruledBy hm children ps ctx, ?later⟩⟩
  case later =>
    rintro before c rest rest' rfl hc
    exact combine_append_cons_of_isOverruledBy hm hc before rest' rest ps ctx
  have hm : ∀ m : Method, m.isOverruledBy e = true → _ :=
    fun _ h => outcome_of_isOverruledBy h children ps ctx
  cases hf : children.find? (Child.settles e) with
  | none =>
      simp only [hf] at hm
      exact .inr (.inr ⟨rfl, hm⟩)
  | some c =>
      simp only [hf] at hm
      cases hc : (c.evaluate ()).outcome with
      | error f =>
          simp only [hc] at hm
          exact .inl ⟨c, f, rfl, hc, hm⟩
      | ok r =>
          have hd := List.find?_some hf
          rw [Child.settles_of_ok hc] at hd
          simp only [hc] at hm
          exact .inr (.inl ⟨c, r, rfl, hc, of_decide_eq_true hd, hm⟩)

/-- A fault before a child that denies. -/
theorem agree_on_overruling_effect_after_fault :
    let faulty : Child := ⟨"", [], fun _ => pure .matched, fun _ => .lift (.error (.lookup "down"))⟩
    let before : List Child := [.fixed (.of .permit), .fixed (.of .indeterminatePermit)]
    let children := before ++ faulty :: [.fixed (.of .deny)]
    (Method.overrides .deny).isOverruledBy .deny = true ∧
      (Method.defaulting .deny).isOverruledBy .deny = true ∧ faulty.settles .deny = true ∧
      ((Method.overrides .deny).combine children [] .bare).outcome = .error (.lookup "down") ∧
      ((Method.defaulting .deny).combine children [] .bare).outcome = .error (.lookup "down") ∧
      (Method.defaulting .deny).combine (before ++ faulty :: []) [] .bare =
        (Method.defaulting .deny).combine children [] .bare := by
  intro faulty before children
  have ho : (Method.overrides .deny).isOverruledBy .deny = true := rfl
  have hd : (Method.defaulting .deny).isOverruledBy .deny = true := rfl
  obtain ⟨hends, hall⟩ := agree_on_overruling_effect .deny children [] .bare
  have hlater := (hall _ hd).2 before faulty _ [] rfl rfl
  have hf : children.find? (Child.settles .deny) = some faulty := rfl
  rw [hf] at hends
  rcases hends with ⟨c, f, hc, he, hm⟩ | ⟨c, r, hc, hr, -⟩ | ⟨hc, -⟩
  · obtain rfl := Option.some.inj hc
    obtain rfl : .lookup "down" = f := Except.error.inj he
    exact ⟨ho, hd, rfl, hm _ ho, hm _ hd, hlater⟩
  · obtain rfl := Option.some.inj hc
    cases hr
  · cases hc

end Method

end Abac
