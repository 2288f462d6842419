import Abac.Policy.Rule
import Abac.Proofs.Returns

/-!
# The types of expressions

Before evaluation, little is known of the outcome of an expression: the type of a
literal, that of the bag of a designator or selector, and what the outermost
function declares. All of this is right whenever there is an outcome
(`Expression.hasType_of_eval`).

The proof never follows types into the arguments, since a standard function
returns what it declares for any arguments whose bags are well typed. So it is
enough that every outcome on the way is well typed (`Expression.ends_eval`),
which also says how evaluation halts. Functions that are passed on matter for
halts alone, and that is why expressions are described by two properties, one of
the functions that they apply and one of those that they pass on
(`Expression.Over`).
-/

namespace Abac

/-! ## Lookups -/

/-- A source of attributes failed. -/
def Fault.FromLookup (f : Fault) : Prop := ∃ message, f = .lookup message

theorem ends_usableAnswer (answer : Except String LookupAnswer) :
    Ends (Halt.ReportsOr Fault.FromLookup) (fun _ => True) (usableAnswer answer) := by
  unfold usableAnswer
  split
  · exact ⟨_, rfl⟩
  · split
    · exact True.intro
    · rename_i h
      exact Bool.eq_false_iff.mpr h

/-- Whatever a source answers, only values of the type wanted are put into the bag. -/
theorem ends_putAll_valuesOfType {H : Halt → Prop} (t : DataType) (attributes : List Attribute) :
    Ends H (Bag.IsOf t) (putAll (.empty t) (valuesOfType t attributes)) := by
  have hv : ∀ v ∈ valuesOfType t attributes, v.dataType = t := fun v hm =>
    beq_iff_eq.mp (List.mem_filter.mp hm).2
  exact ends_putAll (Bag.isOf_empty t) hv

theorem Designator.ends_eval (ctx : Context) (d : Designator) :
    Ends (Halt.ReportsOr Fault.FromLookup) (Outcome.HasType d.dataType true) (d.eval ctx) := by
  refine (ends_usableAnswer _).bind fun attributes _ => ?_
  refine (ends_putAll_valuesOfType _ _).bind fun b hb => ?_
  dsimp only
  split
  · rfl
  · exact hb

theorem Selector.ends_eval (ctx : Context) (s : Selector) :
    Ends (Halt.ReportsOr Fault.FromLookup) (Outcome.HasType s.dataType true) (s.eval ctx) := by
  refine (ends_usableAnswer _).bind fun attributes _ => ?_
  refine (ends_putAll_valuesOfType _ _).bind fun b hb => ?_
  dsimp only
  split
  · rfl
  · exact hb

/-! ## Expressions over functions -/

/-- What is found is the expression of a definition. -/
theorem Definitions.mem_of_find? {ds : Definitions} {id : String} {e : Expression}
    (h : ds.find? id = some e) : ∃ d ∈ ds, d.expression = e := by
  obtain ⟨d, hd, he⟩ := Option.map_eq_some_iff.mp h
  exact ⟨d, List.mem_of_find?_eq_some hd, he⟩

namespace Expression

mutual

/-- The functions that an expression applies satisfy `P`, and those that it passes on `Q`. -/
def Over (P Q : Function → Prop) : Expression → Prop
  | .apply f args => P f ∧ AllOver P Q args
  | .function f => Q f
  | _ => True

/-- The same of a list of expressions. -/
def AllOver (P Q : Function → Prop) : List Expression → Prop
  | [] => True
  | e :: rest => e.Over P Q ∧ AllOver P Q rest

end

mutual

theorem Over.mono {P P' Q Q' : Function → Prop} (hp : ∀ f, P f → P' f) (hq : ∀ f, Q f → Q' f) :
    ∀ {e : Expression}, e.Over P Q → e.Over P' Q'
  | .apply f _, h => ⟨hp f h.1, AllOver.mono hp hq h.2⟩
  | .function f, h => hq f h
  | .literal _, _ => True.intro
  | .designator _, _ => True.intro
  | .selector _, _ => True.intro
  | .variable _, _ => True.intro

theorem AllOver.mono {P P' Q Q' : Function → Prop} (hp : ∀ f, P f → P' f) (hq : ∀ f, Q f → Q' f) :
    ∀ {es : List Expression}, AllOver P Q es → AllOver P' Q' es
  | [], _ => True.intro
  | _ :: _, h => ⟨h.1.mono hp hq, AllOver.mono hp hq h.2⟩

end

/-- What evaluation relies on: functions that satisfy `P`, applied to well typed arguments and to
functions that satisfy `Q`, come to well typed outcomes or halt as `H` allows, and `H` allows what
lookups do. -/
structure Sound (H : Halt → Prop) (P Q : Function → Prop) : Prop where
  reports : ∀ h, Halt.ReportsOr Fault.FromLookup h → H h
  apply : ∀ f, P f → ∀ args : List Argument, (∀ a ∈ args, a.Acceptable Q) → ∀ s,
    Ends H Outcome.WellTyped (f.apply args s)

section

variable {H : Halt → Prop} {P Q : Function → Prop} {ctx : Context}

theorem evalArguments_cons {meaning : String → Except Halt Outcome} {e : Expression}
    {rest : List Expression} (he : ∀ f, e ≠ .function f) :
    evalArguments ctx meaning (e :: rest) =
      match e.evalWith ctx meaning with
      | .error h => .error h
      | .ok o => (evalArguments ctx meaning rest).map (.ofOutcome o :: ·) := by
  cases e with
  | function f => exact absurd rfl (he f)
  | _ => rfl

mutual

theorem ends_evalWith (hs : Sound H P Q) {meaning : String → Except Halt Outcome} :
    ∀ e : Expression, e.Over P Q →
      (∀ id ∈ e.references, Ends H Outcome.WellTyped (meaning id)) →
      Ends H Outcome.WellTyped (e.evalWith ctx meaning)
  | .literal v, _, _ => True.intro
  | .designator d, _, _ => (d.ends_eval ctx).mono hs.reports fun _ h => h.wellTyped
  | .selector s, _, _ => (s.ends_eval ctx).mono hs.reports fun _ h => h.wellTyped
  | .apply f args, he, hm => by
      have ha := ends_evalArguments hs args he.2 hm
      rw [evalWith]
      cases hv : evalArguments ctx meaning args with
      | error halt => exact ha.of_error hv
      | ok values => exact hs.apply f he.1 values (ha.of_ok hv) _
  | .variable id, _, hm => hm id (List.mem_singleton_self id)
  | .function f, _, _ => hs.reports _ rfl

theorem ends_evalArguments (hs : Sound H P Q) {meaning : String → Except Halt Outcome} :
    ∀ es : List Expression, AllOver P Q es →
      (∀ id ∈ referencesOfAll es, Ends H Outcome.WellTyped (meaning id)) →
      Ends H (fun args => ∀ a ∈ args, a.Acceptable Q) (evalArguments ctx meaning es)
  | [], _, _ => fun _ hm => nomatch hm
  | e :: rest, h, hm => by
      obtain ⟨hme, hmr⟩ := List.forall_mem_append.mp hm
      have he := ends_evalWith hs e h.1 hme
      have hr := ends_evalArguments hs rest h.2 hmr
      by_cases hf : ∃ f, e = .function f
      · obtain ⟨f, rfl⟩ := hf
        exact hr.map fun _ ha => List.forall_mem_cons.mpr ⟨h.1, ha⟩
      · rw [evalArguments_cons fun f hef => hf ⟨f, hef⟩]
        cases ho : e.evalWith ctx meaning with
        | error halt => exact he.of_error ho
        | ok o =>
            exact hr.map fun _ ha =>
              List.forall_mem_cons.mpr ⟨Operand.acceptable_ofOutcome (he.of_ok ho), ha⟩

end

/-- The definitions in scope are unfolded at most a number of times. That variables may go round in
a circle must be allowed. -/
theorem ends_meaningWithin (hs : Sound H P Q) (hz : ∀ id, H (.fault (.circularVariable id)))
    (hd : ∀ d ∈ ctx.definitions, d.expression.Over P Q) (unfoldings : Nat) (id : String) :
    Ends H Outcome.WellTyped (meaningWithin ctx unfoldings id) := by
  induction unfoldings generalizing id with
  | zero =>
      rw [meaningWithin]
      split
      · exact hs.reports _ rfl
      · exact hz id
  | succ n ih =>
      rw [meaningWithin]
      split
      · exact hs.reports _ rfl
      · rename_i e he
        obtain ⟨d, hm, rfl⟩ := Definitions.mem_of_find? he
        exact ends_evalWith hs d.expression (hd d hm) fun id _ => ih id

/-- **Every outcome is well typed.** -/
theorem ends_eval (hs : Sound H P Q) (hz : ∀ id, H (.fault (.circularVariable id)))
    (hd : ∀ d ∈ ctx.definitions, d.expression.Over P Q) {e : Expression} (he : e.Over P Q) :
    Ends H Outcome.WellTyped (e.eval ctx) :=
  ends_evalWith hs e he fun id _ => ends_meaningWithin hs hz hd _ id

end

end Expression

/-! ## Standard expressions -/

/-- All functions in the expression are standard, those that it passes on included. -/
def Expression.IsStandard (e : Expression) : Prop := e.Over Function.IsStandard Function.IsStandard

/-- The variables in scope are defined by standard expressions. -/
def Context.IsStandard (ctx : Context) : Prop := ∀ d ∈ ctx.definitions, d.expression.IsStandard

/-- Standard functions add no faults to those of lookups. -/
theorem Expression.sound_of_isStandard {F : Fault → Prop} (hF : ∀ f, f.FromLookup → F f) :
    Sound (Halt.ReportsOr F) Function.IsStandard Function.IsStandard where
  reports := fun _ => Halt.ReportsOr.mono hF
  apply := fun _ hf _ ha _ => (hf.ends_apply ha).allow fun _ h => h.reports.or

/-- **Standard expressions have something to report when they halt.** -/
theorem Expression.IsStandard.ends_eval {ctx : Context} {e : Expression} (he : e.IsStandard)
    (hd : ctx.IsStandard) : Ends (Halt.ReportsOr fun _ => True) Outcome.WellTyped (e.eval ctx) :=
  Expression.ends_eval (sound_of_isStandard fun _ _ => True.intro) (fun _ => True.intro) hd he

/-! ## Known types -/

/-- The outcomes of a function are well typed. A function without this has no place in the program,
where a bag checks what is put into it. -/
def Function.KeepsTypes (f : Function) : Prop :=
  ∀ args : List Argument, (∀ a ∈ args, a.WellTyped) → ∀ s o, f.apply args s = .ok o → o.WellTyped

/-- The variables in scope stand for well typed outcomes. -/
def Context.KeepsTypes (ctx : Context) : Prop :=
  ∀ d ∈ ctx.definitions, d.expression.Over Function.KeepsTypes fun _ => True

theorem Function.IsStandard.keepsTypes (f : Function) (h : f.IsStandard) : f.KeepsTypes := by
  obtain ⟨g, rfl⟩ := h.exists_eq
  exact fun _ ha _ _ ho => (g.fits_of_apply ha ho).2

namespace Expression

theorem sound_of_keepsTypes : Sound (fun _ => True) Function.KeepsTypes fun _ => True where
  reports := fun _ _ => True.intro
  apply := by
    intro f hf args ha s
    cases h : f.apply args s with
    | error halt => exact True.intro
    | ok o => exact hf args (fun a hm => (ha a hm).wellTyped) s o h

section

variable {ctx : Context} {e : Expression} {t : DataType} {isBag : Bool}

/-- What is known of an expression is right of its outcome. -/
theorem hasType_of_eval (hd : ctx.KeepsTypes)
    (he : e.Over Function.IsStandard fun _ => True) (ht : e.staticType = some (t, isBag))
    {o : Outcome} (h : e.eval ctx = .ok o) : o.HasType t isBag := by
  cases e with
  | literal v =>
      obtain ⟨rfl, rfl⟩ := Prod.mk.inj (Option.some.inj ht)
      exact Except.ok.inj h ▸ rfl
  | designator d =>
      obtain ⟨rfl, rfl⟩ := Prod.mk.inj (Option.some.inj ht)
      exact (d.ends_eval ctx).of_ok h
  | selector s =>
      obtain ⟨rfl, rfl⟩ := Prod.mk.inj (Option.some.inj ht)
      exact (s.ends_eval ctx).of_ok h
  | apply f args =>
      obtain ⟨f, rfl⟩ := he.1.exists_eq
      obtain ⟨t', hr, hp⟩ := Option.map_eq_some_iff.mp ht
      obtain ⟨rfl, rfl⟩ := Prod.mk.inj hp
      rw [eval, evalWith] at h
      split at h
      · cases h
      · rename_i values hv
        -- the types of the arguments do not matter, only that their bags are well typed
        have hm := ends_meaningWithin sound_of_keepsTypes (fun _ => True.intro) hd
        have ha := (ends_evalArguments sound_of_keepsTypes args
          (AllOver.mono Function.IsStandard.keepsTypes (fun _ h => h) he.2)
          fun id _ => hm _ id).of_ok hv
        exact (f.fits_of_apply (fun a hm => (ha a hm).wellTyped) h).1 t' hr
  | _ => cases ht

/-- A rule that passes its check has a condition of type boolean, if its type is known. -/
theorem staticType_of_check {r : Rule} (hc : r.condition = some e) (hr : r.check.isOk = true)
    (ht : e.staticType = some (t, isBag)) : t = .boolean ∧ isBag = false := by
  rw [Rule.check, hc, Option.bind_some, ht] at hr
  split at hr
  · cases hr
  split at hr
  · rename_i hn
    cases hn
  · rename_i hb
    exact Prod.mk.inj (Option.some.inj hb)
  · cases hr

/-- **Known types are right.** An expression of a known type comes to an outcome of this type if it
comes to any. So the condition of a rule that passes its check is a truth value if its type is
known, and the rule never says that it is none: a status with these words is that of the condition
itself. -/
theorem staticType_sound (hd : ctx.KeepsTypes) (he : e.Over Function.IsStandard fun _ => True)
    (ht : e.staticType = some (t, isBag)) :
    (∀ o, e.eval ctx = .ok o → o.HasType t isBag) ∧
      ∀ r : Rule, r.condition = some e → r.check.isOk = true →
        (∀ o, e.eval ctx = .ok o → ∃ b, o = .bool b) ∧
        ∀ q, r.judge ctx = .ok q → q.status = Rule.notBooleanResult r.id →
          e.eval ctx = .error (.status (Rule.notBooleanResult r.id)) := by
  refine ⟨fun o h => hasType_of_eval hd he ht h, fun r hc hr => ?_⟩
  obtain ⟨rfl, rfl⟩ := staticType_of_check hc hr ht
  have hb : ∀ o, e.eval ctx = .ok o → ∃ b, o = .bool b := fun o h =>
    Outcome.eq_bool_of_hasType (hasType_of_eval hd he ht h)
  refine ⟨hb, fun q hj hq => ?_⟩
  rw [Rule.judge, hc] at hj
  dsimp only at hj
  cases ho : e.eval ctx with
  | ok o =>
      -- a truth value leaves nothing to report
      obtain ⟨b, rfl⟩ := hb o ho
      rw [ho] at hj
      cases b <;> obtain rfl := Except.ok.inj hj <;> cases hq
  | error halt =>
      rw [ho] at hj
      cases halt with
      | fault f => cases hj
      | status s =>
          obtain rfl := Except.ok.inj hj
          rw [show s = _ from hq]

theorem staticType_sound_any_of :
    let ctx : Context := { Context.bare with definitions := [⟨"x", .literal (.string "a")⟩] }
    let names : Expression :=
      .apply (.standard (.bag .string .bag)) [.literal (.string "b"), .variable "x"]
    let e : Expression := .apply (.standard (.quantified .anyOf))
      [.function (.standard (.equal .string)), .literal (.string "a"), names]
    let r : Rule := (Rule.new "r" .permit).withCondition e
    ctx.KeepsTypes ∧ e.Over Function.IsStandard (fun _ => True) ∧
      e.staticType = some (.boolean, false) ∧ r.check.isOk = true ∧
      e.eval ctx = .ok (.bool true) ∧ (Outcome.bool true).HasType .boolean false := by
  intro ctx names e r
  have hd : ctx.KeepsTypes := by
    intro d hm
    obtain rfl := List.mem_singleton.mp hm
    exact True.intro
  have he : e.Over Function.IsStandard fun _ => True := by
    refine ⟨True.intro, True.intro, True.intro, ⟨True.intro, True.intro, True.intro, ?_⟩, ?_⟩
    · exact True.intro
    · exact True.intro
  have ht : e.staticType = some (.boolean, false) := rfl
  have ho : e.eval ctx = .ok (.bool true) := rfl
  exact ⟨hd, he, ht, rfl, ho, (staticType_sound hd he ht).1 _ ho⟩

end

end Expression

/-- A forced verdict takes the place of the check: the rule validates although its condition is
known to be a string, and then it says that the condition is no truth value. -/
theorem Rule.forced_verdict_skips_check :
    let ctx : Context := .bare
    let e : Expression := .literal (.string "x")
    let r : Rule := ((Rule.new "r" .permit).withCondition e).force .ok
    r.validate.isOk = true ∧ r.condition = some e ∧ e.staticType = some (.string, false) ∧
      (r.evaluate ctx).outcome = .ok (.withStatus .indeterminatePermit (notBooleanResult "r")) :=
  ⟨rfl, rfl, rfl, rfl⟩

end Abac
