import Abac.Proofs.Evaluation
import Abac.Proofs.Surroundings
import Abac.Proofs.Targets
import Abac.Proofs.Typing

/-!
# What evaluation reads

An expression reads its context in four ways: it looks up the designators that
occur in it, it selects content, it applies functions, and it unfolds definitions
of variables, which does the same over again. Two contexts that agree on all of
this (`Context.Agree`) are the same to expressions, and so to targets, to
obligations and advice, and to the conditions of rules.

The designators and functions that occur are collected as readings. Those of an
expression, a target or a rule are assumed to be the same in the two contexts
where something is proved of it, those of the definitions in scope once and for
all.
-/

namespace Abac

/-! ## Readings -/

/-- What an expression may read its surroundings by: a designator that it looks up, or a function
that it applies or hands to another. -/
inductive Reading where
  | designator (d : Designator)
  | function (f : Function)

namespace Expression

mutual

/-- The designators and functions that occur in an expression, from left to right. -/
def readings : Expression → List Reading
  | .designator d => [.designator d]
  | .apply f args => .function f :: readingsOfAll args
  | .function f => [.function f]
  | _ => []

/-- The designators and functions that occur in a list of expressions. -/
def readingsOfAll : List Expression → List Reading
  | [] => []
  | e :: rest => e.readings ++ readingsOfAll rest

end

end Expression

/-- The designators and functions that occur in the definitions of variables. -/
def Definitions.readings (ds : Definitions) : List Reading :=
  ds.flatMap fun d => d.expression.readings

/-- The designators and functions that occur in a match. -/
def Match.readings (m : Match) : List Reading := .function m.function :: m.expression.readings

/-- The designators and functions that occur in a target. -/
def Target.readings (t : Target) : List Reading := t.leaves.flatMap Match.readings

/-- The designators and functions that occur in an obligation or advice. -/
def ObligationExpression.readings (o : ObligationExpression) : List Reading :=
  o.assignments.flatMap fun a => a.expression.readings

/-! ## Agreement -/

/-- A lookup has the same answer in both contexts, or a function comes to the same. -/
def Reading.Same (ctx ctx' : Context) : Reading → Prop
  | .designator d => ctx.lookup d.key = ctx'.lookup d.key
  | .function f => f.Alike ctx.toSurroundings ctx'.toSurroundings

/-- Two contexts have the same content and definitions, and what the definitions read is the same in
both. -/
structure Context.Agree (ctx ctx' : Context) : Prop where
  select : ctx.select = ctx'.select
  definitions : ctx.definitions = ctx'.definitions
  known : ∀ r ∈ ctx.definitions.readings, r.Same ctx ctx'

variable {ctx ctx' : Context}

/-- Definitions do not change what is read. -/
theorem Reading.same_within_iff {r : Reading} {ds : Definitions} :
    r.Same (ctx.within ds) (ctx'.within ds) ↔ r.Same ctx ctx' := by
  cases r <;> exact Iff.rfl

theorem Context.Agree.within (h : ctx.Agree ctx') {ds : Definitions}
    (hd : ∀ r ∈ ds.readings, r.Same ctx ctx') : (ctx.within ds).Agree (ctx'.within ds) where
  select := h.select
  definitions := congrArg (ds ++ ·) h.definitions
  known := by
    show ∀ r ∈ Definitions.readings (ds ++ ctx.definitions), _
    rw [Definitions.readings, List.flatMap_append]
    exact fun r hr => Reading.same_within_iff.mpr (List.forall_mem_append.mpr ⟨hd, h.known⟩ r hr)

theorem Designator.eval_congr {d : Designator} (hd : (Reading.designator d).Same ctx ctx') :
    d.eval ctx = d.eval ctx' := by
  rw [eval, eval, show ctx.lookup d.key = ctx'.lookup d.key from hd]

theorem Selector.eval_congr (h : ctx.Agree ctx') (s : Selector) : s.eval ctx = s.eval ctx' := by
  rw [eval, eval, h.select]

namespace Expression

/-- Functions become arguments only where they occur. -/
theorem alike_of_evalArguments {meaning : String → Except Halt Outcome} {es : List Expression}
    (hr : ∀ r ∈ readingsOfAll es, r.Same ctx ctx') {args : List Argument}
    (h : evalArguments ctx meaning es = .ok args) :
    ∀ a ∈ args, a.Alike ctx.toSurroundings ctx'.toSurroundings := by
  induction es generalizing args with
  | nil =>
      cases h
      exact List.forall_mem_nil _
  | cons e rest ih =>
      obtain ⟨he, hrest⟩ := List.forall_mem_append.mp hr
      -- only a function is handed on without being evaluated
      by_cases hf : ∃ f, e = .function f
      · obtain ⟨f, rfl⟩ := hf
        rw [evalArguments] at h
        obtain ⟨as, has, rfl⟩ := Except.map_eq_ok_iff.mp h
        exact List.forall_mem_cons.mpr ⟨he _ (List.mem_singleton_self _), ih hrest has⟩
      · rw [evalArguments_cons fun f hef => hf ⟨f, hef⟩] at h
        cases ho : e.evalWith ctx meaning with
        | error halt =>
            rw [ho] at h
            cases h
        | ok o =>
            rw [ho] at h
            obtain ⟨as, has, rfl⟩ := Except.map_eq_ok_iff.mp h
            exact List.forall_mem_cons.mpr ⟨Operand.alike_ofOutcome o, ih hrest has⟩

mutual

theorem evalWith_congr (h : ctx.Agree ctx') {meaning meaning' : String → Except Halt Outcome}
    (hm : ∀ id, meaning id = meaning' id) :
    ∀ e : Expression, (∀ r ∈ e.readings, r.Same ctx ctx') →
      e.evalWith ctx meaning = e.evalWith ctx' meaning'
  | .literal _, _ => rfl
  | .designator _, hr => Designator.eval_congr (hr _ (List.mem_singleton_self _))
  | .selector s, _ => s.eval_congr h
  | .apply f args, hr => by
      obtain ⟨hf, hargs⟩ := List.forall_mem_cons.mp hr
      have hvs := evalArguments_congr h hm args hargs
      rw [evalWith, evalWith, ← hvs]
      cases ha : evalArguments ctx meaning args with
      | error e => rfl
      | ok args => exact Function.apply_congr hf (alike_of_evalArguments hargs ha)
  | .variable id, _ => hm id
  | .function _, _ => rfl

theorem evalArguments_congr (h : ctx.Agree ctx')
    {meaning meaning' : String → Except Halt Outcome} (hm : ∀ id, meaning id = meaning' id) :
    ∀ es : List Expression, (∀ r ∈ readingsOfAll es, r.Same ctx ctx') →
      evalArguments ctx meaning es = evalArguments ctx' meaning' es
  | [], _ => rfl
  | e :: rest, hr => by
      obtain ⟨he, hr⟩ := List.forall_mem_append.mp hr
      have hv := evalWith_congr h hm e he
      have hvs := evalArguments_congr h hm rest hr
      cases e with
      | function f => rw [evalArguments, evalArguments, hvs]
      | _ => simp only [evalArguments, hv, hvs]

end

theorem meaningWithin_congr (h : ctx.Agree ctx') (unfoldings : Nat) (id : String) :
    meaningWithin ctx unfoldings id = meaningWithin ctx' unfoldings id := by
  induction unfoldings generalizing id with
  | zero => rw [meaningWithin, meaningWithin, h.definitions]
  | succ n ih =>
      rw [meaningWithin, meaningWithin, ← h.definitions]
      cases he : ctx.definitions.find? id with
      | none => rfl
      | some e =>
          -- what a definition reads is read by the definitions in scope
          obtain ⟨d, hm, rfl⟩ := Definitions.mem_of_find? he
          exact evalWith_congr h ih d.expression fun r hr =>
            h.known r (List.mem_flatMap.mpr ⟨d, hm, hr⟩)

theorem eval_congr (h : ctx.Agree ctx') {e : Expression} (hr : ∀ r ∈ e.readings, r.Same ctx ctx') :
    e.eval ctx = e.eval ctx' := by
  rw [eval, eval, ← h.definitions]
  exact evalWith_congr h (meaningWithin_congr h _) e hr

end Expression

/-! ## Targets, entries and conditions -/

namespace Applicability

variable {α : Type} {test test' : α → Except Fault Applicability} {parts : List α}

theorem all_congr (h : ∀ x ∈ parts, test x = test' x) : all test parts = all test' parts := by
  rw [all, all]
  generalize none = first
  induction parts generalizing first with
  | nil => rfl
  | cons x rest ih =>
      obtain ⟨hx, hr⟩ := List.forall_mem_cons.mp h
      simp only [allFrom, hx, ih hr]

theorem any_congr (h : ∀ x ∈ parts, test x = test' x) : any test parts = any test' parts := by
  rw [any, any]
  generalize none = first
  induction parts generalizing first with
  | nil => rfl
  | cons x rest ih =>
      obtain ⟨hx, hr⟩ := List.forall_mem_cons.mp h
      simp only [anyFrom, hx, ih hr]

end Applicability

theorem Match.evaluate_congr (h : ctx.Agree ctx') {m : Match}
    (hr : ∀ r ∈ m.readings, r.Same ctx ctx') : m.evaluate ctx = m.evaluate ctx' := by
  obtain ⟨hf, he⟩ := List.forall_mem_cons.mp hr
  have hholds : m.holdsOf ctx.toSurroundings = m.holdsOf ctx'.toSurroundings := by
    funext v
    rw [holdsOf, holdsOf, Function.apply_congr hf (Operand.forall_alike_pair m.value v)]
  rw [evaluate, evaluate, Expression.eval_congr h he, hholds]

theorem Target.evaluate_congr (h : ctx.Agree ctx') {t : Target}
    (hr : ∀ r ∈ t.readings, r.Same ctx ctx') : t.evaluate ctx = t.evaluate ctx' := by
  refine Applicability.all_congr fun y hy => ?_
  refine Applicability.any_congr fun x hx => ?_
  refine Applicability.all_congr fun m hm => ?_
  refine Match.evaluate_congr h fun r hmr => hr r ?_
  have hl : m ∈ t.leaves := List.mem_flatMap.mpr ⟨y, hy, List.mem_flatMap.mpr ⟨x, hx, hm⟩⟩
  exact List.mem_flatMap.mpr ⟨m, hl, hmr⟩

theorem evalAssignments_congr (h : ctx.Agree ctx') {as : List AssignmentExpression}
    (hr : ∀ a ∈ as, ∀ r ∈ a.expression.readings, r.Same ctx ctx') :
    evalAssignments ctx as = evalAssignments ctx' as := by
  induction as with
  | nil => rfl
  | cons a rest ih =>
      obtain ⟨ha, hr⟩ := List.forall_mem_cons.mp hr
      rw [evalAssignments, evalAssignments, AssignmentExpression.eval, AssignmentExpression.eval,
        Expression.eval_congr h ha, ih hr]

theorem evalObligations_congr (h : ctx.Agree ctx') (e : Effect) {os : List ObligationExpression}
    (hr : ∀ o ∈ os, ∀ r ∈ o.readings, r.Same ctx ctx') :
    evalObligations ctx e os = evalObligations ctx' e os := by
  induction os with
  | nil => rfl
  | cons o rest ih =>
      obtain ⟨ho, hr⟩ := List.forall_mem_cons.mp hr
      have ha := evalAssignments_congr h fun a ha r hr => ho r (List.mem_flatMap.mpr ⟨a, ha, hr⟩)
      rw [evalObligations, evalObligations, ObligationExpression.eval, ObligationExpression.eval,
        ha, ih hr]

theorem Result.attach_congr (h : ctx.Agree ctx') {os as : List ObligationExpression}
    (ho : ∀ o ∈ os, ∀ r ∈ o.readings, r.Same ctx ctx')
    (ha : ∀ o ∈ as, ∀ r ∈ o.readings, r.Same ctx ctx') (q : Result) :
    q.attach ctx os as = q.attach ctx' os as := by
  rw [attach, attach]
  cases Effect.ofDecision? q.decision with
  | none => rfl
  | some e => simp only [evalObligations_congr h e ho, evalObligations_congr h e ha]

theorem Rule.judge_congr (h : ctx.Agree ctx') {r : Rule}
    (hr : ∀ c, r.condition = some c → ∀ x ∈ c.readings, x.Same ctx ctx') :
    r.judge ctx = r.judge ctx' := by
  rw [judge, judge]
  cases hc : r.condition with
  | none => rfl
  | some c => simp only [Expression.eval_congr h (hr c hc)]

end Abac
