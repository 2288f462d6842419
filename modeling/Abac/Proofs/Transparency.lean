import Abac.Proofs.Variables

/-!
# Variables stand for their definitions

To expand an expression is to put the definition of a variable in the place of
each reference to it, and to go on with the references of the definition
(`Expression.Expands`). This module shows that nothing is lost or gained by it:
where definitions do not go round in a circle, every expression has exactly one
expansion, and it evaluates to what the expression evaluates to, halts included.

The evaluator counts the definitions that it unfolds, and the count must not be
what ends it. Evaluation is therefore also described without a count, by rules
(`Expression.Evaluates`): a derivation by them is an evaluation that comes to its
end. What evaluates by the rules evaluates in one way alone, so the expansion,
which the rules evaluate like the expression, cannot come to anything else.

One kind of definition is ruled out. A function among arguments stands for
itself, while a variable there is evaluated, and the evaluation of a lone
function fails; so a variable must not be defined as a function.
-/

namespace Abac

/-! ## Definitions without circles -/

namespace Definitions

variable {ds : Definitions} {a b id : String} {e : Expression}

/-- A variable is defined, and not as a function. -/
def Resolves (ds : Definitions) (id : String) : Prop :=
  ∃ e, ds.find? id = some e ∧ ∀ f, e ≠ .function f

/-- Every variable that a definition refers to resolves. -/
def Closed (ds : Definitions) : Prop := ∀ a b, ds.Refers a b → ds.Resolves b

theorem Closed.of_find? (hc : ds.Closed) (h : ds.find? id = some e) :
    ∀ next ∈ e.references, ds.Resolves next := fun next hn => hc id next ⟨e, h, hn⟩

theorem find?_append {outer : Definitions} (h : ds.find? id = some e) :
    find? (ds ++ outer) id = some e := by
  obtain ⟨d, hd, he⟩ := Option.map_eq_some_iff.mp h
  rw [find?, List.find?_append, hd, Option.some_or, Option.map_some, he]

/-- What holds of a variable once it holds, with one unfolding less, of all that its definition
refers to, holds of every variable with as many unfoldings as there are definitions. -/
theorem Acyclic.unfold_induction {C : Nat → String → Prop} (ha : ds.Acyclic)
    (step : ∀ n id, (∀ e, ds.find? id = some e → ∃ m, n = m + 1 ∧ ∀ next ∈ e.references, C m next) →
      C n id) {n : Nat} (hn : ds.length ≤ n) (id : String) : C n id := by
  have along : ∀ n seen id, ds.Path seen id → ds.length ≤ seen.length + n → C n id := by
    intro n
    induction n with
    | zero =>
        intro seen id hp hl
        refine step 0 id fun e he => ?_
        have hlt := hp.length_lt ha he
        omega
    | succ n ih =>
        intro seen id hp hl
        refine step (n + 1) id fun e he => ⟨n, rfl, fun next hr => ?_⟩
        refine ih (id :: seen) next (hp.cons ha he hr) ?_
        rw [List.length_cons]
        omega
  exact along n [] id (.nil ds id) (Nat.le_trans hn (Nat.le_add_left _ _))

end Definitions

namespace Expression

/-! ## Evaluation by rules -/

mutual

/-- An expression evaluates to an outcome, or halts, after finitely many steps. A variable evaluates
to what its definition does, however many definitions were unfolded before. -/
inductive Evaluates (ctx : Context) : Expression → Except Halt Outcome → Prop
  | literal (v : Value) : Evaluates ctx (.literal v) (.ok (.value v))
  | designator (d : Designator) : Evaluates ctx (.designator d) (d.eval ctx)
  | selector (s : Selector) : Evaluates ctx (.selector s) (s.eval ctx)
  | function (f : Function) : Evaluates ctx (.function f) (.error (.status (notEvaluable f)))
  | undefined {id : String} (hd : ctx.definitions.find? id = none) :
      Evaluates ctx (.variable id) (.error (.status (undefinedVariable id)))
  | unfolded {id : String} {e : Expression} {r : Except Halt Outcome}
      (hd : ctx.definitions.find? id = some e) (he : Evaluates ctx e r) :
      Evaluates ctx (.variable id) r
  | halted {f : Function} {args : List Expression} {h : Halt}
      (ha : EvaluatesAll ctx args (.error h)) : Evaluates ctx (.apply f args) (.error h)
  | applied {f : Function} {args : List Expression} {as : List Argument}
      (ha : EvaluatesAll ctx args (.ok as)) :
      Evaluates ctx (.apply f args) (f.apply as ctx.toSurroundings)

/-- Arguments evaluate from left to right, and those after one that halts do not. -/
inductive EvaluatesAll (ctx : Context) : List Expression → Except Halt (List Argument) → Prop
  | nil : EvaluatesAll ctx [] (.ok [])
  | function {f : Function} {rest : List Expression} {r : Except Halt (List Argument)}
      (hr : EvaluatesAll ctx rest r) :
      EvaluatesAll ctx (.function f :: rest) (r.map (.function f :: ·))
  | halted {e : Expression} {rest : List Expression} {h : Halt} (hf : ∀ f, e ≠ .function f)
      (he : Evaluates ctx e (.error h)) : EvaluatesAll ctx (e :: rest) (.error h)
  | cons {e : Expression} {rest : List Expression} {o : Outcome}
      {r : Except Halt (List Argument)} (hf : ∀ f, e ≠ .function f)
      (he : Evaluates ctx e (.ok o)) (hr : EvaluatesAll ctx rest r) :
      EvaluatesAll ctx (e :: rest) (r.map (.ofOutcome o :: ·))

end

variable {ctx : Context} {ds : Definitions}

mutual

/-- There is one outcome at most. -/
theorem Evaluates.unique : ∀ {e : Expression} {r r' : Except Halt Outcome},
    Evaluates ctx e r → Evaluates ctx e r' → r = r'
  | _, _, _, .literal _, h => by cases h; rfl
  | _, _, _, .designator _, h => by cases h; rfl
  | _, _, _, .selector _, h => by cases h; rfl
  | _, _, _, .function _, h => by cases h; rfl
  | _, _, _, .undefined hd, h => by
      cases h with
      | undefined hd' => rfl
      | unfolded hd' he' => nomatch hd.symm.trans hd'
  | _, _, _, .unfolded hd he, h => by
      cases h with
      | undefined hd' => nomatch hd.symm.trans hd'
      | unfolded hd' he' =>
          cases hd.symm.trans hd'
          exact he.unique he'
  | _, _, _, .halted ha, h => by
      cases h with
      | halted ha' => rw [Except.error.inj (ha.unique ha')]
      | applied ha' => nomatch ha.unique ha'
  | _, _, _, .applied ha, h => by
      cases h with
      | halted ha' => nomatch ha.unique ha'
      | applied ha' => rw [Except.ok.inj (ha.unique ha')]

theorem EvaluatesAll.unique : ∀ {es : List Expression} {r r' : Except Halt (List Argument)},
    EvaluatesAll ctx es r → EvaluatesAll ctx es r' → r = r'
  | _, _, _, .nil, h => by cases h; rfl
  | _, _, _, .function hs, h => by
      cases h with
      | function hs' => rw [hs.unique hs']
      | halted hf _ => exact absurd rfl (hf _)
      | cons hf _ _ => exact absurd rfl (hf _)
  | _, _, _, .halted hf he, h => by
      cases h with
      | function _ => exact absurd rfl (hf _)
      | halted _ he' => rw [Except.error.inj (he.unique he')]
      | cons _ he' _ => nomatch he.unique he'
  | _, _, _, .cons hf he hs, h => by
      cases h with
      | function _ => exact absurd rfl (hf _)
      | halted _ he' => nomatch he.unique he'
      | cons _ he' hs' => rw [Except.ok.inj (he.unique he'), hs.unique hs']

end

mutual

/-- Evaluation with a meaning for variables follows the rules as far as the meaning does. -/
theorem evaluates_evalWith {meaning : String → Except Halt Outcome} :
    ∀ e : Expression, (∀ id ∈ e.references, Evaluates ctx (.variable id) (meaning id)) →
      Evaluates ctx e (e.evalWith ctx meaning)
  | .literal v, _ => .literal v
  | .designator d, _ => .designator d
  | .selector s, _ => .selector s
  | .function f, _ => .function f
  | .variable id, hm => hm id (List.mem_singleton_self id)
  | .apply f args, hm => by
      have ha := evaluatesAll_evalArguments args hm
      rw [evalWith]
      cases hr : evalArguments ctx meaning args with
      | error h => exact .halted (hr ▸ ha)
      | ok as => exact .applied (hr ▸ ha)

theorem evaluatesAll_evalArguments {meaning : String → Except Halt Outcome} :
    ∀ es : List Expression, (∀ id ∈ referencesOfAll es, Evaluates ctx (.variable id) (meaning id)) →
      EvaluatesAll ctx es (evalArguments ctx meaning es)
  | [], _ => .nil
  | e :: rest, hm => by
      obtain ⟨hme, hmr⟩ := List.forall_mem_append.mp hm
      have he := evaluates_evalWith e hme
      have hr := evaluatesAll_evalArguments rest hmr
      by_cases hf : ∃ f, e = .function f
      · obtain ⟨f, rfl⟩ := hf
        exact .function hr
      · have hf : ∀ f, e ≠ .function f := fun f h => hf ⟨f, h⟩
        rw [evalArguments_cons hf]
        cases ho : e.evalWith ctx meaning with
        | error h => exact .halted hf (ho ▸ he)
        | ok o => exact .cons hf (ho ▸ he) hr

end

/-- Without circles, a variable evaluates to its meaning with as many unfoldings as there are
definitions. -/
theorem evaluates_meaningWithin (ha : ds.Acyclic) (hc : ds.Closed) {n : Nat} (hn : ds.length ≤ n)
    {id : String} (hr : ds.Resolves id) :
    Evaluates (ctx.within ds) (.variable id) (meaningWithin (ctx.within ds) n id) := by
  refine ha.unfold_induction (C := fun n id => ds.Resolves id →
    Evaluates (ctx.within ds) (.variable id) (meaningWithin (ctx.within ds) n id)) ?_ hn id hr
  rintro n id ih ⟨e, he, -⟩
  obtain ⟨m, rfl, hm⟩ := ih e he
  have hf : (ctx.within ds).definitions.find? id = some e := Definitions.find?_append he
  rw [meaningWithin, hf]
  exact .unfolded hf (evaluates_evalWith e fun next hx => hm next hx (hc.of_find? he next hx))

/-- Without circles, evaluation comes to its end, and to what it computes. -/
theorem evaluates_eval (ha : ds.Acyclic) (hc : ds.Closed) {e : Expression}
    (he : ∀ id ∈ e.references, ds.Resolves id) :
    Evaluates (ctx.within ds) e (e.eval (ctx.within ds)) := by
  have hn : ds.length ≤ (ctx.within ds).definitions.length := by
    rw [Context.within, List.length_append]
    exact Nat.le_add_right _ _
  exact evaluates_evalWith e fun id hid => evaluates_meaningWithin ha hc hn (he id hid)

/-! ## Expansion -/

mutual

/-- Every reference to a variable is replaced by the definition of the variable, and so are the
references in the definition. -/
inductive Expands (ds : Definitions) : Expression → Expression → Prop
  | literal (v : Value) : Expands ds (.literal v) (.literal v)
  | designator (d : Designator) : Expands ds (.designator d) (.designator d)
  | selector (s : Selector) : Expands ds (.selector s) (.selector s)
  | function (f : Function) : Expands ds (.function f) (.function f)
  | apply {f : Function} {args args' : List Expression} (ha : ExpandsAll ds args args') :
      Expands ds (.apply f args) (.apply f args')
  | variable {id : String} {e e' : Expression} (hd : ds.find? id = some e) (he : Expands ds e e') :
      Expands ds (.variable id) e'

/-- The same in a list of expressions. -/
inductive ExpandsAll (ds : Definitions) : List Expression → List Expression → Prop
  | nil : ExpandsAll ds [] []
  | cons {e e' : Expression} {rest rest' : List Expression} (he : Expands ds e e')
      (hr : ExpandsAll ds rest rest') : ExpandsAll ds (e :: rest) (e' :: rest')

end

mutual

/-- There is one expansion at most. -/
theorem Expands.unique : ∀ {e x y : Expression}, Expands ds e x → Expands ds e y → x = y
  | _, _, _, .literal _, .literal _ => rfl
  | _, _, _, .designator _, .designator _ => rfl
  | _, _, _, .selector _, .selector _ => rfl
  | _, _, _, .function _, .function _ => rfl
  | _, _, _, .apply ha, .apply ha' => by rw [ha.unique ha']
  | _, _, _, .variable hd he, .variable hd' he' => by
      cases hd.symm.trans hd'
      exact he.unique he'

theorem ExpandsAll.unique : ∀ {es xs ys : List Expression},
    ExpandsAll ds es xs → ExpandsAll ds es ys → xs = ys
  | _, _, _, .nil, .nil => rfl
  | _, _, _, .cons he hr, .cons he' hr' => by rw [he.unique he', hr.unique hr']

end

mutual

/-- An expansion refers to no variable. -/
theorem Expands.references_eq_nil : ∀ {e x : Expression}, Expands ds e x → x.references = []
  | _, _, .literal _ => rfl
  | _, _, .designator _ => rfl
  | _, _, .selector _ => rfl
  | _, _, .function _ => rfl
  | _, _, .apply ha => ha.references_eq_nil
  | _, _, .variable _ he => he.references_eq_nil

theorem ExpandsAll.references_eq_nil : ∀ {es xs : List Expression},
    ExpandsAll ds es xs → referencesOfAll xs = []
  | _, _, .nil => rfl
  | _, _, .cons he hr => by rw [referencesOfAll, he.references_eq_nil, hr.references_eq_nil]; rfl

end

mutual

/-- An expression expands as soon as the variables do that it refers to. -/
theorem exists_expands : ∀ e : Expression,
    (∀ id ∈ e.references, ∃ x, Expands ds (.variable id) x) → ∃ x, Expands ds e x
  | .literal v, _ => ⟨_, .literal v⟩
  | .designator d, _ => ⟨_, .designator d⟩
  | .selector s, _ => ⟨_, .selector s⟩
  | .function f, _ => ⟨_, .function f⟩
  | .variable id, h => h id (List.mem_singleton_self id)
  | .apply _ args, h =>
      let ⟨_, ha⟩ := exists_expandsAll args h
      ⟨_, .apply ha⟩

theorem exists_expandsAll : ∀ es : List Expression,
    (∀ id ∈ referencesOfAll es, ∃ x, Expands ds (.variable id) x) → ∃ xs, ExpandsAll ds es xs
  | [], _ => ⟨[], .nil⟩
  | e :: rest, h => by
      obtain ⟨he, hr⟩ := List.forall_mem_append.mp h
      obtain ⟨x, hx⟩ := exists_expands e he
      obtain ⟨xs, hxs⟩ := exists_expandsAll rest hr
      exact ⟨x :: xs, .cons hx hxs⟩

end

/-- Without circles, every variable that resolves expands. -/
theorem exists_expands_variable (ha : ds.Acyclic) (hc : ds.Closed) {id : String}
    (hr : ds.Resolves id) : ∃ x, Expands ds (.variable id) x := by
  refine ha.unfold_induction (C := fun _ id => ds.Resolves id → ∃ x, Expands ds (.variable id) x)
    ?_ (Nat.le_refl _) id hr
  rintro n id ih ⟨e, he, -⟩
  obtain ⟨m, -, hm⟩ := ih e he
  obtain ⟨x, hx⟩ := exists_expands e fun next hn => hm next hn (hc.of_find? he next hn)
  exact ⟨x, .variable he hx⟩

/-- Only a function expands to a function. -/
theorem Expands.ne_function (hc : ds.Closed) : ∀ {e x : Expression}, Expands ds e x →
    (∀ id ∈ e.references, ds.Resolves id) → (∀ f, e ≠ .function f) → ∀ f, x ≠ .function f
  | _, _, .literal _, _, hf => hf
  | _, _, .designator _, _, hf => hf
  | _, _, .selector _, _, hf => hf
  | _, _, .function _, _, hf => hf
  | _, _, .apply _, _, _ => fun _ => Expression.noConfusion
  | _, _, .variable hd he, hr, _ => by
      obtain ⟨e, hd', hf⟩ := hr _ (List.mem_singleton_self _)
      cases hd.symm.trans hd'
      exact he.ne_function hc (hc.of_find? hd) hf

mutual

/-- An expansion evaluates like the expression: the rules unfold a variable where expansion has put
its definition. -/
theorem Expands.evaluates (hc : ds.Closed) : ∀ {e x : Expression} {r : Except Halt Outcome},
    Expands ds e x → (∀ id ∈ e.references, ds.Resolves id) → Evaluates (ctx.within ds) e r →
      Evaluates (ctx.within ds) x r
  | _, _, _, .literal _, _, h => h
  | _, _, _, .designator _, _, h => h
  | _, _, _, .selector _, _, h => h
  | _, _, _, .function _, _, h => h
  | _, _, _, .apply ha, hr, h => by
      cases h with
      | halted h => exact .halted (ha.evaluatesAll hc hr h)
      | applied h => exact .applied (ha.evaluatesAll hc hr h)
  | _, _, _, .variable hd he, _, h => by
      cases h with
      | undefined hd' => cases (Definitions.find?_append hd).symm.trans hd'
      | unfolded hd' h =>
          cases (Definitions.find?_append hd).symm.trans hd'
          exact he.evaluates hc (hc.of_find? hd) h

theorem ExpandsAll.evaluatesAll (hc : ds.Closed) : ∀ {es xs : List Expression}
    {r : Except Halt (List Argument)}, ExpandsAll ds es xs →
      (∀ id ∈ referencesOfAll es, ds.Resolves id) → EvaluatesAll (ctx.within ds) es r →
      EvaluatesAll (ctx.within ds) xs r
  | _, _, _, .nil, _, h => h
  | _, _, _, .cons he hr, hm, h => by
      obtain ⟨hme, hmr⟩ := List.forall_mem_append.mp hm
      cases h with
      | function h =>
          cases he
          exact .function (hr.evaluatesAll hc hmr h)
      | halted hf h => exact .halted (he.ne_function hc hme hf) (he.evaluates hc hme h)
      | cons hf h hs =>
          exact .cons (he.ne_function hc hme hf) (he.evaluates hc hme h)
            (hr.evaluatesAll hc hmr hs)

end

/-- **Variables are transparent.** Where definitions do not go round in a circle and every variable
referred to is defined, and not as a function, an expression has one expansion, without variables;
both evaluate to their end in every scope of the definitions, and both to the same. -/
theorem eval_eq_of_expands (ha : ds.Acyclic) (hc : ds.Closed) {e : Expression}
    (he : ∀ id ∈ e.references, ds.Resolves id) :
    ∃ x, Expands ds e x ∧ (∀ y, Expands ds e y → y = x) ∧ x.references = [] ∧
      ∀ ctx : Context, Evaluates (ctx.within ds) e (e.eval (ctx.within ds)) ∧
        Evaluates (ctx.within ds) x (x.eval (ctx.within ds)) ∧
        e.eval (ctx.within ds) = x.eval (ctx.within ds) := by
  obtain ⟨x, hx⟩ := exists_expands e fun id hid => exists_expands_variable ha hc (he id hid)
  have hnil := hx.references_eq_nil
  refine ⟨x, hx, fun y hy => hy.unique hx, hnil, fun ctx => ?_⟩
  have hee : Evaluates (ctx.within ds) e (e.eval (ctx.within ds)) := evaluates_eval ha hc he
  have hxx : Evaluates (ctx.within ds) x (x.eval (ctx.within ds)) :=
    evaluates_eval ha hc fun id hid => nomatch hnil ▸ hid
  exact ⟨hee, hxx, (hx.evaluates hc he hee).unique hxx⟩

/-- Two variables lead to a lookup that finds nothing, in a scope that has a circle of its own. -/
theorem eval_eq_of_expands_missing :
    let role : Designator := ⟨⟨"subject"⟩, ⟨"role"⟩, .string, none, true⟩
    let ds : Definitions := [⟨"names", .variable "roles"⟩, ⟨"roles", .designator role⟩]
    let call (names : Expression) : Expression := .apply (.standard (.quantified .anyOf))
      [.function (.standard (.equal .string)), .literal (.string "a"), names]
    let ctx : Context := { Context.bare with definitions := [⟨"round", .variable "round"⟩] }
    ds.Acyclic ∧ ds.Closed ∧ (∀ id ∈ (call (.variable "names")).references, ds.Resolves id) ∧
      Expands ds (call (.variable "names")) (call (.designator role)) ∧
      (call (.designator role)).eval (ctx.within ds) = .error (.status role.missing) ∧
      (call (.variable "names")).eval (ctx.within ds) =
        (call (.designator role)).eval (ctx.within ds) := by
  intro role ds call ctx
  have hrefers : ∀ a b, ds.Refers a b → a = "names" ∧ b = "roles" := by
    rintro a b ⟨e, he, hb⟩
    obtain ⟨d, hd, rfl⟩ := Option.map_eq_some_iff.mp he
    have hi : d.id = a := by simpa using List.find?_some hd
    rcases List.mem_cons.mp (List.mem_of_find?_eq_some hd) with rfl | hd
    · exact ⟨hi.symm, List.mem_singleton.mp hb⟩
    · obtain rfl := List.mem_singleton.mp hd
      cases hb
  have ha : ds.Acyclic := by
    refine Definitions.acyclic_of_rank (fun id => if id = "names" then 1 else 0) fun a b hab => ?_
    obtain ⟨rfl, rfl⟩ := hrefers a b hab
    decide
  have hc : ds.Closed := by
    intro a b hab
    obtain ⟨-, rfl⟩ := hrefers a b hab
    exact ⟨.designator role, rfl, fun _ => Expression.noConfusion⟩
  have he : ∀ id ∈ (call (.variable "names")).references, ds.Resolves id := by
    intro id hid
    obtain rfl := List.mem_singleton.mp hid
    exact ⟨.variable "roles", rfl, fun _ => Expression.noConfusion⟩
  have hx : Expands ds (call (.variable "names")) (call (.designator role)) :=
    .apply (.cons (.function _) (.cons (.literal _) (.cons
      (.variable rfl (.variable rfl (.designator role))) .nil)))
  obtain ⟨x, -, hu, -, h⟩ := eval_eq_of_expands ha hc he
  obtain rfl := hu _ hx
  exact ⟨ha, hc, he, hx, rfl, (h ctx).2.2⟩

end Expression

end Abac
