import Abac.Policy.Policy
import Abac.Proofs.Inversion
import Abac.Proofs.Targets
import Abac.Proofs.Typing

/-!
# Policies define their variables

A policy is checked for variables that its rules and definitions refer to and that
it does not define. The check looks at references as they are written, while
evaluation meets them on its way: in arguments of arguments, and in the definitions
of variables that others led to (`Expression.Reaches`). The first covers the
second, since whatever is met refers only to what is defined
(`Expression.Reaches.defined`).

It is then a matter of where halts come from. Every halt of an evaluation is raised
by an expression that the evaluation reaches (`Expression.exists_raises`), and of
these only a variable without definition says that it has none. Sources of
attributes and functions that are not standard may halt with any status, and so
also with one in these words; they are the only ones that could
(`Expression.Relays`).

The check knows the conditions of rules and no other expressions of theirs. For
those of targets, obligations and advice it has to be assumed that the variables
they refer to are defined; what the evaluation meets from there on is covered as
before. And it is the check that counts: a policy may be told to take itself for
well formed.
-/

namespace Abac

namespace Expression

/-! ## What evaluation reaches -/

/-- The expressions that the evaluation of one may come to: itself, and from there on the arguments
of applications and the definitions of variables. -/
inductive Reaches (ctx : Context) (e : Expression) : Expression → Prop
  | self : Reaches ctx e e
  | argument {f : Function} {args : List Expression} {a : Expression}
      (h : Reaches ctx e (.apply f args)) (ha : a ∈ args) : Reaches ctx e a
  | definition {id : String} {d : Expression} (h : Reaches ctx e (.variable id))
      (hd : ctx.definitions.find? id = some d) : Reaches ctx e d

variable {ctx : Context} {e x y : Expression}

theorem Reaches.trans (hx : Reaches ctx e x) (hy : Reaches ctx x y) : Reaches ctx e y := by
  induction hy with
  | self => exact hx
  | argument _ ha ih => exact .argument ih ha
  | definition _ hd ih => exact .definition ih hd

theorem references_subset_of_mem {a : Expression} : ∀ {es : List Expression}, a ∈ es →
    a.references ⊆ referencesOfAll es
  | e :: rest, h => by
      rw [referencesOfAll]
      rcases List.mem_cons.mp h with rfl | h
      · exact List.subset_append_left _ _
      · exact List.Subset.trans (references_subset_of_mem h) (List.subset_append_right _ _)

/-- Where definitions refer to nothing but defined variables, neither does what is reached from an
expression that does not. -/
theorem Reaches.defined {D : String → Prop}
    (hd : ∀ id d, ctx.definitions.find? id = some d → ∀ next ∈ d.references, D next)
    (he : ∀ next ∈ e.references, D next) (hx : Reaches ctx e x) :
    ∀ next ∈ x.references, D next := by
  induction hx with
  | self => exact he
  | argument _ ha ih => exact fun next hn => ih next (references_subset_of_mem ha hn)
  | definition _ hf _ => exact hd _ _ hf

/-! ## Where halts come from -/

/-- An expression halts on its own account, and not because another does. -/
inductive Raises (ctx : Context) : Expression → Halt → Prop
  | designator {d : Designator} {h : Halt} (he : d.eval ctx = .error h) :
      Raises ctx (.designator d) h
  | selector {s : Selector} {h : Halt} (he : s.eval ctx = .error h) : Raises ctx (.selector s) h
  | function (f : Function) : Raises ctx (.function f) (.status (notEvaluable f))
  | undefined {id : String} (hd : ctx.definitions.find? id = none) :
      Raises ctx (.variable id) (.status (undefinedVariable id))
  | circular (id : String) : Raises ctx (.variable id) (.fault (.circularVariable id))
  | application {f : Function} {args : List Expression} {unfoldings : Nat} {as : List Argument}
      {h : Halt} (ha : evalArguments ctx (meaningWithin ctx unfoldings) args = .ok as)
      (hf : f.apply as ctx.toSurroundings = .error h) : Raises ctx (.apply f args) h

mutual

theorem exists_raises_evalWith {n : Nat}
    (hv : ∀ id h, meaningWithin ctx n id = .error h →
      ∃ x, Reaches ctx (.variable id) x ∧ Raises ctx x h) :
    ∀ (e : Expression) (h : Halt), e.evalWith ctx (meaningWithin ctx n) = .error h →
      ∃ x, Reaches ctx e x ∧ Raises ctx x h
  | .literal _, _, he => nomatch he
  | .designator _, _, he => ⟨_, .self, .designator he⟩
  | .selector _, _, he => ⟨_, .self, .selector he⟩
  | .function f, _, he => by
      cases he
      exact ⟨_, .self, .function f⟩
  | .variable id, h, he => hv id h he
  | .apply f args, h, he => by
      rw [evalWith] at he
      cases ha : evalArguments ctx (meaningWithin ctx n) args with
      | ok as =>
          rw [ha] at he
          exact ⟨_, .self, .application ha he⟩
      | error h' =>
          rw [ha] at he
          obtain rfl := Except.error.inj he
          obtain ⟨a, hm, x, hx, hr⟩ := exists_raises_evalArguments hv args h' ha
          exact ⟨x, (Reaches.argument .self hm).trans hx, hr⟩

theorem exists_raises_evalArguments {n : Nat}
    (hv : ∀ id h, meaningWithin ctx n id = .error h →
      ∃ x, Reaches ctx (.variable id) x ∧ Raises ctx x h) :
    ∀ (es : List Expression) (h : Halt),
      evalArguments ctx (meaningWithin ctx n) es = .error h →
      ∃ a ∈ es, ∃ x, Reaches ctx a x ∧ Raises ctx x h
  | [], _, he => nomatch he
  | e :: rest, h, he => by
      have hlater : evalArguments ctx (meaningWithin ctx n) rest = .error h →
          ∃ a ∈ e :: rest, ∃ x, Reaches ctx a x ∧ Raises ctx x h := by
        intro hr
        obtain ⟨a, hm, hx⟩ := exists_raises_evalArguments hv rest h hr
        exact ⟨a, List.mem_cons_of_mem e hm, hx⟩
      have hhere := exists_raises_evalWith hv e h
      by_cases hf : ∃ f, e = .function f
      · obtain ⟨f, rfl⟩ := hf
        rw [evalArguments] at he
        exact hlater (Except.map_eq_error_iff.mp he)
      · rw [evalArguments_cons fun f h => hf ⟨f, h⟩] at he
        cases ho : e.evalWith ctx (meaningWithin ctx n) with
        | error h' =>
            rw [ho] at he
            obtain rfl := Except.error.inj he
            exact ⟨e, List.mem_cons_self, hhere ho⟩
        | ok o =>
            rw [ho] at he
            exact hlater (Except.map_eq_error_iff.mp he)

end

/-- A variable that halts leads to an expression that raises the halt. -/
theorem exists_raises_meaningWithin (n : Nat) (id : String) (h : Halt)
    (hm : meaningWithin ctx n id = .error h) :
    ∃ x, Reaches ctx (.variable id) x ∧ Raises ctx x h := by
  induction n generalizing id h with
  | zero =>
      rw [meaningWithin] at hm
      split at hm
      · cases hm
        exact ⟨_, .self, .undefined ‹_›⟩
      · cases hm
        exact ⟨_, .self, .circular id⟩
  | succ n ih =>
      rw [meaningWithin] at hm
      split at hm
      · cases hm
        exact ⟨_, .self, .undefined ‹_›⟩
      · rename_i d hd
        obtain ⟨x, hx, hr⟩ := exists_raises_evalWith ih d h hm
        exact ⟨x, (Reaches.definition .self hd).trans hx, hr⟩

/-- **Every halt is raised by an expression that is reached.** -/
theorem exists_raises {n : Nat} {e : Expression} {h : Halt}
    (he : e.evalWith ctx (meaningWithin ctx n) = .error h) :
    ∃ x, Reaches ctx e x ∧ Raises ctx x h :=
  exists_raises_evalWith (exists_raises_meaningWithin n) e h he

/-! ## Statuses that say that a variable is undefined -/

/-- A status comes from outside: from a source of attributes, or from a call that is not all
standard, be it for the function, one that it is given, or a bag that no standard function makes. -/
inductive Relays (ctx : Context) (s : Status) : Expression → Prop
  | designator {d : Designator} {answer : LookupAnswer} (h : ctx.lookup d.key = .ok answer)
      (hs : answer.status = s) : Relays ctx s (.designator d)
  | selector {p : Selector} {answer : LookupAnswer} (h : ctx.select p = .ok answer)
      (hs : answer.status = s) : Relays ctx s (.selector p)
  | application {f : Function} {args : List Expression} {unfoldings : Nat} {as : List Argument}
      (ha : evalArguments ctx (meaningWithin ctx unfoldings) args = .ok as)
      (hf : f.apply as ctx.toSurroundings = .error (.status s))
      (hx : f.IsStandard → ¬ ∀ a ∈ as, a.Acceptable Function.IsStandard) :
      Relays ctx s (.apply f args)

end Expression

/-- The status of a halt, if it has one, is that of an answer, or `missing`. -/
def Halt.FromAnswer (answer : Except String LookupAnswer) (missing : Status) (h : Halt) : Prop :=
  ∀ s, h = .status s → s = missing ∨ ∃ a, answer = .ok a ∧ a.status = s

theorem ends_usableAnswer_of_answer (answer : Except String LookupAnswer) (missing : Status) :
    Ends (Halt.FromAnswer answer missing) (fun _ => True) (usableAnswer answer) := by
  unfold usableAnswer
  split
  · exact fun _ h => nomatch h
  · rename_i a
    split
    · exact True.intro
    · exact fun _ h => .inr ⟨a, rfl, Halt.status.inj h⟩

theorem Designator.ends_of_answer (ctx : Context) (d : Designator) :
    Ends (Halt.FromAnswer (ctx.lookup d.key) d.missing) (fun _ => True) (d.eval ctx) := by
  refine (ends_usableAnswer_of_answer _ _).bind fun attributes _ => ?_
  refine (ends_putAll_valuesOfType _ _).bind fun b _ => ?_
  dsimp only
  split
  · exact fun _ h => .inl (Halt.status.inj h).symm
  · exact True.intro

theorem Selector.ends_of_answer (ctx : Context) (s : Selector) :
    Ends (Halt.FromAnswer (ctx.select s) s.missing) (fun _ => True) (s.eval ctx) := by
  refine (ends_usableAnswer_of_answer _ _).bind fun attributes _ => ?_
  refine (ends_putAll_valuesOfType _ _).bind fun b _ => ?_
  dsimp only
  split
  · exact fun _ h => .inl (Halt.status.inj h).symm
  · exact True.intro

/-- No standard function complains in these words. -/
theorem not_isComplaint_undefinedVariable (id : String) :
    ¬ (Halt.status (undefinedVariable id)).IsComplaint := by
  rintro ⟨f, c, h⟩
  have hm := congrArg Status.message (Halt.status.inj h)
  rw [c.message_status] at hm
  have ht := congrArg String.toList (Option.some.inj hm)
  simp [String.toList_append] at ht

theorem undefinedVariable_injective : Function.Injective undefinedVariable := by
  intro a b h
  have hm := congrArg Status.message h
  have ht := congrArg String.toList (Option.some.inj hm)
  rw [String.toList_append, String.toList_append] at ht
  exact String.toList_inj.mp (List.append_cancel_left ht)

theorem notEvaluable_ne_undefinedVariable (f : Function) (id : String) :
    notEvaluable f ≠ undefinedVariable id := by
  intro h
  have hm := congrArg Status.message h
  have ht := congrArg String.toList (Option.some.inj hm)
  simp [String.toList_append] at ht

namespace Expression

variable {ctx : Context} {e x : Expression}

/-- An expression that says on its own account that a variable is undefined is such a variable, or
relays the status. -/
theorem Raises.undefined_or_relays {id : String}
    (h : Raises ctx x (.status (undefinedVariable id))) :
    (x = .variable id ∧ ctx.definitions.find? id = none) ∨ Relays ctx (undefinedVariable id) x := by
  generalize hs : Halt.status (undefinedVariable id) = halt at h
  cases h with
  | designator he =>
      obtain hm | ⟨a, ha, hs⟩ := (Designator.ends_of_answer ctx _).of_error he _ hs.symm
      · cases congrArg Status.code hm
      · exact .inr (.designator ha hs)
  | selector he =>
      obtain hm | ⟨a, ha, hs⟩ := (Selector.ends_of_answer ctx _).of_error he _ hs.symm
      · cases congrArg Status.code hm
      · exact .inr (.selector ha hs)
  | function f => exact absurd (Halt.status.inj hs).symm (notEvaluable_ne_undefinedVariable f id)
  | undefined hd =>
      obtain rfl := undefinedVariable_injective (Halt.status.inj hs)
      exact .inl ⟨rfl, hd⟩
  | circular id => cases hs
  | application ha hf =>
      refine .inr (.application ha (hs ▸ hf) fun hst hacc => ?_)
      exact not_isComplaint_undefinedVariable id (hs ▸ (hst.ends_apply hacc).of_error hf)

end Expression

/-! ## Policies -/

theorem Definitions.defines_iff {ds : Definitions} {id : String} :
    ds.defines id = true ↔ ∃ e, ds.find? id = some e := by
  have hs : (ds.find? id).isSome = ds.defines id := by
    rw [find?, Option.isSome_map, defines]
    exact Bool.eq_iff_iff.mpr (List.find?_isSome.trans List.any_eq_true.symm)
  rw [← hs, Option.isSome_iff_exists]

/-- The expressions of a rule for which its policy answers. Those of conditions are checked; those
of targets, obligations and advice are not, so the variables that they refer to have to be
defined. -/
inductive Policy.Covers (p : Policy) (r : Rule) : Expression → Prop
  | condition {e : Expression} (he : r.condition = some e) : Covers p r e
  | target {m : Match} (hm : m ∈ r.target.leaves)
      (hd : ∀ id ∈ m.expression.references, p.definitions.defines id = true) :
      Covers p r m.expression
  | assignment {o : ObligationExpression} {a : AssignmentExpression}
      (ho : o ∈ r.obligations ∨ o ∈ r.advice) (ha : a ∈ o.assignments)
      (hd : ∀ id ∈ a.expression.references, p.definitions.defines id = true) :
      Covers p r a.expression

namespace Policy

variable {p : Policy}

/-- What the check looks for. -/
theorem defines_of_check (hc : p.check.isOk = true) {id : String} (h : id ∈ p.references) :
    p.definitions.defines id = true := by
  rw [check] at hc
  split at hc
  · cases hc
  · split at hc
    · cases hc
    · rename_i hn
      simpa using List.find?_eq_none.mp hn id h

theorem mem_references_of_find? {id next : String} {d : Expression}
    (hd : p.definitions.find? id = some d) (hn : next ∈ d.references) : next ∈ p.references := by
  obtain ⟨c, hc, rfl⟩ := Definitions.mem_of_find? hd
  exact List.mem_append_right _ (List.mem_flatMap.mpr ⟨c, hc, hn⟩)

theorem mem_references_of_condition {r : Rule} (hr : r ∈ p.rules) {e : Expression}
    (he : r.condition = some e) {id : String} (h : id ∈ e.references) : id ∈ p.references := by
  refine List.mem_append_left _ (List.mem_flatMap.mpr ⟨r, hr, ?_⟩)
  rw [Rule.references, he]
  exact h

theorem Covers.defines {r : Rule} {e : Expression} (he : p.Covers r e)
    (hc : p.check.isOk = true) (hr : r ∈ p.rules) :
    ∀ id ∈ e.references, p.definitions.defines id = true := by
  cases he with
  | condition he => exact fun id h => defines_of_check hc (mem_references_of_condition hr he h)
  | target _ hd => exact hd
  | assignment _ _ hd => exact hd

/-- **A policy whose check passes never meets a variable that it does not define**, in a context
without variables: none of the expressions that are reached from those it answers for is such a
variable. If one of them yields the status of such a variable nonetheless, however many definitions
may still be unfolded, it has it from outside. -/
theorem defines_of_reaches (hc : p.check.isOk = true) {ctx : Context} (hn : ctx.definitions = [])
    {r : Rule} (hr : r ∈ p.rules) {e : Expression} (he : p.Covers r e) {x : Expression}
    (hx : e.Reaches (ctx.within p.definitions) x) :
    (∀ id, x = .variable id → p.definitions.defines id = true) ∧
      ∀ unfoldings id, x.evalWith (ctx.within p.definitions)
          (Expression.meaningWithin (ctx.within p.definitions) unfoldings) =
        .error (.status (Abac.undefinedVariable id)) →
        ∃ y, x.Reaches (ctx.within p.definitions) y ∧
          y.Relays (ctx.within p.definitions) (Abac.undefinedVariable id) := by
  have hscope : (ctx.within p.definitions).definitions = p.definitions := by
    rw [Context.within, hn]
    exact List.append_nil _
  have hdefs : ∀ id d, (ctx.within p.definitions).definitions.find? id = some d →
      ∀ next ∈ d.references, p.definitions.defines next = true := by
    intro id d hf next hnext
    rw [hscope] at hf
    exact defines_of_check hc (mem_references_of_find? hf hnext)
  have hvar : ∀ {y id}, e.Reaches (ctx.within p.definitions) y → y = .variable id →
      p.definitions.defines id = true := by
    rintro y id hy rfl
    exact hy.defined hdefs (he.defines hc hr) id (List.mem_singleton_self id)
  refine ⟨fun id h => hvar hx h, fun unfoldings id h => ?_⟩
  obtain ⟨y, hy, hraise⟩ := Expression.exists_raises h
  obtain ⟨hv, hnone⟩ | hrelay := hraise.undefined_or_relays
  · obtain ⟨d, hfound⟩ := Definitions.defines_iff.mp (hvar (hx.trans hy) hv)
    rw [hscope, hfound] at hnone
    cases hnone
  · exact ⟨y, hy, hrelay⟩

/-- A condition that leads through one variable to another, which stands for a lookup. -/
theorem defines_of_reaches_chain :
    let role : Designator := ⟨⟨"subject"⟩, ⟨"role"⟩, .boolean, none, true⟩
    let negated (id : String) : Expression := .apply (.standard (.logical .not)) [.variable id]
    let p : Policy :=
      { Policy.new ⟨"p"⟩ with
        algorithm := some ⟨⟨"deny-overrides"⟩, .overrides .deny⟩
        definitions := [⟨"stranger", negated "member"⟩,
          ⟨"member", .apply (.standard (.bag .boolean .oneAndOnly)) [.designator role]⟩]
        rules := [(Rule.new "r" .permit).withCondition (negated "stranger")] }
    let ctx : Context := .bare
    p.check.isOk = true ∧ ctx.definitions = [] ∧
      (∀ r ∈ p.rules, p.Covers r (negated "stranger")) ∧
      (negated "stranger").Reaches (ctx.within p.definitions) (.variable "member") ∧
      p.definitions.defines "member" = true ∧
      (Expression.variable "member").eval (ctx.within p.definitions) =
        .error (.status role.missing) := by
  intro role negated p ctx
  have hc : p.check.isOk = true := rfl
  have hr : ∀ r ∈ p.rules, p.Covers r (negated "stranger") :=
    List.forall_mem_singleton.mpr (.condition rfl)
  have hx : (negated "stranger").Reaches (ctx.within p.definitions) (.variable "member") := by
    have hs : (negated "stranger").Reaches (ctx.within p.definitions) (.variable "stranger") :=
      .argument .self (List.mem_singleton_self _)
    exact .argument (.definition hs rfl) (List.mem_singleton_self _)
  have hm : _ ∈ p.rules := List.mem_singleton_self _
  exact ⟨hc, rfl, hr, hx, (defines_of_reaches hc rfl hm (hr _ hm) hx).1 _ rfl, rfl⟩

/-- A policy validates although its rule refers to a variable without definition: a forced status
takes the place of the check, and the check does not look at obligations. -/
theorem validates_with_undefined_variable :
    let ctx : Context := .bare
    let x : Expression := .variable "x"
    let p : Policy :=
      { Policy.new ⟨"p"⟩ with algorithm := some ⟨⟨"deny-overrides"⟩, .overrides .deny⟩ }
    let forced : Policy :=
      (p.withRule ((Rule.new "r" .permit).withCondition x)).mapFrame (.force .ok)
    let obliging : Policy :=
      p.withRule { Rule.new "r" .permit with
        obligations := [⟨⟨"log"⟩, .permit, [⟨⟨"who"⟩, none, none, x⟩]⟩] }
    ctx.definitions = [] ∧
      x.eval (ctx.within forced.definitions) =
        .error (.status (Abac.undefinedVariable "x")) ∧
      x.eval (ctx.within obliging.definitions) =
        .error (.status (Abac.undefinedVariable "x")) ∧
      forced.validate.isOk = true ∧ (forced.evaluate ctx).outcome =
        .ok (.withStatus .indeterminatePermit (Abac.undefinedVariable "x")) ∧
      obliging.check.isOk = true ∧ obliging.validate.isOk = true ∧ (obliging.evaluate ctx).outcome =
        .ok (.withStatus .indeterminatePermit (Abac.undefinedVariable "x")) :=
  ⟨rfl, rfl, rfl, rfl, rfl, rfl, rfl, rfl⟩

end Policy

end Abac
