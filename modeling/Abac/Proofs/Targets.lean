import Abac.Target
import Abac.Proofs.Ends
import Abac.Proofs.Related
import Mathlib.Data.List.Perm.Basic

/-!
# Targets and three-valued logic

A target is a formula over its matches: a conjunction of disjunctions of
conjunctions. Matches may be unclear, and so the formula is one of strong Kleene
logic, in which an unclear part does not matter where another part settles the
question. The program never computes truth values. It goes through four nested
loops, each of which stops early and remembers the first status that it met.

All four loops are one (`Applicability.settleFrom`), and what this one comes to
can be read off the answers of its parts (`Applicability.verdict`). The rest
follows level by level: `Target.answer` says what a target comes to, status
included, and `Target.truth` is its value as a formula.
-/

namespace Abac

/-! ## Truth values -/

/-- A truth value of strong Kleene logic. -/
inductive Truth where
  | no
  | unknown
  | yes
  deriving DecidableEq, Repr

namespace Truth

/-- A conjunction is false if a part is, even where the other one is unknown. -/
def and : Truth → Truth → Truth
  | .no, _ => .no
  | .yes, t => t
  | .unknown, .no => .no
  | .unknown, _ => .unknown

/-- A disjunction is true if a part is, even where the other one is unknown. -/
def or : Truth → Truth → Truth
  | .yes, _ => .yes
  | .no, t => t
  | .unknown, .yes => .yes
  | .unknown, _ => .unknown

/-- The conjunction of several truth values. -/
def all (ts : List Truth) : Truth := ts.foldr and .yes

/-- The disjunction of several truth values. -/
def any (ts : List Truth) : Truth := ts.foldr or .no

instance : LeftCommutative and := ⟨by intro a b c; cases a <;> cases b <;> cases c <;> rfl⟩

instance : LeftCommutative or := ⟨by intro a b c; cases a <;> cases b <;> cases c <;> rfl⟩

theorem all_perm {ts ts' : List Truth} (h : ts.Perm ts') : all ts = all ts' := by
  rw [all, all]
  exact h.foldr_eq yes

theorem any_perm {ts ts' : List Truth} (h : ts.Perm ts') : any ts = any ts' := by
  rw [any, any]
  exact h.foldr_eq no

end Truth

namespace Applicability

/-- How an answer counts in a formula. -/
def truth : Applicability → Truth
  | .matched => .yes
  | .unmatched => .no
  | .unclear _ => .unknown

/-- The status of an unclear answer. -/
def status? : Applicability → Option Status
  | .unclear s => some s
  | _ => none

/-! ## One loop -/

section

variable {α : Type} {settling otherwise : Applicability} {test : α → Except Fault Applicability}
  {first : Option Status} {parts : List α}

/-- Look at parts until one of them gives the settling answer; without any, the answer is
`otherwise` if none was unclear. The first status that was met is `first`. -/
def settleFrom (settling otherwise : Applicability) (test : α → Except Fault Applicability)
    (first : Option Status) : List α → Except Fault Applicability
  | [] => .ok (orUnclear otherwise first)
  | x :: rest => (test x).bind fun a =>
      if a = settling then .ok settling
      else settleFrom settling otherwise test (first.or a.status?) rest

theorem allFrom_eq_settleFrom :
    allFrom test first parts = settleFrom .unmatched .matched test first parts := by
  induction parts generalizing first with
  | nil => rfl
  | cons x rest ih =>
      rw [allFrom, settleFrom]
      cases test x with
      | error f => rfl
      | ok a => cases a <;> simp [Except.bind, status?, ih]

theorem anyFrom_eq_settleFrom :
    anyFrom test first parts = settleFrom .matched .unmatched test first parts := by
  induction parts generalizing first with
  | nil => rfl
  | cons x rest ih =>
      rw [anyFrom, settleFrom]
      cases test x with
      | error f => rfl
      | ok a => cases a <;> simp [Except.bind, status?, ih]

/-- The loop has no faults of its own. -/
theorem exists_of_settleFrom_error {f : Fault}
    (h : settleFrom settling otherwise test first parts = .error f) :
    ∃ x ∈ parts, test x = .error f := by
  induction parts generalizing first with
  | nil => cases h
  | cons x rest ih =>
      rw [settleFrom] at h
      cases hx : test x with
      | error g =>
          rw [hx] at h
          obtain rfl := Except.error.inj h
          exact ⟨x, List.mem_cons_self, hx⟩
      | ok a =>
          rw [hx] at h
          dsimp only [Except.bind] at h
          split at h
          · cases h
          · obtain ⟨y, hy, hf⟩ := ih h
            exact ⟨y, List.mem_cons_of_mem x hy, hf⟩

/-- The status of the first unclear answer. -/
def firstStatus (as : List Applicability) : Option Status := as.findSome? status?

/-- What several answers come to: the settling one if it is among them, or else unclear with the
status of the first unclear one, if there is any. -/
def verdict (settling otherwise : Applicability) (as : List Applicability) : Applicability :=
  if settling ∈ as then settling else orUnclear otherwise (firstStatus as)

/-- The answer of a test; a fault counts as unclear. -/
def ofOutcome : Except Fault Applicability → Applicability
  | .ok a => a
  | .error f => .unclear (.processingError f.message)

/-- What the loop comes to can be read off the answers. Those after the settling one need not
exist. -/
theorem settleFrom_eq_ok {a : Applicability}
    (h : settleFrom settling otherwise test first parts = .ok a) :
    a = if settling ∈ parts.map fun x => ofOutcome (test x) then settling
      else orUnclear otherwise
        (first.or (firstStatus (parts.map fun x => ofOutcome (test x)))) := by
  induction parts generalizing first with
  | nil =>
      obtain rfl := Except.ok.inj h
      rw [List.map_nil, if_neg List.not_mem_nil, firstStatus, List.findSome?_nil, Option.or_none]
  | cons x rest ih =>
      rw [settleFrom] at h
      cases hx : test x with
      | error f => rw [hx] at h; cases h
      | ok b =>
          rw [hx] at h
          dsimp only [Except.bind] at h
          rw [List.map_cons, hx, ofOutcome]
          split at h
          · rename_i hb
            obtain rfl := Except.ok.inj h
            rw [if_pos (hb ▸ List.mem_cons_self)]
          · rename_i hb
            have hs : firstStatus (b :: rest.map fun x => ofOutcome (test x)) =
                b.status?.or (firstStatus (rest.map fun x => ofOutcome (test x))) := by
              rw [firstStatus, List.findSome?_cons]
              cases b.status? <;> rfl
            rw [ih h, hs, ← Option.or_assoc]
            simp [Ne.symm hb]

end

/-! ## What the loops come to -/

section

variable {α : Type} {test : α → Except Fault Applicability} {parts : List α}

theorem all_eq_ok {a : Applicability} (h : all test parts = .ok a) :
    a = verdict .unmatched .matched (parts.map fun x => ofOutcome (test x)) := by
  rw [all, allFrom_eq_settleFrom] at h
  exact settleFrom_eq_ok h

theorem any_eq_ok {a : Applicability} (h : any test parts = .ok a) :
    a = verdict .matched .unmatched (parts.map fun x => ofOutcome (test x)) := by
  rw [any, anyFrom_eq_settleFrom] at h
  exact settleFrom_eq_ok h

theorem map_ofOutcome {answer : α → Applicability} (h : ∀ x ∈ parts, test x = .ok (answer x)) :
    (parts.map fun x => ofOutcome (test x)) = parts.map answer :=
  List.map_congr_left fun x hx => by rw [h x hx, ofOutcome]

/-- Where no part faults, a conjunction is that of the answers of its parts. -/
theorem all_of_answers {answer : α → Applicability} (h : ∀ x ∈ parts, test x = .ok (answer x)) :
    all test parts = .ok (verdict .unmatched .matched (parts.map answer)) := by
  cases ha : all test parts with
  | ok a => rw [all_eq_ok ha, map_ofOutcome h]
  | error f =>
      rw [all, allFrom_eq_settleFrom] at ha
      obtain ⟨x, hx, hf⟩ := exists_of_settleFrom_error ha
      rw [h x hx] at hf
      cases hf

/-- Where no part faults, a disjunction is that of the answers of its parts. -/
theorem any_of_answers {answer : α → Applicability} (h : ∀ x ∈ parts, test x = .ok (answer x)) :
    any test parts = .ok (verdict .matched .unmatched (parts.map answer)) := by
  cases ha : any test parts with
  | ok a => rw [any_eq_ok ha, map_ofOutcome h]
  | error f =>
      rw [any, anyFrom_eq_settleFrom] at ha
      obtain ⟨x, hx, hf⟩ := exists_of_settleFrom_error ha
      rw [h x hx] at hf
      cases hf

end

/-- An unclear answer is that of a part. -/
theorem mem_of_verdict_eq_unclear {settling otherwise : Applicability} {as : List Applicability}
    {s : Status} (hs : settling.status? = none) (ho : otherwise.status? = none)
    (h : verdict settling otherwise as = .unclear s) : .unclear s ∈ as := by
  rw [verdict] at h
  split at h
  · rw [h] at hs
    cases hs
  · cases hf : firstStatus as with
    | none =>
        rw [hf, orUnclear] at h
        rw [h] at ho
        cases ho
    | some q =>
        rw [hf, orUnclear] at h
        obtain rfl := Applicability.unclear.inj h
        obtain ⟨a, ha, hq⟩ := List.exists_of_findSome?_eq_some hf
        cases a with
        | unclear _ => exact Option.some.inj hq ▸ ha
        | _ => cases hq

/-! ## Verdicts as truth values -/

theorem verdict_cons_unclear {settling otherwise : Applicability} {s : Status}
    {as : List Applicability} (hs : settling.status? = none) :
    verdict settling otherwise (.unclear s :: as) =
      if settling ∈ as then settling else .unclear s := by
  have hne : settling ≠ .unclear s := by
    rintro rfl
    cases hs
  have hf : firstStatus (.unclear s :: as) = some s := rfl
  rw [verdict, hf, orUnclear]
  simp only [List.mem_cons, hne, false_or]

theorem verdict_cons_of_ne {settling otherwise a : Applicability} {as : List Applicability}
    (hne : settling ≠ a) (ha : a.status? = none) :
    verdict settling otherwise (a :: as) = verdict settling otherwise as := by
  have hf : firstStatus (a :: as) = firstStatus as := by
    rw [firstStatus, List.findSome?_cons, ha]
    rfl
  rw [verdict, verdict, hf]
  simp only [List.mem_cons, hne, false_or]

theorem truth_verdict_conj (as : List Applicability) :
    (verdict .unmatched .matched as).truth = Truth.all (as.map truth) := by
  induction as with
  | nil => rfl
  | cons a as ih =>
      rw [List.map_cons, Truth.all, List.foldr_cons, ← Truth.all, ← ih]
      cases a with
      | matched => rw [verdict_cons_of_ne (by decide) rfl]; rfl
      | unmatched => rw [verdict, if_pos List.mem_cons_self]; rfl
      | unclear s =>
          -- a later part may still settle the question, and then the status is forgotten
          rw [verdict_cons_unclear rfl, verdict]
          by_cases hm : .unmatched ∈ as
          · rw [if_pos hm, if_pos hm]; rfl
          · rw [if_neg hm, if_neg hm]
            cases firstStatus as <;> rfl

theorem truth_verdict_disj (as : List Applicability) :
    (verdict .matched .unmatched as).truth = Truth.any (as.map truth) := by
  induction as with
  | nil => rfl
  | cons a as ih =>
      rw [List.map_cons, Truth.any, List.foldr_cons, ← Truth.any, ← ih]
      cases a with
      | matched => rw [verdict, if_pos List.mem_cons_self]; rfl
      | unmatched => rw [verdict_cons_of_ne (by decide) rfl]; rfl
      | unclear s =>
          rw [verdict_cons_unclear rfl, verdict]
          by_cases hm : .matched ∈ as
          · rw [if_pos hm, if_pos hm]; rfl
          · rw [if_neg hm, if_neg hm]
            cases firstStatus as <;> rfl

end Applicability

/-! ## Matches -/

namespace Match

/-- Whether the function is true of the literal and a value. -/
def truthOf (m : Match) (env : Surroundings) (v : Value) : Truth :=
  match m.function.apply [.value m.value, .value v] env with
  | .ok (.value (.boolean true)) => .yes
  | .ok (.value (.boolean false)) => .no
  | _ => .unknown

/-- A match as a formula: its function is true of some value of its expression. -/
def truth (ctx : Context) (m : Match) : Truth :=
  match m.expression.eval ctx with
  | .ok o => Truth.any (o.values.map (m.truthOf ctx.toSurroundings))
  | .error _ => .unknown

/-- What a match comes to: the status of its expression if it has no value, and else the verdict on
its values. -/
def answer (ctx : Context) (m : Match) : Applicability :=
  match m.expression.eval ctx with
  | .ok o =>
    Applicability.verdict .matched .unmatched
      (o.values.map fun v => Applicability.ofOutcome (m.holdsOf ctx.toSurroundings v))
  | .error (.status s) => .unclear s
  | .error (.fault f) => Applicability.ofOutcome (.error f)

theorem evaluate_eq_ok {ctx : Context} {m : Match} {a : Applicability}
    (h : m.evaluate ctx = .ok a) : a = m.answer ctx := by
  rw [evaluate] at h
  rw [answer]
  cases he : m.expression.eval ctx with
  | ok o =>
      rw [he] at h
      exact Applicability.any_eq_ok h
  | error halt =>
      rw [he] at h
      cases halt with
      | status s => exact (Except.ok.inj h).symm
      | fault f => cases h

theorem truth_holdsOf (m : Match) (env : Surroundings) (v : Value) :
    (Applicability.ofOutcome (m.holdsOf env v)).truth = m.truthOf env v := by
  rw [holdsOf, truthOf]
  cases m.function.apply [.value m.value, .value v] env with
  | error halt => cases halt <;> rfl
  | ok o =>
      cases o with
      | bag b => rfl
      | value w =>
          cases w with
          | boolean b => cases b <;> rfl
          | _ => rfl

theorem truth_answer (ctx : Context) (m : Match) : (m.answer ctx).truth = m.truth ctx := by
  rw [answer, truth]
  cases m.expression.eval ctx with
  | ok o =>
      dsimp only
      rw [Applicability.truth_verdict_disj, List.map_map]
      exact congrArg Truth.any (List.map_congr_left fun v _ => m.truth_holdsOf _ v)
  | error halt => cases halt <;> rfl

end Match

/-! ## Targets -/

namespace AllOf

/-- A conjunction of matches as a formula. -/
def truth (ctx : Context) (a : AllOf) : Truth := Truth.all (a.items.map (Match.truth ctx))

/-- What a conjunction of matches comes to. -/
def answer (ctx : Context) (a : AllOf) : Applicability :=
  Applicability.verdict .unmatched .matched (a.items.map (Match.answer ctx))

theorem truth_answer (ctx : Context) (a : AllOf) : (a.answer ctx).truth = a.truth ctx := by
  rw [answer, truth, Applicability.truth_verdict_conj, List.map_map]
  exact congrArg Truth.all (List.map_congr_left fun m _ => m.truth_answer ctx)

theorem evaluate_of_matches {ctx : Context} {a : AllOf}
    (h : ∀ m ∈ a.items, ∃ x, m.evaluate ctx = .ok x) : a.evaluate ctx = .ok (a.answer ctx) := by
  refine Applicability.all_of_answers fun m hm => ?_
  obtain ⟨x, hx⟩ := h m hm
  rw [hx, Match.evaluate_eq_ok hx]

end AllOf

namespace AnyOf

/-- A disjunction of conjunctions as a formula. -/
def truth (ctx : Context) (a : AnyOf) : Truth := Truth.any (a.items.map (AllOf.truth ctx))

/-- What a disjunction of conjunctions comes to. -/
def answer (ctx : Context) (a : AnyOf) : Applicability :=
  Applicability.verdict .matched .unmatched (a.items.map (AllOf.answer ctx))

/-- The matches of a disjunction. -/
def leaves (a : AnyOf) : List Match := a.items.flatMap AllOf.items

theorem truth_answer (ctx : Context) (a : AnyOf) : (a.answer ctx).truth = a.truth ctx := by
  rw [answer, truth, Applicability.truth_verdict_disj, List.map_map]
  exact congrArg Truth.any (List.map_congr_left fun x _ => x.truth_answer ctx)

theorem evaluate_of_leaves {ctx : Context} {a : AnyOf}
    (h : ∀ m ∈ a.leaves, ∃ x, m.evaluate ctx = .ok x) : a.evaluate ctx = .ok (a.answer ctx) :=
  Applicability.any_of_answers fun x hx =>
    x.evaluate_of_matches fun m hm => h m (List.mem_flatMap.mpr ⟨x, hx, hm⟩)

end AnyOf

namespace Target

/-- A target as a formula. -/
def truth (ctx : Context) (t : Target) : Truth := Truth.all (t.items.map (AnyOf.truth ctx))

/-- What a target comes to. -/
def answer (ctx : Context) (t : Target) : Applicability :=
  Applicability.verdict .unmatched .matched (t.items.map (AnyOf.answer ctx))

/-- The matches of a target. -/
def leaves (t : Target) : List Match := t.items.flatMap AnyOf.leaves

theorem truth_answer (ctx : Context) (t : Target) : (t.answer ctx).truth = t.truth ctx := by
  rw [answer, truth, Applicability.truth_verdict_conj, List.map_map]
  exact congrArg Truth.all (List.map_congr_left fun x _ => x.truth_answer ctx)

theorem evaluate_of_leaves {ctx : Context} {t : Target}
    (h : ∀ m ∈ t.leaves, ∃ x, m.evaluate ctx = .ok x) : t.evaluate ctx = .ok (t.answer ctx) :=
  Applicability.all_of_answers fun x hx =>
    x.evaluate_of_leaves fun m hm => h m (List.mem_flatMap.mpr ⟨x, hx, hm⟩)

end Target

/-! ## Rearranged targets -/

/-- Two evaluations come to the same values in any order, or neither has a value. -/
def SameValues : Except Halt Outcome → Except Halt Outcome → Prop
  | .ok o, .ok o' => o.values.Perm o'.values
  | .error _, .error _ => True
  | _, _ => False

/-- The values that a designator has from some attributes. -/
def Designator.values (d : Designator) (as : List Attribute) : List Value :=
  valuesOfType d.dataType (as.filter fun a => a.isFor d.key)

theorem Designator.eval_of_answer {ctx : Context} {d : Designator} {status : Status}
    {as : List Attribute} (hs : status.isOk = true) (h : ctx.lookup d.key = .ok ⟨status, as⟩) :
    d.eval ctx =
      if (d.values as).isEmpty && d.mustBePresent then .error (.status d.missing)
      else .ok (.bag ⟨d.dataType, d.values as⟩) := by
  have hp : putAll (.empty d.dataType) (d.values as) = .ok ⟨d.dataType, d.values as⟩ :=
    putAll_of_dataType fun v hv => eq_of_beq (List.mem_filter.mp hv).2
  have ha : usableAnswer (.ok ⟨status, as⟩) = .ok as := if_pos hs
  rw [eval, h, ha]
  show (putAll (.empty d.dataType) (d.values as) >>= _) = _
  rw [hp]
  change (if (d.values as).isEmpty && d.mustBePresent then _ else _) = _
  split <;> rfl

/-- A designator has the same values if its source answers with the same values in another order. -/
theorem Designator.sameValues {ctx ctx' : Context} {d : Designator} {as as' : List Attribute}
    (h : ctx.lookup d.key = .ok (.found as)) (h' : ctx'.lookup d.key = .ok (.found as'))
    (hp : ((as.filter fun a => a.isFor d.key).flatMap Attribute.values).Perm
      ((as'.filter fun a => a.isFor d.key).flatMap Attribute.values)) :
    SameValues (d.eval ctx) (d.eval ctx') := by
  have hv : (d.values as).Perm (d.values as') := hp.filter fun v : Value => v.dataType == d.dataType
  rw [eval_of_answer rfl h, eval_of_answer rfl h', hv.isEmpty_eq]
  split
  · exact True.intro
  · exact hv

/-- Two matches apply the same function to the same literal and the same values, though in any
order. -/
structure Match.Rearranged (ctx ctx' : Context) (m m' : Match) : Prop where
  function : m.function = m'.function
  value : m.value = m'.value
  /-- The function comes to the same in both contexts. -/
  answers : ∀ v, m.function.apply [.value m.value, .value v] ctx.toSurroundings =
    m.function.apply [.value m.value, .value v] ctx'.toSurroundings
  values : SameValues (m.expression.eval ctx) (m'.expression.eval ctx')

/-- Two conjunctions have the same matches in any order. -/
def AllOf.Rearranged (ctx ctx' : Context) (a a' : AllOf) : Prop :=
  Shuffled (Match.Rearranged ctx ctx') a.items a'.items

/-- Two disjunctions have the same alternatives in any order. -/
def AnyOf.Rearranged (ctx ctx' : Context) (a a' : AnyOf) : Prop :=
  Shuffled (AllOf.Rearranged ctx ctx') a.items a'.items

/-- Two targets have the same requirements in any order. -/
def Target.Rearranged (ctx ctx' : Context) (t t' : Target) : Prop :=
  Shuffled (AnyOf.Rearranged ctx ctx') t.items t'.items

section

variable {ctx ctx' : Context}

theorem Match.Rearranged.truth_eq {m m' : Match} (h : Match.Rearranged ctx ctx' m m') :
    m.truth ctx = m'.truth ctx' := by
  have hv := h.values
  have ht : m.truthOf ctx.toSurroundings = m'.truthOf ctx'.toSurroundings := by
    funext v
    rw [truthOf, truthOf, h.answers, h.function, h.value]
  rw [truth, truth]
  cases he : m.expression.eval ctx with
  | ok o =>
      cases he' : m'.expression.eval ctx' with
      | ok o' =>
          rw [he, he'] at hv
          rw [ht]
          exact Truth.any_perm (hv.map (m'.truthOf ctx'.toSurroundings))
      | error _ => rw [he, he'] at hv; exact hv.elim
  | error _ =>
      cases he' : m'.expression.eval ctx' with
      | ok _ => rw [he, he'] at hv; exact hv.elim
      | error _ => rfl

theorem AllOf.Rearranged.truth_eq {a a' : AllOf} (h : AllOf.Rearranged ctx ctx' a a') :
    a.truth ctx = a'.truth ctx' :=
  Truth.all_perm (h.map_perm fun _ _ hm => hm.truth_eq)

theorem AnyOf.Rearranged.truth_eq {a a' : AnyOf} (h : AnyOf.Rearranged ctx ctx' a a') :
    a.truth ctx = a'.truth ctx' :=
  Truth.any_perm (h.map_perm fun _ _ hm => hm.truth_eq)

theorem Target.Rearranged.truth_eq {t t' : Target} (h : Target.Rearranged ctx ctx' t t') :
    t.truth ctx = t'.truth ctx' :=
  Truth.all_perm (h.map_perm fun _ _ hm => hm.truth_eq)

/-- **Targets follow strong Kleene logic.** A target in which no match faults comes to its answer,
whose truth value is that of the target as a formula. If the answer is unclear, it has the status of
the first unclear part, at every level. Rearranging the target or the values that its matches look
at does not change the truth value. -/
theorem Target.evaluate_kleene {t : Target} (h : ∀ m ∈ t.leaves, ∃ a, m.evaluate ctx = .ok a) :
    t.evaluate ctx = .ok (t.answer ctx) ∧ (t.answer ctx).truth = t.truth ctx ∧
      ∀ t', Target.Rearranged ctx ctx' t t' → (∀ m ∈ t'.leaves, ∃ a, m.evaluate ctx' = .ok a) →
        ∃ a', t'.evaluate ctx' = .ok a' ∧ a'.truth = (t.answer ctx).truth := by
  refine ⟨evaluate_of_leaves h, t.truth_answer ctx, fun t' hr h' => ?_⟩
  refine ⟨t'.answer ctx', evaluate_of_leaves h', ?_⟩
  calc (t'.answer ctx').truth
      _ = t'.truth ctx' := t'.truth_answer ctx'
      _ = t.truth ctx := hr.truth_eq.symm
      _ = (t.answer ctx).truth := (t.truth_answer ctx).symm

theorem Target.evaluate_kleene_rearranged :
    let alice : Attribute := ⟨⟨"subject"⟩, ⟨"name"⟩, none, [.string "alice", .string "bob"]⟩
    let swapped : Attribute := { alice with values := alice.values.reverse }
    let ctx : Context :=
      { Context.bare with lookup := fun _ => .ok (.found [alice]) }
    let ctx' : Context := { ctx with lookup := fun _ => .ok (.found [swapped]) }
    let equal (v : Value) (e : Expression) : Match := ⟨.standard (.equal .string), v, e⟩
    let named := equal (.string "bob") (.designator ⟨⟨"subject"⟩, ⟨"name"⟩, .string, none, true⟩)
    let mistyped := equal (.string "bob") (.literal (.integer 1))
    let other := equal (.string "bob") (.literal (.string "eve"))
    let t : Target := ⟨[⟨[⟨[other]⟩, ⟨[named, mistyped]⟩]⟩, ⟨[⟨[named]⟩]⟩]⟩
    let t' : Target := ⟨[⟨[⟨[named]⟩]⟩, ⟨[⟨[mistyped, named]⟩, ⟨[other]⟩]⟩]⟩
    (∀ m ∈ t.leaves, ∃ a, m.evaluate ctx = .ok a) ∧ Target.Rearranged ctx ctx' t t' ∧
      (∀ m ∈ t'.leaves, ∃ a, m.evaluate ctx' = .ok a) ∧
      ∃ a', t'.evaluate ctx' = .ok a' ∧ a'.truth = .unknown := by
  intro alice swapped ctx ctx' equal named mistyped other t t'
  have hn : Match.Rearranged ctx ctx' named named :=
    ⟨rfl, rfl, fun _ => rfl, Designator.sameValues rfl rfl (List.Perm.swap _ _ _)⟩
  have hm : Match.Rearranged ctx ctx' mistyped mistyped := ⟨rfl, rfl, fun _ => rfl, .refl _⟩
  have ho : Match.Rearranged ctx ctx' other other := ⟨rfl, rfl, fun _ => rfl, .refl _⟩
  have hr : Target.Rearranged ctx ctx' t t' := by
    refine ⟨_, .swap _ _ _,
      .cons ⟨_, .refl _, .cons ⟨_, .refl _, .cons hn .nil⟩ .nil⟩ (.cons ?_ .nil)⟩
    refine ⟨_, .swap _ _ _, .cons ⟨_, .swap _ _ _, .cons hm (.cons hn .nil)⟩ (.cons ?_ .nil)⟩
    exact ⟨_, .refl _, .cons ho .nil⟩
  have h : ∀ m ∈ t.leaves, ∃ a, m.evaluate ctx = .ok a := by
    change ∀ m ∈ [other, named, mistyped, named], ∃ a, m.evaluate ctx = .ok a
    simp only [List.forall_mem_cons]
    exact ⟨⟨_, rfl⟩, ⟨_, rfl⟩, ⟨_, rfl⟩, ⟨_, rfl⟩, List.forall_mem_nil _⟩
  have h' : ∀ m ∈ t'.leaves, ∃ a, m.evaluate ctx' = .ok a := by
    change ∀ m ∈ [named, mistyped, named, other], ∃ a, m.evaluate ctx' = .ok a
    simp only [List.forall_mem_cons]
    exact ⟨⟨_, rfl⟩, ⟨_, rfl⟩, ⟨_, rfl⟩, ⟨_, rfl⟩, List.forall_mem_nil _⟩
  exact ⟨h, hr, h', (Target.evaluate_kleene h).2.2 t' hr h'⟩

end

end Abac
