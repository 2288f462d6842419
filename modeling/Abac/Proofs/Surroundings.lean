import Abac.Proofs.Inversion
import Abac.Proofs.Returns

/-!
# Functions in two surroundings

Of its surroundings a standard function consults the reader of patterns alone,
and a quantified one hands them on to the functions that it applies. So whether a
call comes to the same in two surroundings is a question about the extensions
among what is called (`Function.apply_congr`).

The proof goes down the levels on which quantified functions nest. On each of them
the same calls are made on both sides: they are put together from the arguments,
and no function comes in that is not among these.
-/

namespace Abac

/-- A function comes to the same in both surroundings, if the functions that it is given do. A
standard one does if patterns are read alike. -/
def Function.Alike (env env' : Surroundings) : Function → Prop
  | .standard _ => env.patterns = env'.patterns
  | .extension e => ∀ args, e.apply args env = e.apply args env'

/-- An argument is the same in both surroundings, if it is a function at all. -/
def Operand.Alike (env env' : Surroundings) : Argument → Prop
  | .function f => f.Alike env env'
  | _ => True

namespace Operand

variable {env env' : Surroundings}

theorem alike_value (v : Value) : Alike env env' (.value v) := True.intro

theorem alike_ofOutcome (o : Outcome) : Alike env env' (.ofOutcome o) := by
  cases o <;> exact True.intro

/-- The two values that a predicate compares. -/
theorem forall_alike_pair (v w : Value) : ∀ a ∈ [Operand.value v, .value w], a.Alike env env' := by
  rintro a (_ | ⟨_, _ | ⟨_, ⟨⟩⟩⟩) <;> exact alike_value _

end Operand

/-! ## The same calls -/

section

variable {inner inner' : Apply} {id : Identifier} {f : Function} {args : List Argument}
  {calls : List (List Argument)}

theorem test_congr (h : inner f args = inner' f args) :
    test inner id f args = test inner' id f args := by
  rw [test, test, h]

theorem testAny_congr (h : ∀ call ∈ calls, inner f call = inner' f call) :
    testAny inner id f calls = testAny inner' id f calls := by
  induction calls with
  | nil => rfl
  | cons call rest ih =>
      obtain ⟨hc, hr⟩ := List.forall_mem_cons.mp h
      rw [testAny, testAny, test_congr hc, ih hr]

theorem testAll_congr (h : ∀ call ∈ calls, inner f call = inner' f call) :
    testAll inner id f calls = testAll inner' id f calls := by
  induction calls with
  | nil => rfl
  | cons call rest ih =>
      obtain ⟨hc, hr⟩ := List.forall_mem_cons.mp h
      rw [testAll, testAll, test_congr hc, ih hr]

theorem results_congr (h : ∀ call ∈ calls, inner f call = inner' f call) :
    results inner id f calls = results inner' id f calls := by
  induction calls with
  | nil => rfl
  | cons call rest ih =>
      obtain ⟨hc, hr⟩ := List.forall_mem_cons.mp h
      rw [results, results, hc, ih hr]

theorem anyMember_congr {found found' : Value → Except Halt Bool} (h : ∀ v, found v = found' v)
    (vs : List Value) : anyMember found vs = anyMember found' vs := by
  rw [funext h]

end

section

variable {env env' : Surroundings} {inner inner' : Apply} {f : Function}

/-- The calls that substitutions make have no other functions among their arguments. -/
theorem alike_of_substitutions {id : Identifier} {args : List Argument}
    {calls : List (List Argument)} (ha : ∀ a ∈ args, a.Alike env env')
    (h : substitutions id args = .ok calls) : ∀ call ∈ calls, ∀ a ∈ call, a.Alike env env' := by
  intro call hc a hm
  obtain ⟨position, v, rfl⟩ := (ends_substitutions id args).of_ok h call hc
  rcases List.mem_or_eq_of_mem_set hm with hm | rfl
  · exact ha a hm
  · exact Operand.alike_value v

variable (h : ∀ args, (∀ a ∈ args, a.Alike env env') → inner f args = inner' f args)
  (id : Identifier)

include h

theorem testChoices_congr {chosen : List Argument} (hc : ∀ a ∈ chosen, a.Alike env env')
    (args : List Argument) (index : Nat) :
    testChoices inner id f index chosen args = testChoices inner' id f index chosen args := by
  induction args generalizing index chosen with
  | nil =>
      rw [testChoices, testChoices]
      exact test_congr (h chosen hc)
  | cons a rest ih =>
      have hr : ∀ v, testChoices inner id f (index + 1) (chosen ++ [.value v]) rest =
          testChoices inner' id f (index + 1) (chosen ++ [.value v]) rest := fun v =>
        ih (List.forall_mem_append.mpr ⟨hc, List.forall_mem_singleton.mpr (Operand.alike_value v)⟩)
          (index + 1)
      cases a with
      | value v => rw [testChoices, testChoices, anyMember_congr hr]
      | bag b => rw [testChoices, testChoices, anyMember_congr hr]
      | function g => rw [testChoices, testChoices]

theorem testAgainst_congr (v : Value) (ws : List Value) :
    testAgainst inner id f v ws = testAgainst inner' id f v ws := by
  induction ws with
  | nil => rfl
  | cons w rest ih =>
      rw [testAgainst, testAgainst, test_congr (h _ (Operand.forall_alike_pair v w)), ih]

theorem testPairs_congr (q : Quantifier) (right left : List Value) :
    testPairs inner id q f right left = testPairs inner' id q f right left := by
  induction left with
  | nil => rfl
  | cons v rest ih => rw [testPairs, testPairs, testAgainst_congr h id v right, ih]

theorem applyQuantifier_congr (q : Quantifier) {args : List Argument}
    (ha : ∀ a ∈ args, a.Alike env env') :
    applyQuantifier inner id q f args = applyQuantifier inner' id q f args := by
  have hcalls : ∀ calls, substitutions id args = .ok calls →
      ∀ call ∈ calls, inner f call = inner' f call := fun calls hs call hc =>
    h call (alike_of_substitutions ha hs call hc)
  have hpairs : ∀ l r : Bag, testPairs inner id q f r.values l.values =
      testPairs inner' id q f r.values l.values := fun l r => testPairs_congr h id q _ _
  cases q with
  | anyOf =>
      refine Except.bind_congr_of_ok fun calls hs => ?_
      rw [testAny_congr (hcalls calls hs)]
  | allOf =>
      refine Except.bind_congr_of_ok fun calls hs => ?_
      rw [testAll_congr (hcalls calls hs)]
  | map =>
      refine Except.bind_congr_of_ok fun calls hs => ?_
      rw [results_congr (hcalls calls hs)]
  | anyOfAny =>
      rw [applyQuantifier, applyQuantifier,
        testChoices_congr h id (List.forall_mem_nil (Operand.Alike env env'))]
  | allOfAny => simp only [applyQuantifier, hpairs]
  | anyOfAll => simp only [applyQuantifier, hpairs]
  | allOfAll => simp only [applyQuantifier, hpairs]

end

/-! ## The same outcome -/

section

variable {env env' : Surroundings} {f : Function} {args : List Argument}

theorem applyWith_congr {inner inner' : Apply}
    (hi : ∀ g : Function, g.Alike env env' → ∀ args, (∀ a ∈ args, a.Alike env env') →
      inner g args = inner' g args)
    (hf : f.Alike env env') (ha : ∀ a ∈ args, a.Alike env env') :
    applyWith env inner f args = applyWith env' inner' f args := by
  cases f with
  | extension e => exact hf _
  | standard g => cases g with
    | quantified q =>
        refine Except.bind_congr_of_ok fun _ _ => ?_
        refine Except.bind_congr_of_ok fun g hg => ?_
        -- the function that is applied is the first argument
        obtain ⟨rest, rfl⟩ := (ends_functionAt _ args).of_ok hg
        obtain ⟨hg, hr⟩ := List.forall_mem_cons.mp ha
        exact applyQuantifier_congr (hi g hg) _ q hr
    | _ =>
        have hp : env.patterns = env'.patterns := hf
        refine Except.bind_congr_of_ok fun _ _ => ?_
        dsimp only
        rw [hp]

/-- **A call comes to the same in two surroundings** if its function and the functions among its
arguments do. -/
theorem Function.apply_congr (hf : f.Alike env env') (ha : ∀ a ∈ args, a.Alike env env') :
    f.apply args env = f.apply args env' := by
  rw [Function.apply, Function.apply]
  generalize args.length = depth
  induction depth generalizing f args with
  | zero => exact applyWith_congr (fun _ _ _ _ => rfl) hf ha
  | succ n ih => exact applyWith_congr (fun _ hg _ ha => ih hg ha) hf ha

end

end Abac
