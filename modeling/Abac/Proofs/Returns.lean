import Abac.Function.Quantified
import Abac.Proofs.Ends

/-!
# What functions return

Every standard function returns what it declares: a single value or a bag, of
the declared type where there is one. This takes well typed bags among the
arguments, because one-and-only hands on a member as it is. It takes nothing of
the functions among them: a quantified function keeps no more of the results of
another than truth values, and `map` checks the types of the results it keeps.

Halts are different. A quantified function halts where the function that it
applies does, so its halts are complaints only if those of the other are
(`StandardFunction.ends_apply`). It also has to be seen that such calls do not
nest more deeply than they may: each of them passes on one argument less.
-/

namespace Abac

/-- The outcome is what a function declares. -/
def Outcome.Fits (f : StandardFunction) (o : Outcome) : Prop :=
  (∀ t, f.returnType = some t → o.HasType t f.returnsBag) ∧ o.WellTyped

theorem Outcome.fits_of_hasType {f : StandardFunction} {o : Outcome} {t : DataType}
    (ht : f.returnType = some t) (h : o.HasType t f.returnsBag) : o.Fits f :=
  ⟨fun _ ht' => Option.some.inj (ht.symm.trans ht') ▸ h, h.wellTyped⟩

/-! ## Functions of values and bags -/

section

variable {args : List Argument}

theorem ends_applyEqual (id : Identifier) (t : DataType) (args : List Argument) :
    Ends (Halt.ComplaintOf id) (Outcome.HasType .boolean false) (applyEqual id t args) := by
  refine (ends_valueAt id args 0 t).bind fun a _ => ?_
  refine (ends_valueAt id args 1 t).bind fun b _ => ?_
  exact (ends_compared id _).bind fun _ _ => rfl

theorem ends_applyEqualIgnoringCase (id : Identifier) (args : List Argument) :
    Ends (Halt.ComplaintOf id) (Outcome.HasType .boolean false)
      (applyEqualIgnoringCase id args) := by
  refine (ends_valueAt id args 0 .string).bind fun a _ => ?_
  refine (ends_valueAt id args 1 .string).bind fun b _ => ?_
  split
  · rfl
  · exact (ends_compared id _).bind fun _ _ => rfl

theorem ends_applyBag (id : Identifier) (t : DataType) (op : BagOperation)
    (ha : ∀ a ∈ args, a.WellTyped) :
    Ends (Halt.ComplaintOf id) (Outcome.Fits (.bag t op)) (applyBag id t op args) := by
  cases op with
  | oneAndOnly =>
      refine (ends_bagAt id ha 0 t).bind fun b hb => ?_
      cases hs : b.single? with
      | none => exact ends_complain id _
      | some v => exact Outcome.fits_of_hasType rfl (hb.dataType_of_mem (Bag.mem_of_single? hs))
  | bagSize =>
      refine (ends_bagAt id ha 0 t).bind fun b _ => ?_
      split
      · exact Outcome.fits_of_hasType rfl rfl
      · exact ends_complain id _
  | isIn =>
      refine (ends_valueAt id args 0 t).bind fun v _ => ?_
      refine (ends_bagAt id ha 1 t).bind fun b _ => ?_
      exact (ends_hasEqual id v b.values).bind fun _ _ => Outcome.fits_of_hasType rfl rfl
  | bag =>
      refine (ends_takeValues id t 0 args).bind fun vs hv => ?_
      exact (ends_putAll (Bag.isOf_empty t) hv).bind fun b hb => Outcome.fits_of_hasType rfl hb

/-- Two bags are enough, and there is no set function of fewer. -/
theorem ends_applySet (id : Identifier) (t : DataType) (op : SetOperation) {bags : List Bag}
    (hl : 2 ≤ bags.length) (hb : ∀ b ∈ bags, b.IsOf t) :
    Ends (Halt.ComplaintOf id) (Outcome.Fits (.set t op)) (applySet id t op bags) := by
  match bags with
  | left :: right :: rest =>
      have hv : ∀ v ∈ left.values, v.dataType = t := fun v hv =>
        (hb left List.mem_cons_self).dataType_of_mem hv
      cases op with
      | intersection =>
          exact (ends_putShared id (Bag.isOf_empty t) _ hv).map fun b hb =>
            Outcome.fits_of_hasType rfl hb
      | atLeastOneMemberOf =>
          exact (ends_someHasEqual id _ _).map fun _ _ => Outcome.fits_of_hasType rfl rfl
      | union =>
          exact (ends_putAllDistinct id (Bag.isOf_empty t) hb).map fun b hb =>
            Outcome.fits_of_hasType rfl hb
      | subset => exact (ends_allHaveEqual id _ _).map fun _ _ => Outcome.fits_of_hasType rfl rfl
      | setEquals =>
          refine (ends_allHaveEqual id _ _).bind fun subset _ => ?_
          cases subset with
          | true =>
              exact (ends_allHaveEqual id _ _).bind fun _ _ => Outcome.fits_of_hasType rfl rfl
          | false => exact Outcome.fits_of_hasType rfl rfl

theorem ends_applyComparison (id : Identifier) (t : DataType) (op : Comparison)
    (args : List Argument) :
    Ends (Halt.ComplaintOf id) (Outcome.HasType .boolean false) (applyComparison id t op args) := by
  refine (ends_valueAt id args 0 t).bind fun a _ => ?_
  refine (ends_valueAt id args 1 t).bind fun b _ => ?_
  exact (ends_compared id _).bind fun _ _ => rfl

theorem ends_applyTimeInRange (id : Identifier) (args : List Argument) :
    Ends (Halt.ComplaintOf id) (Outcome.HasType .boolean false) (applyTimeInRange id args) := by
  refine (ends_valueAt id args 0 .time).bind fun t _ => ?_
  refine (ends_valueAt id args 1 .time).bind fun lower _ => ?_
  refine (ends_valueAt id args 2 .time).bind fun upper _ => ?_
  refine (ends_compared id _).bind fun _ _ => ?_
  refine (ends_compared id _).bind fun _ _ => ?_
  exact (ends_compared id _).bind fun _ _ => rfl

theorem ends_applyNOf (id : Identifier) (args : List Argument) :
    Ends (Halt.ComplaintOf id) (Outcome.HasType .boolean false) (applyNOf id args) := by
  cases args with
  | nil => exact ends_complain id (.missing 0)
  | cons a rest =>
      refine (ends_valueAt id (a :: rest) 0 .integer).bind fun n _ => ?_
      dsimp only
      split
      · exact ends_complain id _
      split
      · exact ends_complain id _
      · exact (ends_takeBooleans id 1 rest).bind fun _ _ => rfl

theorem ends_applyConnective (id : Identifier) (op : Connective) (args : List Argument) :
    Ends (Halt.ComplaintOf id) (Outcome.HasType .boolean false) (applyConnective id op args) := by
  cases op with
  | and => exact (ends_takeBooleans id 0 args).map fun _ _ => rfl
  | or => exact (ends_takeBooleans id 0 args).map fun _ _ => rfl
  | not => exact (ends_valueAt id args 0 .boolean).bind fun _ _ => rfl
  | nOf => exact ends_applyNOf id args

theorem ends_applyPatternMatch (id : Identifier) (patterns : PatternReader) (t : DataType)
    (args : List Argument) :
    Ends (Halt.ComplaintOf id) (Outcome.HasType .boolean false)
      (applyPatternMatch id patterns t args) := by
  have hp : Ends (Halt.ComplaintOf id) (fun _ => True) (patternArguments id t args) :=
    (ends_valueAt id args 0 .string).bind fun _ _ =>
      (ends_valueAt id args 1 t).bind fun _ _ => True.intro
  refine hp.bind fun a _ => ?_
  dsimp only
  cases patterns a.1 with
  | ok occursIn => rfl
  | error reason => exact ends_complain id _

theorem ends_applyMailboxMatch (id : Identifier) (args : List Argument) :
    Ends (Halt.ComplaintOf id) (Outcome.HasType .boolean false) (applyMailboxMatch id args) := by
  refine (ends_valueAt id args 0 .string).bind fun pattern _ => ?_
  refine (ends_valueAt id args 1 .rfc822Name).bind fun v hv => ?_
  cases v with
  | rfc822Name m => rfl
  | _ => cases hv

theorem ends_applyDistinguishedNameMatch (id : Identifier) (args : List Argument) :
    Ends (Halt.ComplaintOf id) (Outcome.HasType .boolean false)
      (applyDistinguishedNameMatch id args) := by
  refine (ends_valueAt id args 0 .x500Name).bind fun ending he => ?_
  refine (ends_valueAt id args 1 .x500Name).bind fun name hn => ?_
  cases ending with
  | x500Name e =>
      cases name with
      | x500Name n => rfl
      | _ => cases hn
  | _ => cases he

/-- A function that declares a single value of a type and comes to one. -/
theorem Ends.fits {f : StandardFunction} {H : Halt → Prop} {t : DataType} {x : Except Halt Outcome}
    (h : Ends H (Outcome.HasType t false) x) (ht : f.returnType = some t)
    (hb : f.returnsBag = false) : Ends H (Outcome.Fits f) x :=
  h.imp fun _ ho => Outcome.fits_of_hasType ht (hb ▸ ho)

/-- Every set function takes at least two arguments. -/
theorem StandardFunction.two_le_of_accepts {t : DataType} {op : SetOperation} {k : Nat}
    (h : (StandardFunction.set t op).arity.accepts k = true) : 2 ≤ k := by
  cases op <;> simp only [arity, Arity.accepts, beq_iff_eq, decide_eq_true_eq] at h <;> omega

/-- The functions that take no function; they rely on the number of their arguments. -/
theorem StandardFunction.ends_applyFirstOrder {f : StandardFunction} {patterns : PatternReader}
    (hf : ∀ q, f ≠ .quantified q) (hn : f.arity.accepts args.length = true)
    (ha : ∀ a ∈ args, a.WellTyped) :
    Ends (Halt.ComplaintOf f.id) (Outcome.Fits f) (f.applyFirstOrder patterns args) := by
  cases f with
  | bag t op => exact ends_applyBag _ t op ha
  | set t op =>
      refine (ends_takeBags _ t 0 ha).bind fun bags hb => ?_
      exact ends_applySet _ t op (hb.1 ▸ two_le_of_accepts hn) hb.2
  | quantified q => exact absurd rfl (hf q)
  | equal t => exact (ends_applyEqual _ t args).fits rfl rfl
  | equalIgnoringCase => exact (ends_applyEqualIgnoringCase _ args).fits rfl rfl
  | compare t op => exact (ends_applyComparison _ t op args).fits rfl rfl
  | timeInRange => exact (ends_applyTimeInRange _ args).fits rfl rfl
  | logical op => exact (ends_applyConnective _ op args).fits rfl rfl
  | patternMatch t => exact (ends_applyPatternMatch _ patterns t args).fits rfl rfl
  | mailboxMatch => exact (ends_applyMailboxMatch _ args).fits rfl rfl
  | distinguishedNameMatch => exact (ends_applyDistinguishedNameMatch _ args).fits rfl rfl

end

/-! ## Functions that apply functions -/

/-- What a quantified function relies on in the function that it applies: at no more than `k`
arguments, of each of which `A` holds, it halts only as `H` allows. -/
structure Calls (inner : Apply) (H : Halt → Prop) (k : Nat) (A : Argument → Prop) (f : Function) :
    Prop where
  ends : ∀ call, call.length ≤ k → (∀ a ∈ call, A a) → Ends H (fun _ => True) (inner f call)
  /-- Members of bags are put among the arguments. -/
  value : ∀ v, A (.value v)
  complaint : ∀ id h, Halt.ComplaintOf id h → H h

/-- Fewer arguments are acceptable too. -/
theorem Calls.of_le {inner : Apply} {H : Halt → Prop} {k l : Nat} {A : Argument → Prop}
    {f : Function} (hf : Calls inner H k A f) (hl : l ≤ k) : Calls inner H l A f :=
  ⟨fun call hc => hf.ends call (Nat.le_trans hc hl), hf.value, hf.complaint⟩

/-- A call that a quantified function may make. -/
def Callable (k : Nat) (A : Argument → Prop) (call : List Argument) : Prop :=
  call.length ≤ k ∧ ∀ a ∈ call, A a

section

variable {inner : Apply} {H : Halt → Prop} {k : Nat} {A : Argument → Prop} {f : Function}

/-- The places of bags are among the arguments. -/
theorem lt_of_mem_bagPlaces {position : Nat} {args : List Argument} {place : Nat × Bag}
    (h : place ∈ bagPlaces position args) : place.1 < position + args.length := by
  induction args generalizing position with
  | nil => cases h
  | cons a rest ih =>
      have hr : place ∈ bagPlaces (position + 1) rest →
          place.1 < position + (a :: rest).length := by
        intro h
        have hl := ih h
        rw [List.length_cons]
        omega
      cases a with
      | bag b =>
          rw [bagPlaces] at h
          rcases List.mem_cons.mp h with rfl | h
          · rw [List.length_cons]
            omega
          · exact hr h
      | value v => exact hr h
      | function g => exact hr h

theorem ends_replaceAt {args : List Argument} {position : Nat} (hp : position < args.length)
    (a : Argument) :
    Ends H (fun call => call = args.set position a) (replaceAt args position a) := by
  rw [replaceAt, if_pos hp]
  rfl

/-- The other arguments stay as they are, in all of the lists. -/
theorem ends_replaceWithEach {args : List Argument} {position : Nat} (hp : position < args.length)
    (vs : List Value) :
    Ends H (fun calls => ∀ call ∈ calls, ∃ v, call = args.set position (.value v))
      (replaceWithEach args position vs) := by
  induction vs with
  | nil => exact List.forall_mem_nil _
  | cons v rest ih =>
      have hr := ends_replaceAt (H := H) hp (.value v)
      rw [replaceWithEach]
      cases h : replaceAt args position (.value v) with
      | error halt => exact hr.of_error h
      | ok call => exact ih.map fun _ hc => List.forall_mem_cons.mpr ⟨⟨v, hr.of_ok h⟩, hc⟩

/-- What the members of the only bag are put among are the other arguments. -/
theorem ends_substitutions (id : Identifier) (args : List Argument) :
    Ends (Halt.ComplaintOf id)
      (fun calls => ∀ call ∈ calls, ∃ position v, call = args.set position (.value v))
      (substitutions id args) := by
  rw [substitutions]
  split
  · rename_i position b hp
    have hm : (position, b) ∈ bagPlaces 0 args := by
      rw [hp]
      exact List.mem_singleton_self _
    have hl : position < args.length := by simpa using lt_of_mem_bagPlaces hm
    exact (ends_replaceWithEach hl b.values).imp fun _ hc call hm => ⟨position, hc call hm⟩
  · exact ends_complain id _

theorem ends_anyBagAt (id : Identifier) (args : List Argument) (index : Nat) :
    Ends (Halt.ComplaintOf id) (fun _ => index < args.length) (anyBagAt id args index) := by
  rw [anyBagAt]
  split
  · exact (List.getElem?_eq_some_iff.mp ‹_›).1
  · exact ends_complain id _

theorem Calls.ends_complain {α : Type} {p : α → Prop} (hf : Calls inner H k A f) (id : Identifier)
    (c : Complaint) : Ends H p (complain id c : Except Halt α) := hf.complaint id _ ⟨c, rfl⟩

variable (hf : Calls inner H k A f) (id : Identifier)

include hf

theorem ends_test {call : List Argument} (hc : Callable k A call) :
    Ends H (fun _ => True) (test inner id f call) := by
  have hi := hf.ends call hc.1 hc.2
  rw [test]
  split
  · exact hi.of_error ‹_›
  · exact True.intro
  · exact hf.ends_complain id _

theorem ends_testAny {calls : List (List Argument)} (hc : ∀ call ∈ calls, Callable k A call) :
    Ends H (fun _ => True) (testAny inner id f calls) := by
  induction calls with
  | nil => exact True.intro
  | cons call rest ih =>
      obtain ⟨hc, hr⟩ := List.forall_mem_cons.mp hc
      have ht := ends_test hf id hc
      rw [testAny]
      split
      · exact ht.of_error ‹_›
      · exact True.intro
      · exact ih hr

theorem ends_testAll {calls : List (List Argument)} (hc : ∀ call ∈ calls, Callable k A call) :
    Ends H (fun _ => True) (testAll inner id f calls) := by
  induction calls with
  | nil => exact True.intro
  | cons call rest ih =>
      obtain ⟨hc, hr⟩ := List.forall_mem_cons.mp hc
      have ht := ends_test hf id hc
      rw [testAll]
      split
      · exact ht.of_error ‹_›
      · exact True.intro
      · exact ih hr

theorem ends_results {calls : List (List Argument)} (hc : ∀ call ∈ calls, Callable k A call) :
    Ends H (fun _ => True) (results inner id f calls) := by
  induction calls with
  | nil => exact True.intro
  | cons call rest ih =>
      obtain ⟨hc, hr⟩ := List.forall_mem_cons.mp hc
      have hi := hf.ends call hc.1 hc.2
      rw [results]
      split
      · exact hi.of_error ‹_›
      · exact (ih hr).map fun _ _ => True.intro
      · exact hf.ends_complain id _

omit hf in
theorem ends_anyMember {found : Value → Except Halt Bool}
    (h : ∀ v, Ends H (fun _ => True) (found v)) (vs : List Value) :
    Ends H (fun _ => True) (anyMember found vs) := by
  induction vs with
  | nil => exact True.intro
  | cons v rest ih =>
      have hv := h v
      rw [anyMember]
      split
      · exact hv.of_error ‹_›
      · exact True.intro
      · exact ih

theorem ends_testChoices {chosen args : List Argument} (hl : chosen.length + args.length ≤ k)
    (hc : ∀ a ∈ chosen, A a) (index : Nat) :
    Ends H (fun _ => True) (testChoices inner id f index chosen args) := by
  induction args generalizing index chosen with
  | nil =>
      rw [testChoices]
      exact ends_test hf id ⟨hl, hc⟩
  | cons a rest ih =>
      -- the choice from one argument takes its place among those chosen
      have hr : ∀ v, Ends H (fun _ => True)
          (testChoices inner id f (index + 1) (chosen ++ [.value v]) rest) := by
        intro v
        refine ih ?_ (List.forall_mem_append.mpr ⟨hc, ?_⟩) (index + 1)
        · rw [List.length_append, List.length_singleton]
          rw [List.length_cons] at hl
          omega
        · exact List.forall_mem_singleton.mpr (hf.value v)
      cases a with
      | value v =>
          rw [testChoices]
          exact ends_anyMember hr [v]
      | bag b =>
          rw [testChoices]
          exact ends_anyMember hr b.values
      | function g =>
          rw [testChoices]
          exact hf.ends_complain id _

theorem ends_testAgainst (hk : 2 ≤ k) (v : Value) (ws : List Value) :
    Ends H (fun _ => True) (testAgainst inner id f v ws) := by
  induction ws with
  | nil => exact True.intro
  | cons w rest ih =>
      have hc : Callable k A [.value v, .value w] := by
        refine ⟨hk, ?_⟩
        rintro a (_ | ⟨_, _ | ⟨_, ⟨⟩⟩⟩) <;> exact hf.value _
      have ht := ends_test hf id hc
      rw [testAgainst]
      split
      · exact ht.of_error ‹_›
      split
      · exact ih.of_error ‹_›
      · exact True.intro

theorem ends_testPairs (hk : 2 ≤ k) (q : Quantifier) (right left : List Value) :
    Ends H (fun _ => True) (testPairs inner id q f right left) := by
  induction left with
  | nil => exact True.intro
  | cons v rest ih =>
      have ht := ends_testAgainst hf id hk v right
      rw [testPairs]
      split
      · exact ht.of_error ‹_›
      split
      · exact True.intro
      · exact ih

/-- The arguments with members of a bag among them are acceptable too. -/
theorem ends_substitutions_of {args : List Argument} (ha : Callable k A args) :
    Ends H (fun calls => ∀ call ∈ calls, Callable k A call) (substitutions id args) := by
  refine (ends_substitutions id args).mono (hf.complaint id) fun calls hc call hm => ?_
  obtain ⟨position, v, rfl⟩ := hc call hm
  refine ⟨Nat.le_trans (Nat.le_of_eq List.length_set) ha.1, fun a hma => ?_⟩
  rcases List.mem_or_eq_of_mem_set hma with h | rfl
  · exact ha.2 a h
  · exact hf.value v

theorem ends_mapMembers {args : List Argument} (ha : Callable k A args) :
    Ends H Outcome.WellTyped (mapMembers inner id f args) := by
  refine (ends_substitutions_of hf id ha).bind fun calls hc => ?_
  refine (ends_results hf id hc).bind fun vs _ => ?_
  dsimp only
  split
  · exact Bag.wellTyped_of_ofValues ‹_›
  · exact hf.ends_complain id _

theorem ends_applyQuantifier (q : Quantifier) {args : List Argument} (ha : Callable k A args) :
    Ends H (Outcome.Fits (.quantified q)) (applyQuantifier inner id q f args) := by
  have hs := ends_substitutions_of hf id ha
  have hp : Ends H (Outcome.HasType .boolean false) (do
      let left ← anyBagAt id args 0
      let right ← anyBagAt id args 1
      return .bool (← testPairs inner id q f right.values left.values)) := by
    have hb := fun index => (ends_anyBagAt id args index).allow (hf.complaint id)
    refine (hb 0).bind fun left _ => (hb 1).bind fun right hr => ?_
    -- with a second bag there are as many arguments as a pair has members
    have hk : 2 ≤ k := Nat.le_trans hr ha.1
    exact (ends_testPairs hf id hk q right.values left.values).bind fun _ _ => rfl
  cases q with
  | anyOf =>
      refine Ends.fits (t := .boolean) (hs.bind fun calls hc => ?_) rfl rfl
      exact (ends_testAny hf id hc).bind fun _ _ => rfl
  | allOf =>
      refine Ends.fits (t := .boolean) (hs.bind fun calls hc => ?_) rfl rfl
      exact (ends_testAll hf id hc).bind fun _ _ => rfl
  | anyOfAny =>
      refine Ends.fits (t := .boolean) ?_ rfl rfl
      have hl : ([] : List Argument).length + args.length ≤ k := (Nat.zero_add _).symm ▸ ha.1
      exact (ends_testChoices hf id hl (List.forall_mem_nil A) 1).map fun _ _ => rfl
  | map => exact (ends_mapMembers hf id ha).imp fun _ h => ⟨fun _ ht => (nomatch ht), h⟩
  | allOfAny => exact hp.fits rfl rfl
  | anyOfAll => exact hp.fits rfl rfl
  | allOfAll => exact hp.fits rfl rfl

end

/-! ## Standard functions -/

theorem ends_checkArity (id : Identifier) (arity : Arity) (args : List Argument) :
    Ends (Halt.ComplaintOf id) (fun _ => arity.accepts args.length = true)
      (checkArity id arity args) := by
  rw [checkArity]
  split
  · assumption
  · exact ends_complain id _

/-- A quantified function that finds the function it applies has arguments after it to take. -/
theorem ends_functionAt (id : Identifier) (args : List Argument) :
    Ends (Halt.ComplaintOf id) (fun g => ∃ rest, args = .function g :: rest)
      (functionAt id args) := by
  rw [functionAt]
  split
  · exact List.head?_eq_some_iff.mp ‹_›
  · exact ends_complain id _

/-- An argument is a value, a well typed bag, or a function of which `P` holds. -/
def Operand.Acceptable {φ : Type} (P : φ → Prop) : Operand φ → Prop
  | .value _ => True
  | .bag b => b.WellTyped
  | .function f => P f

theorem Operand.Acceptable.wellTyped {φ : Type} {P : φ → Prop} {a : Operand φ}
    (h : a.Acceptable P) : a.WellTyped := by
  cases a with
  | value v => exact True.intro
  | bag b => exact h
  | function f => exact True.intro

theorem Operand.acceptable_ofOutcome {φ : Type} {P : φ → Prop} {o : Outcome} (h : o.WellTyped) :
    (Operand.ofOutcome o).Acceptable P := by
  cases o with
  | value v => exact True.intro
  | bag b => exact h

theorem Operand.WellTyped.acceptable {φ : Type} {a : Operand φ} (h : a.WellTyped) :
    a.Acceptable fun _ => True := by
  cases a with
  | value v => exact True.intro
  | bag b => exact h
  | function f => exact True.intro

/-- Whether a function is one of the standard ones. -/
def Function.IsStandard : Function → Prop
  | .standard _ => True
  | .extension _ => False

theorem Function.IsStandard.exists_eq {f : Function} (h : f.IsStandard) : ∃ g, f = .standard g := by
  cases f with
  | standard g => exact ⟨g, rfl⟩
  | extension e => exact h.elim

section

variable {env : Surroundings}

namespace StandardFunction

/-- A quantified function halts where the function that it applies does, and gives it one argument
less than it has itself. -/
theorem ends_applyWith {inner : Apply} {H : Halt → Prop} {P : Function → Prop}
    (f : StandardFunction) {args : List Argument}
    (hc : ∀ g, P g → ∀ k, args.length = k + 1 → Calls inner H k (Operand.Acceptable P) g)
    (hH : ∀ id h, Halt.ComplaintOf id h → H h) (ha : ∀ a ∈ args, a.Acceptable P) :
    Ends H (Outcome.Fits f) (applyWith env inner (.standard f) args) := by
  have hn := (ends_checkArity f.id f.arity args).allow (hH f.id)
  have hw := @ends_applyFirstOrder args f env.patterns
  refine hn.bind fun _ hk => ?_
  cases f with
  | quantified q =>
      refine ((ends_functionAt _ args).allow (hH _)).bind fun g hg => ?_
      obtain ⟨rest, rfl⟩ := hg
      obtain ⟨hg, hr⟩ := List.forall_mem_cons.mp ha
      exact ends_applyQuantifier (hc g hg rest.length rfl) _ q ⟨Nat.le_refl _, hr⟩
  | _ => exact (hw (fun _ h => nomatch h) hk fun a hm => (ha a hm).wellTyped).allow (hH _)

/-- **Standard functions return what they declare**, whatever functions are passed to them. -/
theorem fits_of_apply (f : StandardFunction) {args : List Argument}
    (ha : ∀ a ∈ args, a.WellTyped) {o : Outcome}
    (h : (Function.standard f).apply args env = .ok o) : o.Fits f := by
  have hc : ∀ inner : Apply, ∀ g, True → ∀ k, args.length = k + 1 →
      Calls inner (fun _ => True) k (Operand.Acceptable fun _ => True) g := fun _ _ _ _ _ =>
    ⟨fun _ _ _ => .trivial _, fun _ => True.intro, fun _ _ _ => True.intro⟩
  have ha' : ∀ a ∈ args, a.Acceptable fun _ => True := fun a hm => (ha a hm).acceptable
  rw [Function.apply] at h
  -- the outermost call is the same at every depth
  cases hd : args.length with
  | zero =>
      rw [hd, applyNested] at h
      exact (f.ends_applyWith (hc _) (fun _ _ _ => True.intro) ha').of_ok h
  | succ depth =>
      rw [hd, applyNested] at h
      exact (f.ends_applyWith (hc _) (fun _ _ _ => True.intro) ha').of_ok h

/-- With no more arguments than levels, no call nests too deeply. -/
theorem calls_applyNested (depth : Nat) :
    ∀ g : Function, g.IsStandard →
      Calls (applyNested env depth) Halt.IsComplaint depth
        (Operand.Acceptable Function.IsStandard) g := by
  induction depth with
  | zero =>
      intro g hg
      obtain ⟨f, rfl⟩ := hg.exists_eq
      refine ⟨fun call hl ha => ?_, fun _ => True.intro, fun id _ h => ⟨id, h⟩⟩
      -- without arguments there is no function to apply
      have hc : ∀ k, call.length ≠ k + 1 := fun k hk => by omega
      exact (f.ends_applyWith (fun _ _ k hk => absurd hk (hc k)) (fun id _ h => ⟨id, h⟩) ha).imp
        fun _ _ => True.intro
  | succ depth ih =>
      intro g hg
      obtain ⟨f, rfl⟩ := hg.exists_eq
      refine ⟨fun call hl ha => ?_, fun _ => True.intro, fun id _ h => ⟨id, h⟩⟩
      have hc : ∀ g : Function, g.IsStandard → ∀ k, call.length = k + 1 →
          Calls (applyNested env depth) Halt.IsComplaint k
            (Operand.Acceptable Function.IsStandard) g :=
        fun g hg k hk => (ih g hg).of_le (by omega)
      exact (f.ends_applyWith hc (fun id _ h => ⟨id, h⟩) ha).imp fun _ _ => True.intro

/-- **Standard functions return what they declare or complain**, provided that all functions
passed to them are standard. -/
theorem ends_apply (f : StandardFunction) {args : List Argument}
    (ha : ∀ a ∈ args, a.Acceptable Function.IsStandard) :
    Ends Halt.IsComplaint (Outcome.Fits f) ((Function.standard f).apply args env) := by
  have he : Ends Halt.IsComplaint (fun _ => True) ((Function.standard f).apply args env) :=
    (calls_applyNested args.length (.standard f) True.intro).ends args (Nat.le_refl _) ha
  cases h : (Function.standard f).apply args env with
  | error halt => exact he.of_error h
  | ok o => exact f.fits_of_apply (fun a hm => (ha a hm).wellTyped) h

end StandardFunction

theorem Function.IsStandard.ends_apply {f : Function} (hf : f.IsStandard) {args : List Argument}
    (ha : ∀ a ∈ args, a.Acceptable IsStandard) :
    Ends Halt.IsComplaint Outcome.WellTyped (f.apply args env) := by
  obtain ⟨g, rfl⟩ := hf.exists_eq
  exact (g.ends_apply ha).imp fun _ h => h.2

end

end Abac
