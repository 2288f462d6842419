import Abac.Context
import Abac.Proofs.Targets

/-!
# Sources of values

A designator can draw its values from several sources: from the request, and
behind the request from what each finder answers. Whether a source has anything
for a designator depends on more than the name of an attribute; the issuer has to
be the right one, and there has to be a value of the right type.

The request is asked just that, and is passed over if it has nothing. The finders
are only asked whether they answer attributes at all. So a finder that answers
attributes without a value for the designator hides the finders behind it, and
this is the only way in which a source without values hides one that has some
(`Designator.eval_of_sources`).
-/

namespace Abac

/-- What finders answer to a lookup, one after another, if none fails and every status is fine. -/
def FindersAnswer (finders : List Finder) (k : LookupKey) (answers : List (List Attribute)) :
    Prop :=
  List.Forall₂ (fun finder as => ∃ status : Status, status.isOk = true ∧
    finder k = .ok ⟨status, as⟩) finders answers

/-- The attributes of the first answer that has any. -/
def firstAnswered (answers : List (List Attribute)) : List Attribute :=
  (answers.find? fun as => !as.isEmpty).getD []

theorem firstAnswered_nil_cons (rest : List (List Attribute)) :
    firstAnswered ([] :: rest) = firstAnswered rest := rfl

theorem firstAnswered_cons {as : List Attribute} (h : as ≠ []) (rest : List (List Attribute)) :
    firstAnswered (as :: rest) = as := by
  cases as with
  | nil => exact absurd rfl h
  | cons a as => rfl

/-- The finders end in the first answer that has attributes. -/
theorem askFinders_of_answers {finders : List Finder} {k : LookupKey}
    {answers : List (List Attribute)} (h : FindersAnswer finders k answers) :
    ∃ status : Status, status.isOk = true ∧
      askFinders k finders = .ok ⟨status, firstAnswered answers⟩ := by
  induction h with
  | nil => exact ⟨.ok, rfl, rfl⟩
  | @cons finder as finders answers hf _ ih =>
      obtain ⟨status, hs, hf⟩ := hf
      have hu : LookupAnswer.isUsable ⟨status, as⟩ = !as.isEmpty := by
        simp only [LookupAnswer.isUsable, hs, Bool.not_true, Bool.false_or]
      simp only [askFinders, hf, hu]
      cases as with
      | nil => exact ih
      | cons a as => exact ⟨status, hs, rfl⟩

namespace Designator

variable {d : Designator} {answers : List (List Attribute)}

/-- What a designator comes to if these are the values for it. -/
def outcomeOf (d : Designator) (vs : List Value) : Except Halt Outcome :=
  if vs.isEmpty && d.mustBePresent then .error (.status d.missing)
  else .ok (.bag ⟨d.dataType, vs⟩)

theorem outcomeOf_inj {vs ws : List Value} : d.outcomeOf vs = d.outcomeOf ws ↔ vs = ws := by
  constructor
  · intro h
    unfold outcomeOf at h
    split at h <;> split at h
    · rename_i hv hw
      rw [Bool.and_eq_true, List.isEmpty_iff] at hv hw
      rw [hv.1, hw.1]
    · cases h
    · cases h
    · cases h
      rfl
  · exact congrArg _

/-- The values for a designator in the first of several sources that has some. -/
def firstValues (d : Designator) (sources : List (List Attribute)) : List Value :=
  ((sources.map d.values).find? fun vs => !vs.isEmpty).getD []

theorem firstValues_cons_of_nil {as : List Attribute} (h : d.values as = [])
    (rest : List (List Attribute)) : d.firstValues (as :: rest) = d.firstValues rest := by
  simp only [firstValues, List.map_cons, h]
  rfl

theorem firstValues_cons {as : List Attribute} (h : d.values as ≠ [])
    (rest : List (List Attribute)) : d.firstValues (as :: rest) = d.values as := by
  have hb : (!(d.values as).isEmpty) = true := by
    rw [Bool.not_eq_true', List.isEmpty_eq_false_iff]
    exact h
  simp only [firstValues, List.map_cons, List.find?_cons, hb, Option.getD_some]

theorem firstValues_eq_nil_iff {sources : List (List Attribute)} :
    d.firstValues sources = [] ↔ ∀ as ∈ sources, d.values as = [] := by
  induction sources with
  | nil => exact iff_of_true rfl (List.forall_mem_nil _)
  | cons as rest ih =>
      rw [List.forall_mem_cons]
      by_cases h : d.values as = []
      · rw [firstValues_cons_of_nil h, ih, and_iff_right h]
      · rw [firstValues_cons h]
        exact iff_of_false h fun hf => h hf.1

/-- The attributes that a designator is given: those of the request if there is a value among them,
and else those of the first answer that has any. -/
def supplied (d : Designator) (own : List Attribute) (answers : List (List Attribute)) :
    List Attribute :=
  if d.values own = [] then firstAnswered answers else own

/-- Among several answers, the first that has attributes has no value for the designator, and an
answer behind it has some. -/
def Hides (d : Designator) (answers : List (List Attribute)) : Prop :=
  ∃ (front : List (List Attribute)) (as : List Attribute) (rest : List (List Attribute)),
    answers = front ++ as :: rest ∧ (∀ bs ∈ front, bs = []) ∧ as ≠ [] ∧ d.values as = [] ∧
      ∃ bs ∈ rest, d.values bs ≠ []

theorem hides_nil_cons {rest : List (List Attribute)} : d.Hides ([] :: rest) ↔ d.Hides rest := by
  constructor
  · rintro ⟨_ | ⟨b, front⟩, as, rest', heq, hf, hne, hv, hr⟩
    · rw [List.nil_append, List.cons.injEq] at heq
      exact absurd heq.1.symm hne
    · rw [List.cons_append, List.cons.injEq] at heq
      exact ⟨front, as, rest', heq.2, (List.forall_mem_cons.mp hf).2, hne, hv, hr⟩
  · rintro ⟨front, as, rest', rfl, hf, hne, hv, hr⟩
    exact ⟨[] :: front, as, rest', rfl, List.forall_mem_cons.mpr ⟨rfl, hf⟩, hne, hv, hr⟩

theorem hides_cons {as : List Attribute} (hne : as ≠ []) {rest : List (List Attribute)} :
    d.Hides (as :: rest) ↔ d.values as = [] ∧ ∃ bs ∈ rest, d.values bs ≠ [] := by
  constructor
  · rintro ⟨_ | ⟨b, front⟩, as', rest', heq, hf, -, hv, hr⟩
    · rw [List.nil_append, List.cons.injEq] at heq
      obtain ⟨rfl, rfl⟩ := heq
      exact ⟨hv, hr⟩
    · rw [List.cons_append, List.cons.injEq] at heq
      exact absurd (heq.1.trans (List.forall_mem_cons.mp hf).1) hne
  · rintro ⟨hv, hr⟩
    exact ⟨[], as, rest, rfl, List.forall_mem_nil _, hne, hv, hr⟩

/-- The first answer with attributes has the values of the first answer with values, unless it hides
them. -/
theorem values_firstAnswered_iff :
    d.values (firstAnswered answers) = d.firstValues answers ↔ ¬ d.Hides answers := by
  induction answers with
  | nil => exact iff_of_true rfl fun ⟨_, _, _, heq, _⟩ => by simp at heq
  | cons as rest ih =>
      by_cases hne : as = []
      · subst hne
        rw [firstAnswered_nil_cons, firstValues_cons_of_nil rfl, hides_nil_cons, ih]
      · rw [firstAnswered_cons hne, hides_cons hne]
        by_cases hv : d.values as = []
        · -- nothing of the first answer counts, so nothing may be left behind it
          rw [firstValues_cons_of_nil hv, hv, eq_comm, firstValues_eq_nil_iff]
          simp only [true_and, ne_eq, not_exists, not_and, not_not]
        · rw [firstValues_cons hv]
          exact iff_of_true rfl fun h => hv h.1

theorem values_supplied_iff {own : List Attribute} :
    d.values (d.supplied own answers) = d.firstValues (own :: answers) ↔
      ¬ (d.values own = [] ∧ d.Hides answers) := by
  by_cases hv : d.values own = []
  · rw [supplied, if_pos hv, firstValues_cons_of_nil hv, values_firstAnswered_iff, and_iff_right hv]
  · rw [supplied, if_neg hv, firstValues_cons hv]
    exact iff_of_true rfl fun h => hv h.1

end Designator

/-! ## What is looked up -/

/-- Looking for the attributes of a key loses no value for the designator. -/
theorem Request.values_matching (r : Request) (d : Designator) :
    d.values (r.matching d.key) = d.values r.attributes := by
  rw [Designator.values, Designator.values, matching, List.filter_filter]
  simp only [Bool.and_self]

/-- A request has an attribute with a value of the right type if it has a value for the
designator. -/
theorem Request.any_hasType_iff (r : Request) (d : Designator) :
    ((r.matching d.key).any fun a => a.hasType d.key.dataType) = true ↔
      d.values r.attributes ≠ [] := by
  simp only [List.any_eq_true, Attribute.hasType, matching, Designator.values, valuesOfType, ne_eq,
    List.filter_eq_nil_iff, List.mem_flatMap, not_forall, not_not, exists_prop]
  constructor
  · rintro ⟨a, ha, v, hv, ht⟩
    exact ⟨v, ⟨a, ha, hv⟩, ht⟩
  · rintro ⟨v, ⟨a, ha, hv⟩, ht⟩
    exact ⟨a, ha, v, hv, ht⟩

/-- A lookup ends in the attributes that are supplied, less those of the request that are not
asked for. -/
theorem Request.lookup_of_answers (r : Request) {finders : List Finder} {d : Designator}
    {answers : List (List Attribute)} (h : FindersAnswer finders d.key answers) :
    ∃ (status : Status) (as : List Attribute), status.isOk = true ∧
      r.lookup finders d.key = .ok ⟨status, as⟩ ∧
      d.values as = d.values (d.supplied r.attributes answers) := by
  by_cases hv : d.values r.attributes = []
  · obtain ⟨status, hs, hf⟩ := askFinders_of_answers h
    refine ⟨status, firstAnswered answers, hs, ?_, ?_⟩
    · rw [lookup, if_neg fun hb => (r.any_hasType_iff d).mp hb hv, hf]
    · rw [Designator.supplied, if_pos hv]
  · refine ⟨.ok, r.matching d.key, rfl, ?_, ?_⟩
    · rw [lookup, if_pos ((r.any_hasType_iff d).mpr hv), LookupAnswer.found]
    · rw [Designator.supplied, if_neg hv, r.values_matching]

namespace Designator

/-- **A designator has the values of the request or, if there are none, those of the first finder
that answers attributes.** These are the values of the first source that has some if and only if no
finder without values hides them. -/
theorem eval_of_sources (d : Designator) (r : Request) {finders : List Finder}
    {answers : List (List Attribute)} (h : FindersAnswer finders d.key answers)
    (tracing idsByDefault : Bool) (scope : Definitions) :
    let ctx := (Context.ofRequest r finders tracing idsByDefault).within scope
    d.eval ctx = d.outcomeOf (d.values (d.supplied r.attributes answers)) ∧
      (d.eval ctx = d.outcomeOf (d.firstValues (r.attributes :: answers)) ↔
        ¬ (d.values r.attributes = [] ∧ d.Hides answers)) := by
  intro ctx
  obtain ⟨status, as, hs, hl, hv⟩ := r.lookup_of_answers h
  have he : d.eval ctx = d.outcomeOf (d.values (d.supplied r.attributes answers)) := by
    rw [← hv]
    exact eval_of_answer hs hl
  refine ⟨he, ?_⟩
  rw [he, outcomeOf_inj]
  exact values_supplied_iff

/-- The request has the age as a text, the first finder has nothing, and the second has a number. -/
theorem eval_of_sources_age :
    let d : Designator := ⟨⟨"subject"⟩, ⟨"age"⟩, .integer, none, true⟩
    let r : Request := ⟨[⟨⟨"subject"⟩, ⟨"age"⟩, none, [.string "42"]⟩], none⟩
    let number : Attribute := ⟨⟨"subject"⟩, ⟨"age"⟩, some "registry", [.integer 42]⟩
    let finders : List Finder := [fun _ => .ok (.found []), fun _ => .ok (.found [number])]
    FindersAnswer finders d.key [[], [number]] ∧
      d.eval ((Context.ofRequest r finders false false).within []) =
        d.outcomeOf (d.firstValues (r.attributes :: [[], [number]])) ∧
      d.firstValues (r.attributes :: [[], [number]]) = [.integer 42] := by
  intro d r number finders
  have ha : FindersAnswer finders d.key [[], [number]] :=
    .cons ⟨.ok, rfl, rfl⟩ (.cons ⟨.ok, rfl, rfl⟩ .nil)
  refine ⟨ha, (d.eval_of_sources r ha false false []).2.mpr ?_, rfl⟩
  rintro ⟨-, h⟩
  rw [hides_nil_cons, hides_cons (List.cons_ne_nil _ _)] at h
  exact absurd h.1 (List.cons_ne_nil _ _)

/-- A finder that has the age as a text hides one that has it as a number, which a request that has
it as a text does not. -/
theorem finder_without_values_hides :
    let d : Designator := ⟨⟨"subject"⟩, ⟨"age"⟩, .integer, none, false⟩
    let text : Attribute := ⟨⟨"subject"⟩, ⟨"age"⟩, none, [.string "42"]⟩
    let number : Attribute := ⟨⟨"subject"⟩, ⟨"age"⟩, none, [.integer 42]⟩
    let finder (a : Attribute) : Finder := fun _ => .ok (.found [a])
    FindersAnswer [finder text, finder number] d.key [[text], [number]] ∧
      d.firstValues [[], [text], [number]] = [.integer 42] ∧
      d.eval (.ofRequest ⟨[], none⟩ [finder text, finder number] false false) =
        .ok (.bag ⟨.integer, []⟩) ∧
      d.eval (.ofRequest ⟨[text], none⟩ [finder number] false false) =
        .ok (.bag ⟨.integer, [.integer 42]⟩) :=
  ⟨.cons ⟨.ok, rfl, rfl⟩ (.cons ⟨.ok, rfl, rfl⟩ .nil), rfl, rfl, rfl⟩

end Designator

end Abac
