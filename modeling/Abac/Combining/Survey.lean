import Abac.Combining.Child

/-!
# Surveys

Most combining algorithms evaluate the children in order and keep a summary of the results so far,
until some result settles the combination. A survey is such an algorithm: what it does on a result,
and what it concludes when the children are used up.
-/

namespace Abac

/-- What a survey does after it has seen a result. -/
inductive Reaction (σ : Type) where
  /-- The combination is settled, and no further child is looked at. -/
  | settle (r : Result)
  /-- Go on with a new summary. -/
  | proceed (summary : σ)

/-- An algorithm that evaluates the children in order. -/
structure Survey (σ : Type) where
  /-- The summary before any child was evaluated. -/
  start : σ
  /-- What to do about a child's result. -/
  react : σ → Result → Reaction σ
  /-- The result when no child has settled the combination. -/
  conclude : σ → Result

namespace Survey

variable {σ : Type}

/-- Survey children, from a summary on. -/
def runFrom (s : Survey σ) (summary : σ) : List Child → Run Result
  | [] => pure (s.conclude summary)
  | c :: rest => do
    match s.react summary (← c.evaluate ()) with
    | .settle r => pure r
    | .proceed summary => runFrom s summary rest

/-- Survey children. -/
def run (s : Survey σ) (children : List Child) : Run Result := s.runFrom s.start children

/-- What a survey makes of results that are at hand, from a summary on. -/
def ofResultsFrom (s : Survey σ) (summary : σ) : List Result → Result
  | [] => s.conclude summary
  | r :: rest =>
    match s.react summary r with
    | .settle r => r
    | .proceed summary => ofResultsFrom s summary rest

/-- What a survey makes of results that are at hand. -/
def ofResults (s : Survey σ) (results : List Result) : Result := s.ofResultsFrom s.start results

/-! ## Children without faults

A survey of children that all come to a result is the survey of these results. The two sides are
looked at together, child by child, because the survey may stop before the last one.
-/

/-- The outcomes of all children, whether or not a survey gets to them. -/
def outcomes (children : List Child) : List (Except Fault Result) :=
  children.map fun c => (c.evaluate ()).outcome

theorem outcome_runFrom (s : Survey σ) {children : List Child} {results : List Result}
    (h : outcomes children = results.map .ok) (summary : σ) :
    (s.runFrom summary children).outcome = .ok (s.ofResultsFrom summary results) := by
  induction children generalizing results summary with
  | nil =>
    obtain rfl : results = [] := by simpa [outcomes] using h.symm
    rfl
  | cons c rest ih =>
    cases results with
    | nil => simp [outcomes] at h
    | cons r results =>
      simp only [outcomes, List.map_cons, List.cons.injEq] at h
      rw [runFrom, Run.bind_of_ok h.1, ofResultsFrom]
      cases s.react summary r with
      | settle r => rfl
      | proceed next => exact ih h.2 next

theorem outcome_run (s : Survey σ) {children : List Child} {results : List Result}
    (h : outcomes children = results.map .ok) :
    (s.run children).outcome = .ok (s.ofResults results) :=
  s.outcome_runFrom h s.start

end Survey

end Abac
