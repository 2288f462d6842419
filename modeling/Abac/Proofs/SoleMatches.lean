import Abac.Combining.Algorithm
import Mathlib.Data.List.Forall2

/-!
# Selection by target

Only-one-applicable runs once through the targets of the children and evaluates at most one child,
at the end. The loop can stop in two places before that, and which of the two it comes to first
depends on where the targets stand. Seen from outside there are three cases: no target matches, one
target matches and no other one does, or the choice is left open, with a status that `openStatus`
tells from the targets (`Method.onlyOneApplicable_selects`).

The invariant of the loop is that no target behind it matched, except for that of the child it has
chosen. So what is said of the loop is said of the child that was chosen, if there is one, and of
the targets to come, and `openStatus` counts the matches behind it as well.
-/

namespace Abac

namespace Applicability

variable {t : Applicability} {ts : List Applicability} {s : Status} {earlier i : Nat}

/-- Whether a target tells if it applies. -/
def isClear : Applicability → Bool
  | .unclear _ => false
  | _ => true

/-- No target matches, for certain. -/
def NoMatch (ts : List Applicability) : Prop := ∀ t ∈ ts, t = .unmatched

/-- The target at `i` matches, and no other one does, for certain. -/
structure SoleMatch (ts : List Applicability) (i : Nat) : Prop where
  matched : ts[i]? = some .matched
  others : ∀ j t, ts[j]? = some t → j ≠ i → t = .unmatched

/-- The status with which targets leave the choice open: that of the first unclear one if fewer than
two match in front of it, and else that of several matching ones. Of the targets in front of these,
`earlier` ones match. -/
def openStatus (earlier : Nat) (ts : List Applicability) : Status :=
  match ts.dropWhile isClear with
  | .unclear s :: _ =>
    if earlier + (ts.takeWhile isClear).countP isMatched < 2 then s else severalApplicable
  | _ => severalApplicable

/-! ## The three cases, target by target -/

theorem noMatch_cons_iff : NoMatch (t :: ts) ↔ t = .unmatched ∧ NoMatch ts := List.forall_mem_cons

theorem NoMatch.getElem? (h : NoMatch ts) (hi : ts[i]? = some t) : t = .unmatched :=
  h t (List.mem_of_getElem? hi)

theorem soleMatch_zero_iff : SoleMatch (t :: ts) 0 ↔ t = .matched ∧ NoMatch ts := by
  refine ⟨fun h => ⟨Option.some.inj h.matched, fun u hu => ?_⟩, fun h => ⟨?_, fun j u hj hne => ?_⟩⟩
  · obtain ⟨j, hj⟩ := List.mem_iff_getElem?.mp hu
    exact h.others (j + 1) u hj (Nat.succ_ne_zero j)
  · rw [h.1]
    rfl
  · obtain ⟨k, rfl⟩ := Nat.exists_eq_succ_of_ne_zero hne
    exact h.2.getElem? hj

theorem soleMatch_succ_iff : SoleMatch (t :: ts) (i + 1) ↔ t = .unmatched ∧ SoleMatch ts i := by
  refine ⟨fun h => ⟨h.others 0 t rfl (Nat.succ_ne_zero i).symm, h.matched, fun j u hj hne => ?_⟩,
    fun h => ⟨h.2.matched, fun j u hj hne => ?_⟩⟩
  · exact h.others (j + 1) u hj (by omega)
  · cases j with
    | zero => exact Option.some.inj hj ▸ h.1
    | succ j => exact h.2.others j u hj (by omega)

theorem openStatus_unclear (h : earlier < 2) : openStatus earlier (.unclear s :: ts) = s := by
  simpa [openStatus, isClear] using fun h' => absurd h' (by omega)

theorem openStatus_unmatched : openStatus earlier (.unmatched :: ts) = openStatus earlier ts := by
  rw [openStatus, List.dropWhile_cons_of_pos rfl, List.takeWhile_cons_of_pos rfl,
    List.countP_cons_of_neg (by decide)]
  rfl

theorem openStatus_matched : openStatus earlier (.matched :: ts) = openStatus (earlier + 1) ts := by
  rw [openStatus, List.dropWhile_cons_of_pos rfl, List.takeWhile_cons_of_pos rfl,
    List.countP_cons_of_pos rfl, ← Nat.add_assoc, Nat.add_right_comm]
  rfl

theorem openStatus_of_two_le (h : 2 ≤ earlier) : openStatus earlier ts = severalApplicable := by
  unfold openStatus
  split
  · rw [if_neg (by omega)]
  · rfl

end Applicability

open Applicability

/-! ## The loop -/

section

variable {children others : List Child} {ts : List Applicability} {chosen other : Option Child}
  {c d : Child} {i : Nat}

/-- What the targets of children come to. -/
def targets (children : List Child) : List (Except Fault Applicability) :=
  children.map fun c => (c.matchTarget ()).outcome

/-- Without a match to come, the loop ends as if there were nothing to come. -/
theorem outcome_of_noMatch (h : targets children = ts.map .ok) (hno : NoMatch ts)
    (chosen : Option Child) :
    (onlyApplicableFrom chosen children).outcome = (onlyApplicableFrom chosen []).outcome := by
  induction ts generalizing children with
  | nil => rw [List.map_eq_nil_iff.mp h]
  | cons t ts ih =>
      obtain ⟨c, rest, rfl, hc, hrest⟩ := List.map_eq_cons_iff.mp h
      obtain ⟨rfl, hts⟩ := noMatch_cons_iff.mp hno
      rw [onlyApplicableFrom, Run.bind_of_ok hc]
      exact ih hrest hts

/-- The only match to come is chosen. -/
theorem outcome_of_soleMatch (h : targets children = ts.map .ok) (hi : SoleMatch ts i)
    (hc : children[i]? = some c) :
    (onlyApplicableFrom none children).outcome = (c.evaluate ()).outcome := by
  induction ts generalizing children i with
  | nil => cases hi.matched
  | cons t ts ih =>
      obtain ⟨d, rest, rfl, hd, hrest⟩ := List.map_eq_cons_iff.mp h
      rw [onlyApplicableFrom, Run.bind_of_ok hd]
      cases i with
      | zero =>
          obtain ⟨rfl, hts⟩ := soleMatch_zero_iff.mp hi
          obtain rfl := Option.some.inj hc
          exact outcome_of_noMatch hrest hts (some d)
      | succ i =>
          obtain ⟨rfl, hrest'⟩ := soleMatch_succ_iff.mp hi
          exact ih hrest hrest' hc

/-- In all other cases the loop stops at a target. -/
theorem outcome_of_open (h : targets children = ts.map .ok) (hnone : ¬NoMatch ts)
    (hsole : chosen = none → ∀ i, ¬SoleMatch ts i) :
    (onlyApplicableFrom chosen children).outcome =
      .ok (.indeterminate (openStatus chosen.toList.length ts)) := by
  induction ts generalizing children chosen with
  | nil => exact absurd (List.forall_mem_nil _) hnone
  | cons t ts ih =>
      obtain ⟨c, rest, rfl, hc, hrest⟩ := List.map_eq_cons_iff.mp h
      have hlength : chosen.toList.length < 2 := by cases chosen <;> simp
      rw [onlyApplicableFrom, Run.bind_of_ok hc]
      cases t with
      | unmatched =>
          rw [openStatus_unmatched]
          exact ih hrest (fun hts => hnone (noMatch_cons_iff.mpr ⟨rfl, hts⟩)) fun hchosen i hi =>
            hsole hchosen (i + 1) (soleMatch_succ_iff.mpr ⟨rfl, hi⟩)
      | unclear s => rw [openStatus_unclear hlength]; rfl
      | matched =>
          rw [openStatus_matched]
          cases chosen with
          | none =>
              -- another target has to match or be unclear, as the choice would be made otherwise
              exact ih hrest (fun hts => hsole rfl 0 (soleMatch_zero_iff.mpr ⟨rfl, hts⟩)) nofun
          | some first =>
              have hstatus : openStatus 2 ts = severalApplicable :=
                openStatus_of_two_le (Nat.le_refl 2)
              exact congrArg (fun s => Except.ok (Result.indeterminate s)) hstatus.symm

/-- Children whose targets are the same are told apart only by evaluating the chosen one. -/
theorem onlyApplicableFrom_congr
    (hsame : List.Forall₂ (fun c d => c.matchTarget () = d.matchTarget ()) children others)
    (h : targets children = ts.map .ok) (hsome : chosen.isSome = other.isSome)
    (hnone : NoMatch ts → onlyApplicableFrom chosen [] = onlyApplicableFrom other [])
    (hsole : chosen = none → ∀ i c d, SoleMatch ts i → children[i]? = some c →
      others[i]? = some d → c.evaluate () = d.evaluate ()) :
    onlyApplicableFrom chosen children = onlyApplicableFrom other others := by
  induction hsame generalizing ts chosen other with
  | nil =>
      obtain rfl := List.map_eq_nil_iff.mp h.symm
      exact hnone (List.forall_mem_nil _)
  | @cons c d children others hcd _ ih =>
      obtain ⟨t, ts, rfl, hc, hrest⟩ := List.map_eq_cons_iff.mp h.symm
      rw [onlyApplicableFrom, onlyApplicableFrom, ← hcd, Run.bind_of_ok hc.symm,
        Run.bind_of_ok hc.symm]
      cases t with
      | unclear s => rfl
      | unmatched =>
          dsimp only
          rw [ih hrest.symm hsome (fun hts => hnone (noMatch_cons_iff.mpr ⟨rfl, hts⟩))
            fun hchosen i c d hi => hsole hchosen (i + 1) c d (soleMatch_succ_iff.mpr ⟨rfl, hi⟩)]
      | matched =>
          cases chosen with
          | none =>
              obtain rfl := Option.isNone_iff_eq_none.mp (by simpa using hsome.symm)
              have hchoice : NoMatch ts → c.evaluate () = d.evaluate () := fun hts =>
                hsole rfl 0 c d (soleMatch_zero_iff.mpr ⟨rfl, hts⟩) rfl rfl
              have hrun :
                  onlyApplicableFrom (some c) children = onlyApplicableFrom (some d) others :=
                ih hrest.symm rfl hchoice fun hnone => nomatch hnone
              dsimp only
              rw [hrun]
          | some first =>
              obtain ⟨second, rfl⟩ := Option.isSome_iff_exists.mp hsome.symm
              rfl

end

/-! ## The method -/

/-- **Selection by target.** If no target faults, only-one-applicable does not apply if no target
matches, comes to what the child comes to whose target is the only one that matches, and else cannot
tell, with the status that the targets leave the choice open with. Other children with the same
targets, of which the one so chosen evaluates as before, make the same run: no other child is
evaluated. -/
theorem Method.onlyOneApplicable_selects {children : List Child} {ts : List Applicability}
    (h : targets children = ts.map .ok) (ps : List Parameter) (ctx : Context) :
    (NoMatch ts → (Method.onlyOneApplicable.combine children ps ctx).outcome = .ok .notApplicable) ∧
      (∀ i c, SoleMatch ts i → children[i]? = some c →
        (Method.onlyOneApplicable.combine children ps ctx).outcome = (c.evaluate ()).outcome) ∧
      (¬NoMatch ts → (∀ i, ¬SoleMatch ts i) →
        (Method.onlyOneApplicable.combine children ps ctx).outcome =
          .ok (.indeterminate (openStatus 0 ts))) ∧
      ∀ others,
        List.Forall₂ (fun c d => c.matchTarget () = d.matchTarget ()) children others →
        (∀ i c d, SoleMatch ts i → children[i]? = some c → others[i]? = some d →
          c.evaluate () = d.evaluate ()) →
        Method.onlyOneApplicable.combine children ps ctx =
          Method.onlyOneApplicable.combine others ps ctx :=
  ⟨fun hts => outcome_of_noMatch h hts none, fun _ _ hi hc => outcome_of_soleMatch h hi hc,
    fun hnone hsole => outcome_of_open h hnone fun _ => hsole,
    fun _ hsame hsole => onlyApplicableFrom_congr hsame h rfl (fun _ => rfl) fun _ => hsole⟩

/-- A child whose target and evaluation come to what is given. -/
def Child.answering (t : Applicability) (r : Except Fault Result) : Child :=
  ⟨"", [], fun _ => .lift (.ok t), fun _ => .lift r⟩

/-- Three children, of which the second matches. The third has a given target and would fault. -/
def childrenWithThird (t : Applicability) : List Child :=
  [.answering .unmatched (.ok (.of .permit)), .answering .matched (.ok (.of .deny)),
    .answering t (.error (.breach .missingArgument))]

/-- The second child is chosen although the third would fault, unless the third matches as well. -/
theorem Method.onlyOneApplicable_selects_second :
    (Method.onlyOneApplicable.combine (childrenWithThird .unmatched) [] .bare).outcome =
        .ok (.of .deny) ∧
      (Method.onlyOneApplicable.combine (childrenWithThird .matched) [] .bare).outcome =
        .ok (.indeterminate severalApplicable) := by
  have htargets : ∀ t, targets (childrenWithThird t) = [.unmatched, .matched, t].map .ok :=
    fun _ => rfl
  have hsole : SoleMatch [.unmatched, .matched, .unmatched] 1 :=
    soleMatch_succ_iff.mpr ⟨rfl, soleMatch_zero_iff.mpr ⟨rfl, by simp [NoMatch]⟩⟩
  have hnone : ¬NoMatch [.unmatched, .matched, .matched] := by simp [NoMatch]
  have hopen : ∀ i, ¬SoleMatch [.unmatched, .matched, .matched] i := by
    intro i hi
    -- each of the two that match would be the only one
    have hsecond : 1 = i := by_contra fun h => nomatch hi.others 1 .matched rfl h
    have hthird : 2 = i := by_contra fun h => nomatch hi.others 2 .matched rfl h
    omega
  obtain ⟨-, hselect, -⟩ := Method.onlyOneApplicable_selects (htargets .unmatched) [] .bare
  obtain ⟨-, -, hundecided, -⟩ := Method.onlyOneApplicable_selects (htargets .matched) [] .bare
  exact ⟨hselect 1 _ hsole rfl, hundecided hnone hopen⟩

end Abac
