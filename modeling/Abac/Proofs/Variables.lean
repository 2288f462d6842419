import Mathlib.Data.List.Perm.Subperm
import Mathlib.Logic.Relation
import Abac.Proofs.Typing

/-!
# Variables that do not go round in a circle

A variable stands for its definition, which may refer to other variables. The
evaluator unfolds no more definitions in a row than there are, and takes a longer
chain for a circle. It is right to do so: the variables on a chain are all
defined, and if no definition leads back to its own variable they are also all
different (`Definitions.Path`), so a chain is never longer than the list of
definitions.

Without circles, then, the bound is never met, and what evaluation may halt with
is what lookups and functions halt with (`Expression.ends_eval_of_acyclic`).
-/

namespace Abac

namespace Definitions

/-- The definition of a variable refers to another one. -/
def Refers (ds : Definitions) (a b : String) : Prop :=
  ∃ e, ds.find? a = some e ∧ b ∈ e.references

/-- No variable refers to itself, be it through others. -/
def Acyclic (ds : Definitions) : Prop := ∀ id, ¬ Relation.TransGen ds.Refers id id

/-- Where definitions only refer to variables of lower rank, there is no circle. -/
theorem acyclic_of_rank {ds : Definitions} (rank : String → Nat)
    (h : ∀ a b, ds.Refers a b → rank b < rank a) : ds.Acyclic := by
  have hlt : ∀ {a b}, Relation.TransGen ds.Refers a b → rank b < rank a := by
    intro a b hab
    induction hab with
    | single hr => exact h _ _ hr
    | tail _ hr ih => exact Nat.lt_trans (h _ _ hr) ih
  exact fun id hc => Nat.lt_irrefl _ (hlt hc)

theorem acyclic_nil : Acyclic [] :=
  acyclic_of_rank (fun _ => 0) fun _ _ ⟨_, he, _⟩ => nomatch he

/-- The variables that were unfolded on the way to another one. -/
structure Path (ds : Definitions) (seen : List String) (id : String) : Prop where
  nodup : seen.Nodup
  defined : seen ⊆ ds.map Definition.id
  leads : ∀ s ∈ seen, Relation.TransGen ds.Refers s id

variable {ds : Definitions} {seen : List String} {id : String} {e : Expression}

theorem mem_ids_of_find? (h : ds.find? id = some e) : id ∈ ds.map Definition.id := by
  obtain ⟨d, hd, -⟩ := Option.map_eq_some_iff.mp h
  have hi : d.id = id := by simpa using List.find?_some hd
  exact hi ▸ List.mem_map_of_mem (List.mem_of_find?_eq_some hd)

namespace Path

theorem nil (ds : Definitions) (id : String) : Path ds [] id :=
  ⟨List.nodup_nil, List.nil_subset _, fun _ hs => nomatch hs⟩

/-- Without circles, a variable is not among those unfolded on the way to it. -/
theorem nodup_cons (hp : Path ds seen id) (ha : ds.Acyclic) : (id :: seen).Nodup :=
  List.nodup_cons.mpr ⟨fun hm => ha id (hp.leads id hm), hp.nodup⟩

theorem defined_cons (hp : Path ds seen id) (he : ds.find? id = some e) :
    id :: seen ⊆ ds.map Definition.id :=
  List.cons_subset.mpr ⟨mem_ids_of_find? he, hp.defined⟩

theorem cons (hp : Path ds seen id) (ha : ds.Acyclic) (he : ds.find? id = some e) {next : String}
    (hn : next ∈ e.references) : Path ds (id :: seen) next where
  nodup := hp.nodup_cons ha
  defined := hp.defined_cons he
  leads := by
    have hr : ds.Refers id next := ⟨e, he, hn⟩
    exact List.forall_mem_cons.mpr ⟨.single hr, fun s hs => (hp.leads s hs).tail hr⟩

/-- There are more definitions than variables unfolded on the way to one that is defined. -/
theorem length_lt (hp : Path ds seen id) (ha : ds.Acyclic) (he : ds.find? id = some e) :
    seen.length < ds.length := by
  have hl := (List.subperm_of_subset (hp.nodup_cons ha) (hp.defined_cons he)).length_le
  rw [List.length_map] at hl
  exact hl

end Path

end Definitions

namespace Expression

variable {H : Halt → Prop} {P Q : Function → Prop} {ctx : Context}

/-- As long as the definitions left to unfold make up for those unfolded, the bound is not met. -/
theorem ends_meaningWithin_of_path (hs : Sound H P Q)
    (hd : ∀ d ∈ ctx.definitions, d.expression.Over P Q) (ha : ctx.definitions.Acyclic)
    {unfoldings : Nat} {seen : List String} {id : String} (hp : ctx.definitions.Path seen id)
    (hl : ctx.definitions.length ≤ seen.length + unfoldings) :
    Ends H Outcome.WellTyped (meaningWithin ctx unfoldings id) := by
  induction unfoldings generalizing seen id with
  | zero =>
      rw [meaningWithin]
      split
      · exact hs.reports _ rfl
      · have hlt := hp.length_lt ha ‹_›
        omega
  | succ n ih =>
      rw [meaningWithin]
      split
      · exact hs.reports _ rfl
      · rename_i e he
        obtain ⟨d, hm, rfl⟩ := Definitions.mem_of_find? he
        refine ends_evalWith hs d.expression (hd d hm) fun next hn => ?_
        refine ih (hp.cons ha he hn) ?_
        rw [List.length_cons]
        omega

/-- **Without circles, evaluation never gives up on a variable.** -/
theorem ends_eval_of_acyclic (hs : Sound H P Q)
    (hd : ∀ d ∈ ctx.definitions, d.expression.Over P Q) (ha : ctx.definitions.Acyclic)
    {e : Expression} (he : e.Over P Q) : Ends H Outcome.WellTyped (e.eval ctx) :=
  ends_evalWith hs e he fun id _ =>
    ends_meaningWithin_of_path hs hd ha (.nil _ id) (Nat.le_add_left _ _)

end Expression

end Abac
