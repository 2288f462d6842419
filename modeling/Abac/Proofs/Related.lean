import Mathlib.Data.List.Forall2
import Mathlib.Data.List.Perm.Basic
import Abac.Proofs.Inversion

/-!
# Lists that are related element by element

What is said of a whole list here is mostly said of its elements in their
places: what the children of a node come to, what an undecided decision may turn
out to be, which obligation an expression makes.
-/

namespace Abac

variable {α β : Type}

theorem exists_related {R : α → β → Prop} {as : List α} {bs : List β}
    (h : List.Forall₂ R as bs) : ∀ a ∈ as, ∃ b ∈ bs, R a b := by
  induction h with
  | nil => simp
  | cons hr _ ih =>
      intro a hm
      rcases List.mem_cons.mp hm with rfl | hm
      · exact ⟨_, List.mem_cons_self, hr⟩
      · obtain ⟨b, hb, hab⟩ := ih a hm
        exact ⟨b, List.mem_cons_of_mem _ hb, hab⟩

/-- Elements that are each related to something are related to a list of such things. -/
theorem exists_forall₂_iff {R : α → β → Prop} {as : List α} :
    (∃ bs, List.Forall₂ R as bs) ↔ ∀ a ∈ as, ∃ b, R a b := by
  constructor
  · rintro ⟨bs, h⟩ a ha
    obtain ⟨b, -, hab⟩ := exists_related h a ha
    exact ⟨b, hab⟩
  · intro h
    induction as with
    | nil => exact ⟨[], .nil⟩
    | cons a as ih =>
        obtain ⟨⟨b, hb⟩, has⟩ := List.forall_mem_cons.mp h
        obtain ⟨bs, hbs⟩ := ih has
        exact ⟨b :: bs, .cons hb hbs⟩

/-- Lists that are related to related lists are related if their elements are. -/
theorem related_of_related {γ δ : Type} {R : α → β → Prop} {S : α → γ → Prop} {S' : β → δ → Prop}
    {T : γ → δ → Prop} {as : List α} {bs : List β} {cs : List γ} {ds : List δ}
    (hr : List.Forall₂ R as bs) (hs : List.Forall₂ S as cs) (hs' : List.Forall₂ S' bs ds)
    (h : ∀ {a b c d}, R a b → S a c → S' b d → T c d) : List.Forall₂ T cs ds := by
  induction hr generalizing cs ds with
  | nil =>
      cases hs
      cases hs'
      exact .nil
  | cons hab _ ih =>
      cases hs with
      | cons hac hcs =>
          cases hs' with
          | cons hbd hds => exact .cons (h hab hac hbd) (ih hcs hds)

/-- Values of a function of related elements are the values of the function of a related list. -/
theorem forall₂_exists_eq_iff {γ : Type} {R : α → β → Prop} {f : β → γ} {as : List α}
    {cs : List γ} : List.Forall₂ (fun a c => ∃ b, R a b ∧ f b = c) as cs ↔
      ∃ bs, List.Forall₂ R as bs ∧ bs.map f = cs := by
  constructor
  · intro h
    induction h with
    | nil => exact ⟨[], .nil, rfl⟩
    | cons hac _ ih =>
        obtain ⟨b, hab, rfl⟩ := hac
        obtain ⟨bs, hbs, rfl⟩ := ih
        exact ⟨b :: bs, .cons hab hbs, rfl⟩
  · rintro ⟨bs, h, rfl⟩
    exact List.forall₂_map_right_iff.mpr (h.imp fun {_ b} hab => ⟨b, hab, rfl⟩)

/-- A list is computed from another one element by element if no element fails. -/
theorem mapM_eq_ok_iff {ε : Type} {f : α → Except ε β} {as : List α} {bs : List β} :
    as.mapM f = .ok bs ↔ List.Forall₂ (fun a b => f a = .ok b) as bs := by
  induction as generalizing bs with
  | nil =>
      rw [List.mapM_nil, List.forall₂_nil_left_iff]
      exact ⟨fun h => (Except.ok.inj h).symm, fun h => congrArg _ h.symm⟩
  | cons a as ih =>
      rw [List.mapM_cons, Except.bind_eq_ok_iff]
      constructor
      · rintro ⟨b, hb, h⟩
        obtain ⟨rest, hrest, h⟩ := Except.bind_eq_ok_iff.mp h
        cases h
        exact .cons hb (ih.mp hrest)
      · intro h
        cases h with
        | cons hb hrest => exact ⟨_, hb, Except.bind_eq_ok_iff.mpr ⟨_, ih.mpr hrest, rfl⟩⟩

/-- A list of values of a function is the function of a list. -/
theorem exists_map_of_subset {f : α → β} {as : List α} {bs : List β} (h : bs ⊆ as.map f) :
    ∃ cs, cs ⊆ as ∧ bs = cs.map f := by
  induction bs with
  | nil => exact ⟨[], List.nil_subset as, rfl⟩
  | cons b bs ih =>
      obtain ⟨hb, hbs⟩ := List.cons_subset.mp h
      obtain ⟨a, ha, rfl⟩ := List.mem_map.mp hb
      obtain ⟨cs, hcs, rfl⟩ := ih hbs
      exact ⟨a :: cs, List.cons_subset.mpr ⟨ha, hcs⟩, rfl⟩

/-- Lists that are built element by element are related if the elements' lists are. -/
theorem related_flatMap {γ δ : Type} {R : α → β → Prop} {S : γ → δ → Prop} {f : α → List γ}
    {g : β → List δ} {as : List α} {bs : List β} (h : List.Forall₂ R as bs)
    (hfg : ∀ a ∈ as, ∀ b, R a b → List.Forall₂ S (f a) (g b)) :
    List.Forall₂ S (as.flatMap f) (bs.flatMap g) := by
  induction h with
  | nil => exact .nil
  | @cons a b as bs hab _ ih =>
      rw [List.flatMap_cons, List.flatMap_cons]
      refine List.rel_append (hfg a List.mem_cons_self b hab) (ih fun a' ha' => ?_)
      exact hfg a' (List.mem_cons_of_mem a ha')

/-- A function of the first list that agrees with the second one, of which more is known. -/
theorem related_of_map_eq_map {γ : Type} {f : α → γ} {g : β → γ} {P : β → Prop} {as : List α}
    {bs : List β} (h : as.map f = bs.map g) (hp : ∀ b ∈ bs, P b) :
    List.Forall₂ (fun a b => f a = g b ∧ P b) as bs := by
  induction as generalizing bs with
  | nil =>
      obtain rfl : bs = [] := List.map_eq_nil_iff.mp h.symm
      exact .nil
  | cons a as ih =>
      cases bs with
      | nil => cases h
      | cons b bs =>
          obtain ⟨hab, hr⟩ := List.cons.inj h
          exact .cons ⟨hab, hp b List.mem_cons_self⟩
            (ih hr fun b' hb => hp b' (List.mem_cons_of_mem b hb))

/-- The first list in another order, and then related to the second element by element. -/
def Shuffled (R : α → β → Prop) (as : List α) (bs : List β) : Prop :=
  ∃ cs, as.Perm cs ∧ List.Forall₂ R cs bs

theorem Shuffled.map_perm {γ : Type} {R : α → β → Prop} {f : α → γ} {g : β → γ} {as : List α}
    {bs : List β} (h : Shuffled R as bs) (hfg : ∀ a b, R a b → f a = g b) :
    (as.map f).Perm (bs.map g) := by
  obtain ⟨cs, hp, hr⟩ := h
  have hm : cs.map f = bs.map g := by
    rw [← List.forall₂_eq_eq_eq, List.forall₂_map_left_iff, List.forall₂_map_right_iff]
    exact hr.imp fun {_ _} hab => hfg _ _ hab
  exact hm ▸ hp.map f

/-- Lists whose images are permutations of each other can be matched up element by element. -/
theorem shuffled_iff_map_perm {γ : Type} {f : α → γ} {g : β → γ} {as : List α} {bs : List β} :
    Shuffled (fun a b => f a = g b) as bs ↔ (as.map f).Perm (bs.map g) := by
  refine ⟨fun h => h.map_perm fun _ _ => id, fun h => ?_⟩
  have hf : List.Forall₂ (fun a c => f a = c) as (as.map f) :=
    List.forall₂_map_right_iff.mpr (List.forall₂_same.mpr fun _ _ => rfl)
  -- the elements are renamed first and then put in order, which can be done the other way round
  have hcomp : Relation.Comp (List.Forall₂ fun a c => f a = c) List.Perm as (bs.map g) := ⟨_, hf, h⟩
  rw [List.forall₂_comp_perm_eq_perm_comp_forall₂] at hcomp
  obtain ⟨cs, hp, hr⟩ := hcomp
  exact ⟨cs, hp, List.forall₂_map_right_iff.mp hr⟩

end Abac
