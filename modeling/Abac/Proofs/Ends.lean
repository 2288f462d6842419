import Abac.Function.FirstOrder

/-!
# How functions end

A function comes to an outcome or halts. What is proved here of all standard
functions that take no function is one sentence with two halves: the outcome is
of the type that the function declares, and a halt is a complaint of the
function. It is a status then, and none of the breaches that stand where a step
relies on what was checked before: no argument is taken that is not there, and no
value is put into a bag where it does not belong.

Functions are built from a few steps, which take an argument, compare two values
or fill a bag. `Ends` says of a step what it comes to and how it may halt, the
rules below it combine steps, and each step has one lemma. The functions follow
by going through their definitions.
-/

namespace Abac

/-- A status that is not OK, or a fault of some kind. -/
def Halt.ReportsOr (F : Fault → Prop) : Halt → Prop
  | .status s => s.isOk = false
  | .fault f => F f

/-- A status that is not OK. -/
def Halt.Reports : Halt → Prop := ReportsOr fun _ => False

theorem Halt.ReportsOr.mono {F F' : Fault → Prop} (hF : ∀ f, F f → F' f) {h : Halt}
    (hr : h.ReportsOr F) : h.ReportsOr F' := by
  cases h with
  | status s => exact hr
  | fault f => exact hF f hr

theorem Halt.Reports.or {F : Fault → Prop} {h : Halt} (hr : h.Reports) : h.ReportsOr F :=
  ReportsOr.mono (fun _ => False.elim) hr

/-- A complaint of the function `id`. -/
def Halt.ComplaintOf (id : Identifier) (h : Halt) : Prop :=
  ∃ c : Complaint, h = .status (c.status id)

/-- The message of a complaint opens with the name of the function. -/
theorem Complaint.message_status (id : Identifier) (c : Complaint) :
    (c.status id).message = some ("function:" ++ id.shortName ++ " " ++ c.message) := rfl

/-- A complaint of some function. -/
def Halt.IsComplaint (h : Halt) : Prop := ∃ id, h.ComplaintOf id

theorem Halt.IsComplaint.reports {h : Halt} (hc : h.IsComplaint) : h.Reports := by
  obtain ⟨id, c, rfl⟩ := hc
  rfl

/-- The evaluation comes to something that satisfies `p`, or halts as `H` allows. -/
def Ends {α : Type} (H : Halt → Prop) (p : α → Prop) : Except Halt α → Prop
  | .ok a => p a
  | .error h => H h

namespace Ends

variable {α β : Type} {H H' : Halt → Prop} {p p' : α → Prop} {q : β → Prop} {x : Except Halt α}

theorem mono (hx : Ends H p x) (hH : ∀ h, H h → H' h) (hp : ∀ a, p a → p' a) : Ends H' p' x := by
  cases x with
  | ok a => exact hp a hx
  | error h => exact hH h hx

theorem of_ok (hx : Ends H p x) {a : α} (h : x = .ok a) : p a := by
  rw [h] at hx
  exact hx

theorem of_error (hx : Ends H p x) {halt : Halt} (h : x = .error halt) : H halt := by
  rw [h] at hx
  exact hx

theorem of_fault {F : Fault → Prop} (hx : Ends (Halt.ReportsOr F) p x) {f : Fault}
    (h : x = .error (.fault f)) : F f := hx.of_error h

theorem imp (hx : Ends H p x) (hp : ∀ a, p a → p' a) : Ends H p' x := hx.mono (fun _ h => h) hp

theorem allow (hx : Ends H p x) (hH : ∀ h, H h → H' h) : Ends H' p x := hx.mono hH fun _ h => h

theorem bind {f : α → Except Halt β} (hx : Ends H p x) (hf : ∀ a, p a → Ends H q (f a)) :
    Ends H q (x >>= f) := by
  cases x with
  | ok a => exact hf a hx
  | error h => exact hx

theorem map {f : α → β} (hx : Ends H p x) (hf : ∀ a, p a → q (f a)) : Ends H q (x.map f) := by
  cases x with
  | ok a => exact hf a hx
  | error h => exact hx

/-- Nothing is said of how it ends. -/
theorem trivial (x : Except Halt α) : Ends (fun _ => True) (fun _ => True) x := by
  cases x <;> exact True.intro

end Ends

theorem ends_complain {α : Type} {p : α → Prop} (id : Identifier) (c : Complaint) :
    Ends (Halt.ComplaintOf id) p (complain id c : Except Halt α) := ⟨c, rfl⟩

/-! ## Types of outcomes -/

/-- A single value of a type, or a bag of it whose members all are of the type. -/
def Outcome.HasType (t : DataType) : Bool → Outcome → Prop
  | false, .value v => v.dataType = t
  | true, .bag b => b.dataType = t ∧ b.WellTyped
  | _, _ => False

/-- A bag holds nothing but values of its type. -/
def Outcome.WellTyped : Outcome → Prop
  | .value _ => True
  | .bag b => b.WellTyped

/-- A bag among the arguments holds nothing but values of its type. -/
def Operand.WellTyped {φ : Type} : Operand φ → Prop
  | .bag b => b.WellTyped
  | _ => True

theorem Outcome.HasType.wellTyped {t : DataType} {isBag : Bool} {o : Outcome}
    (h : o.HasType t isBag) : o.WellTyped := by
  cases o with
  | value v => exact True.intro
  | bag b =>
      cases isBag with
      | false => exact h.elim
      | true => exact h.2

/-- A single truth value is one of the two. -/
theorem Outcome.eq_bool_of_hasType {o : Outcome} (h : o.HasType .boolean false) :
    ∃ b, o = .bool b := by
  cases o with
  | bag b => exact h.elim
  | value v =>
      cases v with
      | boolean b => exact ⟨b, rfl⟩
      | _ => cases h

/-! ## Filling bags -/

/-- A bag of a type. -/
def Bag.IsOf (t : DataType) (b : Bag) : Prop := b.dataType = t ∧ b.WellTyped

theorem Bag.isOf_empty (t : DataType) : (Bag.empty t).IsOf t := ⟨rfl, Bag.wellTyped_empty t⟩

theorem Bag.IsOf.add {t : DataType} {b c : Bag} {v : Value} (hb : b.IsOf t)
    (h : b.add v = .ok c) : c.IsOf t := by
  have hc := hb.2.add h
  rw [Bag.add] at h
  split at h
  · obtain rfl := Except.ok.inj h
    exact ⟨hb.1, hc⟩
  · cases h

theorem Bag.wellTyped_of_addAll {a b : Bag} (ha : a.WellTyped) {vs : List Value}
    (h : a.addAll vs = .ok b) : b.WellTyped := by
  induction vs generalizing a with
  | nil => exact Except.ok.inj h ▸ ha
  | cons v rest ih =>
      rw [addAll] at h
      cases hc : a.add v with
      | ok c => rw [hc] at h; exact ih (ha.add hc) h
      | error e => rw [hc] at h; cases h

theorem Bag.wellTyped_of_ofValues {t : DataType} {vs : List Value} {b : Bag}
    (h : ofValues t vs = .ok b) : b.WellTyped :=
  wellTyped_of_addAll (wellTyped_empty t) h

theorem Bag.IsOf.dataType_of_mem {t : DataType} {b : Bag} {v : Value} (hb : b.IsOf t)
    (h : v ∈ b.values) : v.dataType = t := (hb.2 v h).trans hb.1

theorem Bag.mem_of_single? {b : Bag} {v : Value} (h : b.single? = some v) : v ∈ b.values := by
  rw [single?] at h
  split at h
  · rename_i hv
    rw [hv, Option.some.inj h]
    exact List.mem_singleton_self v
  · cases h

theorem ends_put {H : Halt → Prop} {t : DataType} {b : Bag} (hb : b.IsOf t) {v : Value}
    (hv : v.dataType = t) : Ends H (Bag.IsOf t) (put b v) := by
  rw [put]
  cases h : b.add v with
  | ok c => exact hb.add h
  | error e =>
      rw [Bag.add, if_pos (hv.trans hb.1.symm)] at h
      cases h

theorem ends_putAll {H : Halt → Prop} {t : DataType} {b : Bag} (hb : b.IsOf t) {vs : List Value}
    (hv : ∀ v ∈ vs, v.dataType = t) : Ends H (Bag.IsOf t) (putAll b vs) := by
  induction vs generalizing b with
  | nil => exact hb
  | cons v rest ih =>
      obtain ⟨hv, hr⟩ := List.forall_mem_cons.mp hv
      have hp := ends_put (H := H) hb hv
      rw [putAll]
      cases h : put b v with
      | ok c => exact ih (hp.of_ok h) hr
      | error halt => exact hp.of_error h

/-- Values of the bag's type all go in, in their order. -/
theorem putAll_of_dataType {b : Bag} {vs : List Value} (h : ∀ v ∈ vs, v.dataType = b.dataType) :
    putAll b vs = .ok ⟨b.dataType, b.values ++ vs⟩ := by
  induction vs generalizing b with
  | nil => rw [putAll, List.append_nil]
  | cons v rest ih =>
      obtain ⟨hv, hr⟩ := List.forall_mem_cons.mp h
      have hb : put b v = .ok ⟨b.dataType, b.values ++ [v]⟩ := by
        rw [put, Bag.add, if_pos hv]
      rw [putAll, hb, List.append_cons b.values v rest]
      exact ih hr

/-! ## Taking arguments -/

section

variable (id : Identifier)

theorem ends_takeValue (t : DataType) (index : Nat) (a : Option Argument) :
    Ends (Halt.ComplaintOf id) (fun v => v.dataType = t) (takeValue id t index a) := by
  unfold takeValue
  split
  · split
    · assumption
    · exact ends_complain id _
  · exact ends_complain id _
  · exact ends_complain id _

theorem ends_takeBag (t : DataType) (index : Nat) (a : Option Argument) :
    Ends (Halt.ComplaintOf id) (fun b => a = some (.bag b) ∧ b.dataType = t)
      (takeBag id t index a) := by
  unfold takeBag
  split
  · split
    · exact ⟨rfl, ‹_›⟩
    · exact ends_complain id _
  · exact ends_complain id _
  · exact ends_complain id _

theorem ends_valueAt (args : List Argument) (index : Nat) (t : DataType) :
    Ends (Halt.ComplaintOf id) (fun v => v.dataType = t) (valueAt id args index t) :=
  ends_takeValue id t index _

theorem ends_bagAt {args : List Argument} (ha : ∀ a ∈ args, a.WellTyped) (index : Nat)
    (t : DataType) : Ends (Halt.ComplaintOf id) (Bag.IsOf t) (bagAt id args index t) :=
  (ends_takeBag id t index _).imp fun _ hb => ⟨hb.2, ha _ (List.mem_of_getElem? hb.1)⟩

theorem ends_takeValues (t : DataType) (index : Nat) (args : List Argument) :
    Ends (Halt.ComplaintOf id) (fun vs => ∀ v ∈ vs, v.dataType = t)
      (takeValues id t index args) := by
  induction args generalizing index with
  | nil => exact List.forall_mem_nil _
  | cons a rest ih =>
      have hv := ends_takeValue id t index (some a)
      rw [takeValues]
      cases h : takeValue id t index (some a) with
      | ok v => exact (ih (index + 1)).map fun _ hr => List.forall_mem_cons.mpr ⟨hv.of_ok h, hr⟩
      | error halt => exact hv.of_error h

/-- One bag is taken for each argument. -/
theorem ends_takeBags (t : DataType) (index : Nat) {args : List Argument}
    (ha : ∀ a ∈ args, a.WellTyped) :
    Ends (Halt.ComplaintOf id) (fun bags => bags.length = args.length ∧ ∀ b ∈ bags, b.IsOf t)
      (takeBags id t index args) := by
  induction args generalizing index with
  | nil => exact ⟨rfl, List.forall_mem_nil _⟩
  | cons a rest ih =>
      obtain ⟨ha, hr⟩ := List.forall_mem_cons.mp ha
      have hb := ends_takeBag id t index (some a)
      rw [takeBags]
      cases h : takeBag id t index (some a) with
      | ok b =>
          obtain ⟨hab, ht⟩ := hb.of_ok h
          obtain rfl := Option.some.inj hab
          exact (ih (index + 1) hr).map fun _ hr =>
            ⟨congrArg (· + 1) hr.1, List.forall_mem_cons.mpr ⟨⟨ht, ha⟩, hr.2⟩⟩
      | error halt => exact hb.of_error h

theorem ends_takeBooleans (index : Nat) (args : List Argument) :
    Ends (Halt.ComplaintOf id) (fun _ => True) (takeBooleans id index args) :=
  (ends_takeValues id .boolean index args).map fun _ _ => True.intro

/-! ## Comparing values -/

theorem ends_compared {α : Type} (x : Except CompareError α) :
    Ends (Halt.ComplaintOf id) (fun _ => True) (compared id x) := by
  cases x with
  | ok a => exact True.intro
  | error e => exact ends_complain id _

theorem ends_hasEqual (v : Value) (ms : List Value) :
    Ends (Halt.ComplaintOf id) (fun _ => True) (hasEqual id v ms) := by
  induction ms with
  | nil => exact True.intro
  | cons m rest ih =>
      have hc := ends_compared id (m.equals v)
      rw [hasEqual]
      cases h : compared id (m.equals v) with
      | error halt => exact hc.of_error h
      | ok b =>
          cases b with
          | true => exact True.intro
          | false => exact ih

/-! ## Bags as sets -/

theorem ends_allHaveEqual (other vs : List Value) :
    Ends (Halt.ComplaintOf id) (fun _ => True) (allHaveEqual id other vs) := by
  induction vs with
  | nil => exact True.intro
  | cons v rest ih =>
      have he := ends_hasEqual id v other
      rw [allHaveEqual]
      cases h : hasEqual id v other with
      | error halt => exact he.of_error h
      | ok b =>
          cases b with
          | true => exact ih
          | false => exact True.intro

theorem ends_someHasEqual (other vs : List Value) :
    Ends (Halt.ComplaintOf id) (fun _ => True) (someHasEqual id other vs) := by
  induction vs with
  | nil => exact True.intro
  | cons v rest ih =>
      have he := ends_hasEqual id v other
      rw [someHasEqual]
      cases h : hasEqual id v other with
      | error halt => exact he.of_error h
      | ok b =>
          cases b with
          | true => exact True.intro
          | false => exact ih

theorem ends_putDistinct {t : DataType} {b : Bag} (hb : b.IsOf t) {vs : List Value}
    (hv : ∀ v ∈ vs, v.dataType = t) :
    Ends (Halt.ComplaintOf id) (Bag.IsOf t) (putDistinct id b vs) := by
  induction vs generalizing b with
  | nil => exact hb
  | cons v rest ih =>
      obtain ⟨hv, hr⟩ := List.forall_mem_cons.mp hv
      have he := ends_hasEqual id v b.values
      have hp := ends_put (H := Halt.ComplaintOf id) hb hv
      rw [putDistinct]
      cases h : hasEqual id v b.values with
      | error halt => exact he.of_error h
      | ok known =>
          cases known with
          | true => exact ih hb hr
          | false =>
              cases hc : put b v with
              | error halt => exact hp.of_error hc
              | ok c => exact ih (hp.of_ok hc) hr

theorem ends_putShared {t : DataType} {b : Bag} (hb : b.IsOf t) (other : List Value)
    {vs : List Value} (hv : ∀ v ∈ vs, v.dataType = t) :
    Ends (Halt.ComplaintOf id) (Bag.IsOf t) (putShared id other b vs) := by
  induction vs generalizing b with
  | nil => exact hb
  | cons v rest ih =>
      obtain ⟨hv, hr⟩ := List.forall_mem_cons.mp hv
      have he := ends_hasEqual id v other
      have hk := ends_hasEqual id v b.values
      have hp := ends_put (H := Halt.ComplaintOf id) hb hv
      rw [putShared]
      cases h : hasEqual id v other with
      | error halt => exact he.of_error h
      | ok shared =>
          cases shared with
          | false => exact ih hb hr
          | true =>
              cases h' : hasEqual id v b.values with
              | error halt => exact hk.of_error h'
              | ok known =>
                  cases known with
                  | true => exact ih hb hr
                  | false =>
                      cases hc : put b v with
                      | error halt => exact hp.of_error hc
                      | ok c => exact ih (hp.of_ok hc) hr

theorem ends_putAllDistinct {t : DataType} {b : Bag} (hb : b.IsOf t) {bags : List Bag}
    (hs : ∀ c ∈ bags, c.IsOf t) :
    Ends (Halt.ComplaintOf id) (Bag.IsOf t) (putAllDistinct id b bags) := by
  induction bags generalizing b with
  | nil => exact hb
  | cons c rest ih =>
      obtain ⟨hc, hr⟩ := List.forall_mem_cons.mp hs
      have hd := ends_putDistinct id hb fun v hv => hc.dataType_of_mem hv
      rw [putAllDistinct]
      cases h : putDistinct id b c.values with
      | error halt => exact hd.of_error h
      | ok d => exact ih (hd.of_ok h) hr

end

end Abac
