import Abac.Value

/-!
# Bags

A bag holds values of one declared data type, in the order in which they were added and each as
often as it was added. The order does not count when bags are compared.
-/

namespace Abac

/-- A bag of values of one data type. -/
structure Bag where
  /-- The declared data type. -/
  dataType : DataType
  /-- The values, in the order in which they were added. -/
  values : List Value
  deriving Repr

/-- A value of the wrong type for a bag. -/
structure BagMismatch where
  /-- The data type of the bag. -/
  expected : DataType
  /-- The data type of the value. -/
  actual : DataType
  deriving DecidableEq, Repr

/-- The wording of a mismatch. -/
def BagMismatch.message (e : BagMismatch) : String :=
  "Bag of " ++ e.expected.shortName ++ " cannot hold a value of " ++ e.actual.shortName

namespace Bag

/-- The bag without values. -/
def empty (t : DataType) : Bag := ⟨t, []⟩

/-- Whether every value is of the declared type. -/
def WellTyped (b : Bag) : Prop := ∀ v ∈ b.values, v.dataType = b.dataType

/-- Add a value, unless it is of another type. -/
def add (b : Bag) (v : Value) : Except BagMismatch Bag :=
  if v.dataType = b.dataType then .ok { b with values := b.values ++ [v] }
  else .error ⟨b.dataType, v.dataType⟩

/-- Add values from first to last; the first of another type decides the error. -/
def addAll (b : Bag) : List Value → Except BagMismatch Bag
  | [] => .ok b
  | v :: rest =>
    match b.add v with
    | .ok b => b.addAll rest
    | .error e => .error e

/-- The bag of the given values. -/
def ofValues (t : DataType) (values : List Value) : Except BagMismatch Bag :=
  (empty t).addAll values

/-- The number of values, each counted as often as it was added. -/
def size (b : Bag) : Nat := b.values.length

/-- Whether there is no value. -/
def isEmpty (b : Bag) : Bool := b.values.isEmpty

/-- How often a value occurs. -/
def count (b : Bag) (v : Value) : Nat := (b.values.filter fun w => w.same v).length

/-- Whether a value occurs. -/
def contains (b : Bag) (v : Value) : Bool := b.values.any fun w => w.same v

/-- The only value, if there is exactly one. -/
def single? (b : Bag) : Option Value :=
  match b.values with
  | [v] => some v
  | _ => none

/-- Whether two bags have the same type and hold the same values equally often. -/
def equal (a b : Bag) : Bool :=
  a.dataType == b.dataType && a.size == b.size &&
    a.values.all fun v => a.count v == b.count v

instance : BEq Bag := ⟨equal⟩

theorem wellTyped_empty (t : DataType) : (empty t).WellTyped := by
  intro v h
  simp [empty] at h

theorem WellTyped.add {a b : Bag} {v : Value} (ha : a.WellTyped) (h : a.add v = .ok b) :
    b.WellTyped := by
  unfold Bag.add at h
  split at h
  · rename_i hv
    cases h
    intro w hw
    rcases List.mem_append.1 hw with hw | hw
    · exact ha w hw
    · rw [List.mem_singleton.1 hw]; exact hv
  · cases h

end Bag

end Abac
