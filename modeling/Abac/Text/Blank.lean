/-!
# Blanks

The characters with the Unicode property `White_Space`, and trimming by them. They matter in three
places: a URI may hold none, names are trimmed of them, and a number inside a date may follow some.
-/

namespace Abac.Text

/-- Whether a character has the property `White_Space`. -/
def isBlank (c : Char) : Bool :=
  (0x09 ≤ c.toNat && c.toNat ≤ 0x0D) || c.toNat == 0x20 || c.toNat == 0x85 || c.toNat == 0xA0 ||
    c.toNat == 0x1680 || (0x2000 ≤ c.toNat && c.toNat ≤ 0x200A) || c.toNat == 0x2028 ||
    c.toNat == 0x2029 || c.toNat == 0x202F || c.toNat == 0x205F || c.toNat == 0x3000

/-- The text without the blanks it starts with. -/
def trimLeft (s : List Char) : List Char := s.dropWhile isBlank

/-- The text without the blanks it ends with. -/
def trimRight (s : List Char) : List Char := (s.reverse.dropWhile isBlank).reverse

/-- The text without the blanks at either end. -/
def trim (s : List Char) : List Char := trimRight (trimLeft s)

/-- A text of blanks only, or of nothing. -/
def Blank (s : List Char) : Prop := ∀ c ∈ s, isBlank c = true

instance (s : List Char) : Decidable (Blank s) := decidable_of_iff _ List.all_eq_true

/-! ## What trimming leaves -/

theorem blank_append {s t : List Char} : Blank (s ++ t) ↔ Blank s ∧ Blank t :=
  List.forall_mem_append

theorem blank_takeWhile (s : List Char) : Blank (s.takeWhile isBlank) :=
  fun _ => List.all_eq_true.mp List.all_takeWhile _

/-- Trimming takes blanks away at either end and nothing else. -/
theorem exists_eq_append_trim (s : List Char) :
    ∃ a b, Blank a ∧ Blank b ∧ s = a ++ (trim s ++ b) := by
  have hleft : s.takeWhile isBlank ++ trimLeft s = s := List.takeWhile_append_dropWhile
  have hright : trim s ++ ((trimLeft s).reverse.takeWhile isBlank).reverse = trimLeft s := by
    rw [trim, trimRight, ← List.reverse_append, List.takeWhile_append_dropWhile,
      List.reverse_reverse]
  have hblank : Blank ((trimLeft s).reverse.takeWhile isBlank).reverse := fun c hc =>
    blank_takeWhile _ c (List.mem_reverse.mp hc)
  exact ⟨_, _, blank_takeWhile s, hblank, by rw [hright, hleft]⟩

theorem trimLeft_blank {s : List Char} (h : Blank s) : trimLeft s = [] := by
  induction s with
  | nil => rfl
  | cons c r ih =>
    obtain ⟨hc, hr⟩ := List.forall_mem_cons.mp h
    rw [trimLeft, List.dropWhile_cons_of_pos hc]
    exact ih hr

/-- Nothing is left exactly of blanks. -/
theorem trim_eq_nil_iff {s : List Char} : trim s = [] ↔ Blank s := by
  constructor
  · intro h
    obtain ⟨a, b, ha, hb, hs⟩ := exists_eq_append_trim s
    rw [hs, h]
    exact blank_append.mpr ⟨ha, hb⟩
  · intro h
    rw [trim, trimLeft_blank h]
    rfl

theorem isEmpty_trim_iff {s : List Char} : (trim s).isEmpty = true ↔ Blank s := by
  rw [List.isEmpty_iff, trim_eq_nil_iff]

end Abac.Text
