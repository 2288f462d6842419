/-!
# Inversion of computations that may fail

What a computation went through when it gives a result or fails, for the ways of building one.
-/

namespace Abac

variable {ε ε' α β : Type}

theorem Except.map_eq_ok_iff {f : α → β} {x : Except ε α} {b : β} :
    x.map f = .ok b ↔ ∃ a, x = .ok a ∧ f a = b := by
  cases x <;> simp [Except.map]

theorem Except.map_eq_error_iff {f : α → β} {x : Except ε α} {e : ε} :
    x.map f = .error e ↔ x = .error e := by
  cases x <;> simp [Except.map]

theorem Except.mapError_eq_ok_iff {f : ε → ε'} {x : Except ε α} {a : α} :
    x.mapError f = .ok a ↔ x = .ok a := by
  cases x with
  | error e => exact ⟨nofun, nofun⟩
  | ok b =>
    exact ⟨fun h => congrArg _ (Except.ok.inj h), fun h => congrArg _ (Except.ok.inj h)⟩

theorem Except.bind_eq_ok_iff {x : Except ε α} {f : α → Except ε β} {b : β} :
    x >>= f = .ok b ↔ ∃ a, x = .ok a ∧ f a = .ok b := by
  cases x <;> simp [bind, Except.bind]

/-- Two computations that begin alike come to the same if they do so after every first result. -/
theorem Except.bind_congr_of_ok {x : Except ε α} {f g : α → Except ε β}
    (h : ∀ a, x = .ok a → f a = g a) : x >>= f = x >>= g := by
  cases x with
  | error e => rfl
  | ok a => exact h a rfl

theorem Except.throw_ne_ok (e : ε) (a : α) : (throw e : Except ε α) ≠ .ok a := by
  simp [throw, throwThe, MonadExceptOf.throw]

/-- A branch whose alternative throws is the one that was taken. -/
theorem Except.ite_throw_eq_ok_iff {c : Prop} [Decidable c] {x : Except ε α} {e : ε} {a : α} :
    (if c then x else throw e) = .ok a ↔ c ∧ x = .ok a := by
  by_cases hc : c <;> simp [hc, Except.throw_ne_ok]

/-- An optional part that was read was read from an optional text. -/
theorem Except.mapM_eq_ok {f : α → Except ε β} {x : Option α} {y : Option β}
    (h : x.mapM f = .ok y) : ∀ b ∈ y, ∃ a ∈ x, f a = .ok b := by
  intro b hb
  cases x with
  | none =>
    obtain rfl : none = y := Except.ok.inj h
    simp at hb
  | some a =>
    rw [Option.mapM_some] at h
    obtain ⟨c, hc, rfl⟩ := Except.map_eq_ok_iff.1 h
    obtain rfl := Option.some.inj hb
    exact ⟨a, rfl, hc⟩

end Abac
