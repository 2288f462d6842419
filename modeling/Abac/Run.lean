import Abac.Context

/-!
# Runs

Evaluating a node of a policy tree ends in a result or a fault. On the way it may record events;
those recorded before a fault are kept.
-/

namespace Abac

/-- Something that happened at a node while a tree was evaluated. -/
structure TraceEvent where
  /-- What kind of thing happened. -/
  label : String
  /-- The node, under the name of its parent if it has one. -/
  node : String
  /-- The outcome, for a reader. -/
  message : String
  deriving DecidableEq, Repr

/-- What an evaluation came to, and the events that were recorded on the way, oldest first. -/
structure Run (α : Type) where
  outcome : Except Fault α
  events : List TraceEvent

namespace Run

variable {α β : Type}

/-- The run that ends at once. -/
protected def pure (a : α) : Run α := ⟨.ok a, []⟩

/-- Go on with what a run came to. A fault ends it, and the events of both parts stay in order. -/
protected def bind (r : Run α) (next : α → Run β) : Run β :=
  match r.outcome with
  | .error f => ⟨.error f, r.events⟩
  | .ok a =>
    let s := next a
    ⟨s.outcome, r.events ++ s.events⟩

instance : Monad Run where
  pure := Run.pure
  bind := Run.bind

/-- A step that records nothing. -/
def lift (outcome : Except Fault α) : Run α := ⟨outcome, []⟩

/-- Record an event, if events are wanted. -/
def record (ctx : Context) (e : TraceEvent) : Run Unit := ⟨.ok (), if ctx.tracing then [e] else []⟩

@[simp] theorem outcome_pure (a : α) : (pure a : Run α).outcome = .ok a := rfl

@[simp] theorem events_pure (a : α) : (pure a : Run α).events = [] := rfl

@[simp] theorem outcome_lift (o : Except Fault α) : (lift o).outcome = o := rfl

@[simp] theorem events_lift (o : Except Fault α) : (lift o).events = [] := rfl

theorem outcome_bind (r : Run α) (next : α → Run β) :
    (r >>= next).outcome = r.outcome.bind fun a => (next a).outcome := by
  simp only [Bind.bind, Run.bind]
  cases r.outcome <;> rfl

theorem bind_of_ok {r : Run α} {a : α} (h : r.outcome = .ok a) (next : α → Run β) :
    r >>= next = ⟨(next a).outcome, r.events ++ (next a).events⟩ := by
  simp only [Bind.bind, Run.bind, h]

theorem bind_of_error {r : Run α} {f : Fault} (h : r.outcome = .error f) (next : α → Run β) :
    r >>= next = ⟨.error f, r.events⟩ := by
  simp only [Bind.bind, Run.bind, h]

/-- A run that ends well has a part that ended well before it. -/
theorem bind_eq_ok {r : Run α} {next : α → Run β} {b : β} (h : (r >>= next).outcome = .ok b) :
    ∃ a, r.outcome = .ok a ∧ (next a).outcome = .ok b := by
  cases ha : r.outcome with
  | error f => rw [bind_of_error ha] at h; cases h
  | ok a => rw [bind_of_ok ha] at h; exact ⟨a, rfl, h⟩

/-- Steps that record nothing make a run that records nothing. -/
theorem events_bind_eq_nil {r : Run α} {next : α → Run β} (hr : r.events = [])
    (hn : ∀ a, (next a).events = []) : (r >>= next).events = [] := by
  cases h : r.outcome with
  | error f => rw [bind_of_error h, hr]
  | ok a => rw [bind_of_ok h, hr, hn]; rfl

theorem outcome_map (f : α → β) (r : Run α) : (f <$> r).outcome = r.outcome.map f := by
  rcases r with ⟨_ | _, _⟩ <;> rfl

theorem events_map (f : α → β) (r : Run α) : (f <$> r).events = r.events := by
  rcases r with ⟨_ | _, es⟩
  · rfl
  · exact List.append_nil es

theorem id_map (r : Run α) : id <$> r = r := by
  rcases r with ⟨_ | _, _⟩ <;> simp [Functor.map, Run.bind, Run.pure]

theorem bind_assoc {γ : Type} (r : Run α) (f : α → Run β) (g : β → Run γ) :
    r >>= f >>= g = r >>= fun a => f a >>= g := by
  simp only [Bind.bind, Run.bind]
  rcases r with ⟨_ | a, es⟩
  · rfl
  · simp only
    rcases (f a).outcome with _ | b <;> simp

instance : LawfulMonad Run :=
  LawfulMonad.mk' Run id_map
    (fun a f => by simp [Bind.bind, Run.bind, Pure.pure, Run.pure]) bind_assoc

end Run

end Abac
