/-!
# Runs that keep a trace

A run notes events while it goes and ends with a value or a failure; what was noted before a failure stays.  The
outcome does not depend on the notes (`outcome_each`, `outcome_fold`, `outcome_bind`).
-/

namespace TableSchema.Analysis

/-- The events that were noted and how it ended. -/
structure Run (ε failure α : Type) where
  events : List ε
  outcome : Except failure α

namespace Run

variable {ε failure α β σ : Type}

/-- Ends at once with a value and notes nothing. -/
protected def pure (a : α) : Run ε failure α := ⟨[], .ok a⟩

/-- Goes on after a run that ended with a value. -/
protected def bind (r : Run ε failure α) (next : α → Run ε failure β) : Run ε failure β :=
  match r.outcome with
  | .error e => ⟨r.events, .error e⟩
  | .ok a => ⟨r.events ++ (next a).events, (next a).outcome⟩

instance : Monad (Run ε failure) where
  pure := Run.pure
  bind := Run.bind

/-- Notes an event. -/
def note (event : ε) : Run ε failure Unit := ⟨[event], .ok ()⟩

/-- Takes a step and, if it succeeds, notes an event. -/
def step (outcome : Except failure α) (event : α → ε) : Run ε failure α :=
  match outcome with
  | .error e => ⟨[], .error e⟩
  | .ok a => ⟨[event a], .ok a⟩

/-- Takes a step for each item and notes an event for each step. -/
def each (f : α → Except failure β) (event : α → β → ε) : List α → Run ε failure (List β)
  | [] => .pure []
  | a :: rest => do
    let b ← step (f a) (event a)
    let bs ← each f event rest
    return b :: bs

/-- Takes a step from state to state for each item and notes an event for each step. -/
def fold (f : σ → α → Except failure σ) (event : α → ε) : σ → List α → Run ε failure σ
  | s, [] => .pure s
  | s, a :: rest => do
    let s ← step (f s a) fun _ => event a
    fold f event s rest

@[simp] theorem outcome_pure (a : α) : (pure a : Run ε failure α).outcome = .ok a := rfl

@[simp] theorem events_pure (a : α) : (pure a : Run ε failure α).events = [] := rfl

@[simp] theorem outcome_bind (r : Run ε failure α) (next : α → Run ε failure β) :
    (r >>= next).outcome = r.outcome >>= fun a => (next a).outcome := by
  show (Run.bind r next).outcome = _
  unfold Run.bind
  cases r.outcome <;> rfl

theorem events_bind_of_ok {r : Run ε failure α} {a : α} (next : α → Run ε failure β) (h : r.outcome = .ok a) :
    (r >>= next).events = r.events ++ (next a).events := by
  show (Run.bind r next).events = _
  simp [Run.bind, h]

theorem events_bind_of_error {r : Run ε failure α} {e : failure} (next : α → Run ε failure β)
    (h : r.outcome = .error e) : (r >>= next).events = r.events := by
  show (Run.bind r next).events = _
  simp [Run.bind, h]

@[simp] theorem outcome_note (event : ε) : (note event : Run ε failure Unit).outcome = .ok () := rfl

@[simp] theorem outcome_step (outcome : Except failure α) (event : α → ε) :
    (step outcome event).outcome = outcome := by
  cases outcome <;> rfl

@[simp] theorem outcome_each (f : α → Except failure β) (event : α → β → ε) (items : List α) :
    (each f event items).outcome = items.mapM f := by
  induction items with
  | nil => rfl
  | cons a rest ih =>
    rw [List.mapM_cons, each, outcome_bind, outcome_step]
    simp only [outcome_bind, ih]
    rfl

@[simp] theorem outcome_fold (f : σ → α → Except failure σ) (event : α → ε) (s : σ) (items : List α) :
    (fold f event s items).outcome = items.foldlM f s := by
  induction items generalizing s with
  | nil => rfl
  | cons a rest ih => simp [fold, ih]

end Run

end TableSchema.Analysis
