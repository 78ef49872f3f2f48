import TargetLink.Event

/-!
# Actions

An action works on a state, adds events to the log, and ends with a value or an error. What it did
before an error stays done: the state and the log it leaves are part of the result either way.
-/

namespace TargetLink

/-- A state with the events logged on the way to it, the oldest first. -/
structure Logged (σ : Type) where
  /-- The state. -/
  state : σ
  /-- The events. -/
  log : Array Event

/-- A state with an empty log. -/
def Logged.start {σ : Type} (state : σ) : Logged σ :=
  ⟨state, #[]⟩

/-- An action on states `σ` that may fail with an `ε`. -/
abbrev Action (ε σ : Type) : Type → Type :=
  EStateM ε (Logged σ)

namespace Action

variable {ε ε' σ τ α : Type}

/-- Adds an event to the log. -/
def emit (e : Event) : Action ε σ Unit :=
  fun s => .ok () { s with log := s.log.push e }

/-- Adds events to the log, in order. -/
def emitAll (es : List Event) : Action ε σ Unit :=
  fun s => .ok () { s with log := s.log ++ es }

/-- The current state. -/
def current : Action ε σ σ :=
  fun s => .ok s.state s

/-- Replaces the state. -/
def put (state : σ) : Action ε σ Unit :=
  fun s => .ok () { s with state }

/-- Changes the state. -/
def update (f : σ → σ) : Action ε σ Unit :=
  fun s => .ok () { s with state := f s.state }

/-- A result that was found without looking at the state. -/
def ofExcept : Except ε α → Action ε σ α
  | .ok a => fun s => .ok a s
  | .error e => fun s => .error e s

/-- The action with its errors seen as errors of another kind. -/
def mapError (f : ε → ε') (x : Action ε σ α) : Action ε' σ α := fun s =>
  match x s with
  | .ok a s => .ok a s
  | .error e s => .error (f e) s

/-- The value or error of the action with the state and log it leaves. -/
def result (x : Action ε σ α) (s : Logged σ) : Except ε α × Logged σ :=
  match x s with
  | .ok a s => (.ok a, s)
  | .error e s => (.error e, s)

end Action

end TargetLink
