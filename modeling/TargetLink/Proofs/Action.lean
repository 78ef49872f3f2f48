import TargetLink.Action

/-!
# Running an action

What each building block of an action does to a state. With these, a program that is made of them is
run by rewriting, and a proof about it looks only at the requests that it makes.
-/

namespace TargetLink.Action

variable {ε σ α β : Type}

/-- A sequence goes on from where its first part ended, and ends with that part's error. -/
@[simp] theorem bind_apply (x : EStateM ε σ α) (f : α → EStateM ε σ β) (s : σ) :
    (x >>= f) s = match x s with
      | .ok a s' => f a s'
      | .error e s' => .error e s' := rfl

@[simp] theorem pure_apply (a : α) (s : σ) : (pure a : EStateM ε σ α) s = .ok a s := rfl

@[simp] theorem emit_apply (e : Event) (s : Logged σ) :
    (emit e : Action ε σ Unit) s = .ok () { s with log := s.log.push e } := rfl

@[simp] theorem emitAll_apply (es : List Event) (s : Logged σ) :
    (emitAll es : Action ε σ Unit) s = .ok () { s with log := s.log ++ es } := rfl

@[simp] theorem current_apply (s : Logged σ) : (current : Action ε σ σ) s = .ok s.state s := rfl

@[simp] theorem put_apply (state : σ) (s : Logged σ) :
    (put state : Action ε σ Unit) s = .ok () { s with state } := rfl

@[simp] theorem update_apply (f : σ → σ) (s : Logged σ) :
    (update f : Action ε σ Unit) s = .ok () { s with state := f s.state } := rfl

@[simp] theorem ofExcept_ok_apply (a : α) (s : Logged σ) :
    (ofExcept (.ok a) : Action ε σ α) s = .ok a s := rfl

@[simp] theorem ofExcept_error_apply (e : ε) (s : Logged σ) :
    (ofExcept (.error e) : Action ε σ α) s = .error e s := rfl

@[simp] theorem ofExcept_mapError_ok_apply {ε' : Type} (f : ε' → ε) (a : α) (s : Logged σ) :
    (ofExcept (Except.mapError f (.ok a)) : Action ε σ α) s = .ok a s := rfl

@[simp] theorem ofExcept_mapError_error_apply {ε' : Type} (f : ε' → ε) (e : ε') (s : Logged σ) :
    (ofExcept (Except.mapError f (.error e)) : Action ε σ α) s = .error (f e) s := rfl

/-- A sequence that succeeds has succeeded in both parts. -/
theorem bind_eq_ok {x : EStateM ε σ α} {f : α → EStateM ε σ β} {b : β} {s t : σ}
    (h : (x >>= f) s = .ok b t) : ∃ a s', x s = .ok a s' ∧ f a s' = .ok b t := by
  rw [bind_apply] at h
  cases hx : x s with
  | ok a s' =>
    rw [hx] at h
    exact ⟨a, s', rfl, h⟩
  | error e s' =>
    rw [hx] at h
    cases h

/-- A sequence that fails has failed in its first part or behind it. -/
theorem bind_eq_error {x : EStateM ε σ α} {f : α → EStateM ε σ β} {e : ε} {s t : σ}
    (h : (x >>= f) s = .error e t) :
    x s = .error e t ∨ ∃ a s', x s = .ok a s' ∧ f a s' = .error e t := by
  rw [bind_apply] at h
  cases hx : x s with
  | ok a s' =>
    rw [hx] at h
    exact .inr ⟨a, s', rfl, h⟩
  | error e' s' =>
    rw [hx] at h
    cases h
    exact .inl rfl

theorem result_of_ok {x : Action ε σ α} {a : α} {s s' : Logged σ} (h : x s = .ok a s') :
    Action.result x s = (.ok a, s') := by
  simp only [result, h]

theorem result_of_error {x : Action ε σ α} {e : ε} {s s' : Logged σ} (h : x s = .error e s') :
    Action.result x s = (.error e, s') := by
  simp only [result, h]

theorem mapError_of_ok {ε' : Type} {x : Action ε σ α} {a : α} {s s' : Logged σ} (f : ε → ε')
    (h : x s = .ok a s') : mapError f x s = .ok a s' := by
  simp only [mapError, h]

end TargetLink.Action
