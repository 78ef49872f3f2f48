import TargetLink.Proofs.Operation
import TargetLink.Proofs.Translator
import TargetLink.Proofs.Window.Coupled
import TargetLink.Transport

/-!
# Transports side by side

Two transports over windows that take every access alike, with translators that send every access to the
same place or both refuse it, are the same chunk memory, up to the errors of the translators. All that is
built from chunk requests then goes the same way with both.
-/

namespace TargetLink

/-- The translators resolve an access to the same place, or refuse it with errors that `L` relates. -/
def Translator.Agree (L : LinkError → LinkError → Prop) (m m' : Translator) : Prop :=
  ∀ addr len, (∃ o, m.resolve addr len = .ok o ∧ m'.resolve addr len = .ok o) ∨
    ∃ e e', m.resolve addr len = .error e ∧ m'.resolve addr len = .error e' ∧ L e e'

/-- A translator agrees with itself if `L` accepts what it reports. -/
theorem Translator.agree_self {L : LinkError → LinkError → Prop} {m : Translator}
    (h : ∀ {addr len e}, m.resolve addr len = .error e → L e e) : Agree L m m := by
  intro addr len
  cases hres : m.resolve addr len with
  | ok o => exact .inl ⟨o, rfl, rfl⟩
  | error e => exact .inr ⟨e, e, rfl, rfl, h hres⟩

/-- Whatever the sizes are, the interruptor answers for the word of the interrupt. -/
theorem Translator.exists_resolve_msip (m : Translator) :
    ∃ o, m.resolve ⟨Layout.msipAddr⟩ Transport.msipRaised.length = .ok o := by
  obtain ⟨o, hres, -⟩ := Translator.resolve_of_covers (by decide) m.regions.covers_msip
  exact ⟨o, hres⟩

/-- Resolving reports nothing of a mapping. -/
theorem Translator.ofMapping_of_mem_resolveEvents {m : Translator} {addr : TargetAddr} {len : Nat}
    {event : Event} (h : event ∈ m.resolveEvents addr len) : event.ofMapping = false := by
  unfold resolveEvents translateEvents at h
  split at h
  · cases h
  split at h
  · cases h
  split at h <;> simp only [List.mem_append, List.mem_singleton, List.not_mem_nil, false_or] at h
  · rcases h with rfl | rfl <;> rfl
  · rw [h]
    rfl

theorem Translator.ofMapping_of_mem_translateEvents {m : Translator} {addr : TargetAddr}
    {event : Event} (h : event ∈ m.translateEvents addr) : event.ofMapping = false := by
  unfold translateEvents at h
  split at h
  · rw [List.mem_singleton.1 h]
    rfl
  · cases h

/-- The transports have windows that `W` relates and the given translators, agree on whether the target was
started, and have logs with the property `P`. -/
structure Beside {ω ω' : Type} (W : ω → ω' → Prop) (P : Array Event → Prop) (m m' : Translator)
    (s : Logged (Transport ω)) (t : Logged (Transport ω')) : Prop where
  window : W s.state.window t.state.window
  left_eq : s.state.translator = m
  right_eq : t.state.translator = m'
  resetIssued_eq : s.state.resetIssued = t.state.resetIssued
  left_log : P s.log
  right_log : P t.log

namespace Transport

variable {ε ε' ω ω' : Type} {W : ω → ω' → Prop} {P : Array Event → Prop} {m m' : Translator}
  {L : LinkError → LinkError → Prop}

/-- The property of a log is kept by all that a transport reports. -/
def KeptByEvents (P : Array Event → Prop) : Prop :=
  ∀ ⦃log : Array Event⦄ ⦃event : Event⦄, event.ofMapping = false → P log → P (log.push event)

theorem KeptByEvents.append (hP : KeptByEvents P) {events : List Event}
    (h : ∀ event ∈ events, event.ofMapping = false) {log : Array Event} (hlog : P log) :
    P (log ++ events) := by
  induction events generalizing log with
  | nil => simpa using hlog
  | cons event events ih =>
    rw [List.forall_mem_cons] at h
    have hpush : log ++ (event :: events) = log.push event ++ events := by simp
    rw [hpush]
    exact ih h.2 (hP h.1 hlog)

/-! ## Parts of a request -/

section Parts

variable (hP : KeptByEvents P)

include hP in
theorem coupled_resolve (hagree : Translator.Agree L m m') (addr : TargetAddr) (len : Nat) :
    Coupled (Beside W P m m') (Through L (Beside W P m m')) (resolve addr len) (resolve addr len) := by
  intro s t h
  have hleft : P (s.log ++ m.resolveEvents addr len) :=
    hP.append (fun _ => Translator.ofMapping_of_mem_resolveEvents) h.left_log
  have hright : P (t.log ++ m'.resolveEvents addr len) :=
    hP.append (fun _ => Translator.ofMapping_of_mem_resolveEvents) h.right_log
  have hst : Beside W P m m' ⟨s.state, s.log ++ m.resolveEvents addr len⟩
      ⟨t.state, t.log ++ m'.resolveEvents addr len⟩ :=
    ⟨h.window, h.left_eq, h.right_eq, h.resetIssued_eq, hleft, hright⟩
  unfold resolve
  simp only [Action.bind_apply, Action.current_apply, Action.emitAll_apply, h.left_eq, h.right_eq]
  rcases hagree addr len with ⟨o, ho, ho'⟩ | ⟨e, e', he, he', hL⟩
  · rw [ho, ho']
    exact .inl ⟨o, _, _, rfl, rfl, hst⟩
  · rw [he, he']
    exact .inr ⟨e, e', _, _, rfl, rfl, hL, hst⟩

include hP in
theorem coupled_emit {E : ε → ε' → Logged (Transport ω) → Logged (Transport ω') → Prop}
    {event : Event} (hevent : event.ofMapping = false) :
    Coupled (Beside W P m m') E (Action.emit event) (Action.emit event) := by
  intro s t h
  refine .inl ⟨(), _, _, rfl, rfl, ?_⟩
  exact ⟨h.window, h.left_eq, h.right_eq, h.resetIssued_eq, hP hevent h.left_log,
    hP hevent h.right_log⟩

variable [Window ω] [Window ω']

theorem coupled_commit {store : ω → Except WindowError ω} {store' : ω' → Except WindowError ω'}
    (hbarrier : ∀ {w w'}, W w w' → W (Window.barrier w) (Window.barrier w'))
    (hstore : ∀ {w w'}, W w w' → StoredAlike W (store w) (store' w'))
    (herror : ∀ {w w' e}, W w w' → store w = .error e → L (.window e) (.window e)) :
    Coupled (Beside W P m m') (Through L (Beside W P m m'))
      (Action.current >>= fun t => commit (store t.window))
      (Action.current >>= fun t => commit (store' t.window)) := by
  intro s t h
  have hstored := hstore h.window
  have hrefused := fun e => herror (e := e) h.window
  simp only [Action.bind_apply, Action.current_apply, commit]
  generalize store s.state.window = r, store' t.state.window = r' at hstored hrefused ⊢
  cases hstored with
  | stored hww' =>
    refine .inl ⟨(), _, _, rfl, rfl, ?_⟩
    exact ⟨hbarrier hww', h.left_eq, h.right_eq, h.resetIssued_eq, h.left_log, h.right_log⟩
  | refused e => exact .inr ⟨_, _, s, t, rfl, rfl, hrefused e rfl, h⟩

end Parts

/-! ## Requests -/

section Requests

variable [Window ω] [Window ω'] (hW : WindowCoupled W) (hagree : Translator.Agree L m m')
  (hwindow : ∀ {w w' e}, W w w' → Window.Refuses w e → L (.window e) (.window e)) (hP : KeptByEvents P)

include hW hagree hwindow hP

theorem coupled_readChunk (addr : TargetAddr) (len : Nat) :
    Coupled (Beside W P m m') (Through L (Beside W P m m')) (readChunk addr len)
      (readChunk addr len) := by
  refine (coupled_resolve hP hagree addr len).bind fun offset => ?_
  refine (coupled_emit hP rfl).bind fun _ => ?_
  intro s t h
  have hread := hW.read_eq offset len h.window
  simp only [Action.bind_apply, Action.current_apply]
  cases hs : Window.read s.state.window offset len with
  | ok bytes =>
    rw [← hread, hs]
    exact .inl ⟨bytes, s, t, rfl, rfl, h⟩
  | error e =>
    rw [← hread, hs]
    exact .inr ⟨_, _, s, t, rfl, rfl, hwindow h.window (.inl ⟨offset, len, hs⟩), h⟩

theorem coupled_writeChunk (addr : TargetAddr) (bytes : List UInt8) :
    Coupled (Beside W P m m') (Through L (Beside W P m m')) (writeChunk addr bytes)
      (writeChunk addr bytes) := by
  refine (coupled_resolve hP hagree addr bytes.length).bind fun offset => ?_
  refine (coupled_emit hP rfl).bind fun _ => ?_
  refine coupled_commit hW.barrier (hW.write offset bytes) fun hww' hstore => ?_
  exact hwindow hww' (.inr (.inl ⟨offset, bytes, hstore⟩))

theorem coupled_clearChunk (addr : TargetAddr) (len : Nat) :
    Coupled (Beside W P m m') (Through L (Beside W P m m')) (clearChunk addr len)
      (clearChunk addr len) := by
  refine (coupled_resolve hP hagree addr len).bind fun offset => ?_
  refine (coupled_emit hP rfl).bind fun _ => ?_
  refine coupled_commit hW.barrier (hW.zero offset len) fun hww' hstore => ?_
  exact hwindow hww' (.inr (.inr ⟨offset, len, hstore⟩))

theorem coupled_raise (offset : WindowOffset) :
    Coupled (Beside W P m m') (Through L (Beside W P m m'))
      (do
        Action.emit (.resetRaised ⟨Layout.msipAddr⟩ offset)
        writeChunk ⟨Layout.msipAddr⟩ msipRaised
        Action.update fun t : Transport ω => { t with resetIssued := true })
      (do
        Action.emit (.resetRaised ⟨Layout.msipAddr⟩ offset)
        writeChunk ⟨Layout.msipAddr⟩ msipRaised
        Action.update fun t : Transport ω' => { t with resetIssued := true }) := by
  refine (coupled_emit hP rfl).bind fun _ => ?_
  refine (coupled_writeChunk hW hagree hwindow hP _ _).bind fun _ => ?_
  intro s t h
  exact .inl ⟨(), _, _, rfl, rfl, h.window, h.left_eq, h.right_eq, rfl, h.left_log, h.right_log⟩

theorem coupled_reset (hissued : L .resetAlreadyIssued .resetAlreadyIssued) :
    Coupled (Beside W P m m') (Through L (Beside W P m m')) reset reset := by
  intro s t h
  cases hreset : t.state.resetIssued with
  | true =>
    simp only [reset, Action.bind_apply, Action.current_apply, h.resetIssued_eq, hreset, if_true]
    exact .inr ⟨_, _, s, t, rfl, rfl, hissued, h⟩
  | false =>
    -- The word of the interrupt resolves with one translator, so with the other one, and so its
    -- address is translated.
    obtain ⟨o, hres⟩ := m.exists_resolve_msip
    have hres' : m'.resolve ⟨Layout.msipAddr⟩ msipRaised.length = .ok o := by
      rcases hagree ⟨Layout.msipAddr⟩ msipRaised.length with ⟨o', ho, ho'⟩ | ⟨e, e', he, -⟩
      · rw [hres] at ho
        cases ho
        exact ho'
      · rw [hres] at he
        cases he
    have hleft : P (s.log ++ m.translateEvents ⟨Layout.msipAddr⟩) :=
      hP.append (fun _ => Translator.ofMapping_of_mem_translateEvents) h.left_log
    have hright : P (t.log ++ m'.translateEvents ⟨Layout.msipAddr⟩) :=
      hP.append (fun _ => Translator.ofMapping_of_mem_translateEvents) h.right_log
    have hraise := coupled_raise hW hagree hwindow hP o
      ⟨s.state, s.log ++ m.translateEvents ⟨Layout.msipAddr⟩⟩
      ⟨t.state, t.log ++ m'.translateEvents ⟨Layout.msipAddr⟩⟩
      ⟨h.window, h.left_eq, h.right_eq, h.resetIssued_eq, hleft, hright⟩
    simp only [reset, translate, Action.bind_apply, Action.current_apply, h.resetIssued_eq, hreset,
      Bool.false_eq_true, if_false, h.left_eq, h.right_eq, Action.emitAll_apply,
      Translator.translate_of_resolve hres, Translator.translate_of_resolve hres',
      Action.ofExcept_ok_apply] at hraise ⊢
    exact hraise

/-- The transports answer every request alike, up to the errors of their translators. -/
theorem fullyCoupled (hissued : L .resetAlreadyIssued .resetAlreadyIssued) :
    FullyCoupled (Beside W P m m') L where
  chunkAlign_eq _ := rfl
  chunkMaxSize_eq _ := rfl
  read := coupled_readChunk hW hagree hwindow hP
  write := coupled_writeChunk hW hagree hwindow hP
  clear := coupled_clearChunk hW hagree hwindow hP
  reset := coupled_reset hW hagree hwindow hP hissued
  push hevent h := ⟨h.window, h.left_eq, h.right_eq, h.resetIssued_eq, hP hevent h.left_log,
    hP hevent h.right_log⟩

end Requests

end Transport

end TargetLink
