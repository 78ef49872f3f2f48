import TargetLink.Proofs.Action
import TargetLink.Proofs.Memory
import TargetLink.Proofs.Translator
import TargetLink.Transport
import TargetLink.Window.Recording

/-!
# Chunk requests of a transport

What one request does to a transport over a recording window. A request that does not resolve leaves
the transport as it was. One that resolves lies in the window, so the window takes it, and a store
leaves the window with one more store and one more barrier.
-/

namespace TargetLink

/-- The window after a store and the barrier behind it. -/
def RecordingWindow.fenced (w : RecordingWindow) (kind : StoreKind) (offset : WindowOffset)
    (bytes : List UInt8) : RecordingWindow :=
  Window.barrier
    ({ w with memory := w.memory.write offset.toNat bytes }.record kind offset bytes.length)

namespace Transport

/-- The window has the size that its map was made for. -/
def Fits (t : Transport RecordingWindow) : Prop :=
  t.window.size = t.regions.windowSize

/-- The transport with another window. -/
def withWindow (t : Transport RecordingWindow) (window : RecordingWindow) :
    Transport RecordingWindow :=
  { t with window }

/-- The transport was made for the window, in one way or the other. -/
def IsOver (w : RecordingWindow) (t : Transport RecordingWindow) : Prop :=
  (∃ dramSize policy, ofWindow w dramSize policy = .ok t) ∨
    ∃ regions policy, ofParts w regions policy = .ok t

variable {w : RecordingWindow} {t : Transport RecordingWindow} {s : Logged (Transport RecordingWindow)}
  {addr : TargetAddr} {len : Nat} {bytes : List UInt8} {o : WindowOffset} {e : LinkError}

theorem eq_of_ofParts {regions : RegionMap} {policy : UnmappedPolicy}
    (h : ofParts w regions policy = .ok t) :
    w.size = regions.windowSize ∧ t = ⟨w, ⟨regions, policy⟩, false⟩ := by
  unfold ofParts at h
  split at h
  · next hsize =>
    cases h
    exact ⟨hsize, rfl⟩
  · cases h

/-- A transport starts with the given window, which fits, and before the reset. -/
theorem start_of_isOver (h : IsOver w t) : t.Fits ∧ t.window = w ∧ t.resetIssued = false := by
  have hparts : ∃ regions policy, ofParts w regions policy = .ok t := by
    rcases h with ⟨dramSize, policy, h⟩ | h
    · unfold ofWindow at h
      split at h
      · next regions _ => exact ⟨regions, policy, h⟩
      · cases h
    · exact h
  obtain ⟨regions, policy, h⟩ := hparts
  obtain ⟨hsize, rfl⟩ := eq_of_ofParts h
  exact ⟨hsize, rfl, rfl⟩

/-- A resolved access lies in the window. -/
theorem checkRange_of_resolve (hfits : t.Fits) (h : t.translator.resolve addr len = .ok o) :
    checkRange o len t.window.size = .ok () := by
  obtain ⟨k, ⟨hle, hend⟩, hoff⟩ := Translator.exists_slot_of_resolve h
  have hslot := t.translator.regions.slot_window_le (k := k)
  have hsize : t.window.size.toNat = t.translator.regions.windowSize.toNat := by
    rw [hfits]
    rfl
  rw [checkRange_eq_ok_iff]
  omega

/-! ## Refused requests -/

section Refused

variable {ω : Type} [Window ω] {s : Logged (Transport ω)}

theorem readChunk_of_refused (h : s.state.translator.resolve addr len = .error e) :
    ∃ log, readChunk addr len s = .error e ⟨s.state, log⟩ := by
  simp [readChunk, resolve, h]

theorem writeChunk_of_refused (h : s.state.translator.resolve addr bytes.length = .error e) :
    ∃ log, writeChunk addr bytes s = .error e ⟨s.state, log⟩ := by
  simp [writeChunk, resolve, h]

theorem clearChunk_of_refused (h : s.state.translator.resolve addr len = .error e) :
    ∃ log, clearChunk addr len s = .error e ⟨s.state, log⟩ := by
  simp [clearChunk, resolve, h]

end Refused

/-! ## Resolved requests -/

theorem readChunk_of_resolve (hfits : s.state.Fits)
    (h : s.state.translator.resolve addr len = .ok o) : ∃ log, readChunk addr len s =
      .ok (s.state.window.memory.read o.toNat len) ⟨s.state, log⟩ := by
  have hcheck := checkRange_of_resolve hfits h
  have hread : Window.read s.state.window o len =
      .ok (s.state.window.memory.read o.toNat len) := by
    simp [Window.read, hcheck, bind, Except.bind, pure, Except.pure]
  simp [readChunk, resolve, h, hread]

theorem writeChunk_of_resolve (hfits : s.state.Fits)
    (h : s.state.translator.resolve addr bytes.length = .ok o) : ∃ log, writeChunk addr bytes s =
      .ok () ⟨s.state.withWindow (s.state.window.fenced .write o bytes), log⟩ := by
  have hcheck := checkRange_of_resolve hfits h
  have hwrite : Window.write s.state.window o bytes = .ok ({ s.state.window with
      memory := s.state.window.memory.write o.toNat bytes }.record .write o bytes.length) := by
    simp [Window.write, hcheck, bind, Except.bind, pure, Except.pure]
  simp [writeChunk, resolve, h, hwrite, commit, withWindow, RecordingWindow.fenced]

theorem clearChunk_of_resolve (hfits : s.state.Fits)
    (h : s.state.translator.resolve addr len = .ok o) : ∃ log, clearChunk addr len s = .ok ()
      ⟨s.state.withWindow (s.state.window.fenced .zero o (List.replicate len 0)), log⟩ := by
  have hcheck := checkRange_of_resolve hfits h
  have hzero : Window.zero s.state.window o len = .ok ({ s.state.window with
      memory := s.state.window.memory.write o.toNat (List.replicate len 0) }.record .zero o len) := by
    simp [Window.zero, hcheck, Memory.zero_eq_write, bind, Except.bind, pure, Except.pure]
  simp [clearChunk, resolve, h, hzero, commit, withWindow, RecordingWindow.fenced]

/-! ## Starting the target -/

/-- The word of the interrupt lies where the slot of the interruptor begins. -/
theorem resolve_msip (hfits : t.Fits) : ∃ o, o.toNat + 0x2000 = t.window.size.toNat ∧
    t.translator.resolve ⟨Layout.msipAddr⟩ msipRaised.length = .ok o := by
  obtain ⟨o, hres, hoff⟩ :=
    Translator.resolve_of_covers (by decide) t.translator.regions.covers_msip
  refine ⟨o, ?_, hres⟩
  have hplace : o.toNat + 0x2000000 = t.regions.windowSize.toNat - 0x2000 + 0x2000000 := hoff
  have hfit : t.regions.dramSize.toNat + 0x4000 ≤ t.regions.windowSize.toNat :=
    t.regions.dramSize_add_le
  rw [show t.window.size = t.regions.windowSize from hfits]
  omega

/-- Starting the target is one store of four bytes. -/
theorem reset_of_resolve (hfits : s.state.Fits) (hreset : s.state.resetIssued = false)
    (h : s.state.translator.resolve ⟨Layout.msipAddr⟩ msipRaised.length = .ok o) :
    ∃ log, reset s = .ok () ⟨{ s.state.withWindow (s.state.window.fenced .write o msipRaised) with
      resetIssued := true }, log⟩ := by
  have htranslate := Translator.translate_of_resolve h
  obtain ⟨log, hrun⟩ := writeChunk_of_resolve
    (s := ⟨s.state, (s.log ++ s.state.translator.translateEvents ⟨Layout.msipAddr⟩).push
      (.resetRaised ⟨Layout.msipAddr⟩ o)⟩) hfits h
  refine ⟨log, ?_⟩
  simp only [reset, Action.bind_apply, Action.current_apply, hreset, Bool.false_eq_true, if_false,
    translate, Action.emitAll_apply, htranslate, Action.ofExcept_ok_apply, Action.emit_apply, hrun,
    Action.update_apply]

theorem reset_of_issued (hreset : s.state.resetIssued = true) :
    reset s = .error .resetAlreadyIssued s := by
  simp only [reset, Action.bind_apply, Action.current_apply, hreset, if_true,
    Action.ofExcept_error_apply]

theorem reset_of_error {s' : Logged (Transport RecordingWindow)} (hfits : s.state.Fits)
    (herr : reset s = .error e s') : s' = s := by
  cases hissued : s.state.resetIssued with
  | true =>
    rw [reset_of_issued hissued] at herr
    cases herr
    rfl
  | false =>
    obtain ⟨o, -, hres⟩ := resolve_msip hfits
    obtain ⟨log, hrun⟩ := reset_of_resolve hfits hissued hres
    rw [hrun] at herr
    cases herr

end Transport

end TargetLink
