import TargetLink.Proofs.Memory
import TargetLink.Proofs.Transfer.Zeros
import TargetLink.Proofs.Transport.Coupled
import TargetLink.Window.Device
import TargetLink.Window.Recording

/-!
# Clearing through a transport

Windows zero bytes as if they wrote zeros. Above them a transport clears a chunk as it writes zeros to it:
only the log tells the two apart, and with a recording window the kinds of the stores.
-/

namespace TargetLink

/-- Windows that `W` relates take zeroing and writing zeros alike. -/
def ZeroesAsWrites {ω : Type} [Window ω] (W : ω → ω → Prop) : Prop :=
  ∀ {w w'} (offset : WindowOffset) (len : Nat), W w w' →
    StoredAlike W (Window.zero w offset len) (Window.write w' offset (List.replicate len 0))

theorem DeviceWindow.zeroesAsWrites : ZeroesAsWrites (Eq : DeviceWindow → DeviceWindow → Prop) := by
  rintro w _ offset len rfl
  simp only [Window.zero, Window.write, List.length_replicate, Memory.zero_eq_write]
  cases w.check offset len with
  | ok _ => exact .stored rfl
  | error e => exact .refused e

/-- The windows hold the same bytes, whatever stores are on record. -/
structure RecordingWindow.SameBytes (w w' : RecordingWindow) : Prop where
  size_eq : w.size = w'.size
  memory_eq : w.memory = w'.memory

namespace RecordingWindow.SameBytes

/-- What stores that end alike leave is the same, also if their kinds differ. -/
theorem stored {w w' : RecordingWindow} (h : SameBytes w w') (kind kind' : StoreKind)
    (offset : WindowOffset) (bytes : List UInt8) : StoredAlike SameBytes
      (do
        checkRange offset bytes.length w.size
        let stored := { w with memory := w.memory.write offset.toNat bytes }
        return stored.record kind offset bytes.length)
      (do
        checkRange offset bytes.length w'.size
        let stored := { w' with memory := w'.memory.write offset.toNat bytes }
        return stored.record kind' offset bytes.length) := by
  rw [h.size_eq, h.memory_eq]
  cases checkRange offset bytes.length w'.size with
  | ok _ => exact .stored ⟨rfl, rfl⟩
  | error e => exact .refused e

theorem zero_eq (w : RecordingWindow) (offset : WindowOffset) (len : Nat) :
    Window.zero w offset len = (do
      checkRange offset (List.replicate len (0 : UInt8)).length w.size
      let stored := { w with memory := w.memory.write offset.toNat (List.replicate len 0) }
      return stored.record .zero offset (List.replicate len (0 : UInt8)).length) := by
  rw [← Memory.zero_eq_write, List.length_replicate]
  rfl

theorem windowCoupled : WindowCoupled SameBytes where
  size_eq h := h.size_eq
  read_eq offset len h := by
    simp only [Window.read, h.size_eq, h.memory_eq]
  write offset bytes h := h.stored .write .write offset bytes
  zero offset len h := by
    rw [zero_eq, zero_eq]
    exact h.stored .zero .zero offset _
  barrier h := ⟨h.size_eq, h.memory_eq⟩

theorem zeroesAsWrites : ZeroesAsWrites SameBytes := by
  intro w w' offset len h
  rw [zero_eq]
  exact h.stored .zero .write offset _

end RecordingWindow.SameBytes

namespace Transport

variable {ω : Type} [Window ω] {W : ω → ω → Prop} {P : Array Event → Prop}

/-- A transport clears a chunk as it writes zeros to it, and reports the one or the other. -/
theorem clearsAsWrites (hW : WindowCoupled W) (hzeros : ZeroesAsWrites W) (hP : KeptByEvents P)
    (m : Translator) : ClearsAsWrites (Beside W P m m) where
  chunkAlign_eq _ := rfl
  chunkMaxSize_eq _ := rfl
  read := coupled_readChunk hW (Translator.agree_self fun _ => rfl) (fun _ _ => rfl) hP
  write := coupled_writeChunk hW (Translator.agree_self fun _ => rfl) (fun _ _ => rfl) hP
  zeros addr len := by
    change Coupled _ _ (clearChunk addr len) (writeChunk addr (List.replicate len 0))
    unfold clearChunk writeChunk
    rw [List.length_replicate]
    refine (coupled_resolve hP (Translator.agree_self fun _ => rfl) addr len).bind fun offset => ?_
    refine Coupled.bind ?_ fun _ =>
      coupled_commit (W := W) hW.barrier (hzeros offset len) fun _ _ => rfl
    intro s t h
    exact .inl ⟨(), _, _, rfl, rfl, h.window, h.left_eq, h.right_eq, h.resetIssued_eq,
      hP rfl h.left_log, hP rfl h.right_log⟩

/-- It does not matter whether bytes are cleared or zeros are written: the answer is the same, and `W` relates
the windows that are left. -/
theorem clear_like_write (hW : WindowCoupled W) (hzeros : ZeroesAsWrites W) (t : Transport ω)
    (ht : W t.window t.window) (log : Array Event) (addr : TargetAddr) (len : Nat) :
    let cleared := (Job.clear addr len).perform.result ⟨t, log⟩
    let written := (Job.write addr (List.replicate len 0)).perform.result ⟨t, log⟩
    written.1 = cleared.1 ∧
      Beside W (fun _ => True) t.translator t.translator cleared.2 written.2 := by
  intro cleared written
  have hkept : KeptByEvents fun _ => True := fun _ _ _ _ => trivial
  have hcoupled := (clearsAsWrites hW hzeros hkept t.translator).perform addr len
  have hstart : Beside W (fun _ => True) t.translator t.translator ⟨t, log⟩ ⟨t, log⟩ :=
    ⟨ht, rfl, rfl, rfl, trivial, trivial⟩
  exact ⟨hcoupled.result_eq hstart, hcoupled.result hstart⟩

omit [Window ω] in
theorem state_eq_of_beside {m : Translator} {s s' : Logged (Transport ω)}
    (h : Beside Eq P m m s s') : s'.state = s.state := by
  obtain ⟨⟨window, translator, resetIssued⟩, log⟩ := s
  obtain ⟨⟨window', translator', resetIssued'⟩, log'⟩ := s'
  obtain ⟨hwindow, hleft, hright, hissued, -, -⟩ := h
  cases hwindow
  cases hleft
  cases hright
  cases hissued
  rfl

/-- Over a device the same transport is left. -/
theorem clear_eq_write (t : Transport DeviceWindow) (log : Array Event) (addr : TargetAddr) (len : Nat) :
    let cleared := (Job.clear addr len).perform.result ⟨t, log⟩
    let written := (Job.write addr (List.replicate len 0)).perform.result ⟨t, log⟩
    written.1 = cleared.1 ∧ written.2.state = cleared.2.state := by
  intro cleared written
  obtain ⟨hresult, hleft⟩ :=
    clear_like_write windowCoupled_eq DeviceWindow.zeroesAsWrites t rfl log addr len
  exact ⟨hresult, state_eq_of_beside hleft⟩

/-- Over a recording window the same bytes are left. -/
theorem clear_sameBytes_write (t : Transport RecordingWindow) (log : Array Event) (addr : TargetAddr)
    (len : Nat) :
    let cleared := (Job.clear addr len).perform.result ⟨t, log⟩
    let written := (Job.write addr (List.replicate len 0)).perform.result ⟨t, log⟩
    written.1 = cleared.1 ∧
      RecordingWindow.SameBytes cleared.2.state.window written.2.state.window := by
  intro cleared written
  obtain ⟨hresult, hleft⟩ := clear_like_write RecordingWindow.SameBytes.windowCoupled
    RecordingWindow.SameBytes.zeroesAsWrites t ⟨rfl, rfl⟩ log addr len
  exact ⟨hresult, hleft.window⟩

end Transport

end TargetLink
