import TargetLink.Proofs.Link
import TargetLink.Proofs.Memory
import TargetLink.Proofs.Transport.Coupled
import TargetLink.Proofs.Window.Device
import TargetLink.Window.Recording

/-!
# Recording windows stand in for devices

While a device is mapped, a recording window of the same size takes every access as the mapping does, also
where the target stores bytes behind the back of both. What only a device window has is an end: once it is
closed it refuses everything, and its device is left to the target.
-/

namespace TargetLink

/-! ## What is done to a window -/

/-- A window into whose bytes the target stores on its own. -/
class SharedWindow (ω : Type) where
  poke : ω → Nat → List UInt8 → ω

instance : SharedWindow RecordingWindow :=
  ⟨RecordingWindow.poke⟩

instance : SharedWindow DeviceWindow :=
  ⟨DeviceWindow.poke⟩

/-- What host and target do to a window while the host has it. -/
inductive WindowStep where
  | size
  | read (offset : WindowOffset) (len : Nat)
  | write (offset : WindowOffset) (bytes : List UInt8)
  | zero (offset : WindowOffset) (len : Nat)
  | barrier
  /-- The target stores bytes, which appear at an index of the window. -/
  | poke (start : Nat) (bytes : List UInt8)

/-- What the host hears of a step. -/
inductive WindowAnswer where
  | size (size : UInt64)
  | bytes (bytes : List UInt8)
  | done

namespace WindowStep

variable {ω : Type} [Window ω] [SharedWindow ω]

/-- The answer with the window that the step leaves, unless the window refuses. -/
def perform (w : ω) : WindowStep → Except WindowError (WindowAnswer × ω)
  | .size => .ok (.size (Window.size w), w)
  | .read offset len => (Window.read w offset len).map fun bytes => (.bytes bytes, w)
  | .write offset bytes => (Window.write w offset bytes).map fun w' => (.done, w')
  | .zero offset len => (Window.zero w offset len).map fun w' => (.done, w')
  | .barrier => .ok (.done, Window.barrier w)
  | .poke start bytes => .ok (.done, SharedWindow.poke w start bytes)

/-- What the host hears. -/
def answer (step : WindowStep) (w : ω) : Except WindowError WindowAnswer :=
  (step.perform w).map (·.1)

/-- The window after the step, whether it was refused or not. -/
def next (w : ω) (step : WindowStep) : ω :=
  match step.perform w with
  | .ok (_, w') => w'
  | .error _ => w

/-- The window after some steps. -/
def run (steps : List WindowStep) (w : ω) : ω :=
  steps.foldl next w

theorem next_of_error {w : ω} {step : WindowStep} {e : WindowError} (h : step.answer w = .error e) :
    step.next w = w := by
  unfold answer at h
  unfold next
  cases hp : step.perform w with
  | error e' => rfl
  | ok p =>
    rw [hp] at h
    cases h

/-- Windows that take every access alike, and stay so when the target stores bytes, take every step
alike. -/
theorem alike {ω' : Type} [Window ω'] [SharedWindow ω'] {W : ω → ω' → Prop} (hW : WindowCoupled W)
    (hpoke : ∀ {w w'} (start : Nat) (bytes : List UInt8), W w w' →
      W (SharedWindow.poke w start bytes) (SharedWindow.poke w' start bytes))
    {w : ω} {w' : ω'} (h : W w w') (step : WindowStep) :
    step.answer w = step.answer w' ∧ W (step.next w) (step.next w') := by
  have hstore {r : Except WindowError ω} {r' : Except WindowError ω'} (hr : StoredAlike W r r')
      {s : WindowStep} (hs : s.perform w = r.map fun w => (.done, w))
      (hs' : s.perform w' = r'.map fun w => (.done, w)) :
      s.answer w = s.answer w' ∧ W (s.next w) (s.next w') := by
    unfold answer next
    rw [hs, hs']
    cases hr with
    | stored h' => exact ⟨rfl, h'⟩
    | refused e => exact ⟨rfl, h⟩
  cases step with
  | size =>
    have hsize := hW.size_eq h
    refine ⟨?_, h⟩
    change Except.ok (WindowAnswer.size _) = Except.ok (WindowAnswer.size _)
    rw [hsize]
  | read offset len =>
    have hread := hW.read_eq offset len h
    unfold answer next
    simp only [perform, hread]
    cases Window.read w' offset len with
    | ok bytes => exact ⟨rfl, h⟩
    | error e => exact ⟨rfl, h⟩
  | write offset bytes => exact hstore (hW.write offset bytes h) rfl rfl
  | zero offset len => exact hstore (hW.zero offset len h) rfl rfl
  | barrier => exact ⟨rfl, hW.barrier h⟩
  | poke start bytes => exact ⟨rfl, hpoke start bytes h⟩

end WindowStep

/-- What host and target do to a device window, closed or not. -/
inductive DeviceStep where
  | step (step : WindowStep)
  | close

namespace DeviceStep

/-- The window after the step, whether it was refused or not. -/
def next (w : DeviceWindow) : DeviceStep → DeviceWindow
  | .step hosted => hosted.next w
  | .close => w.close

/-- The window after some steps. -/
def run (steps : List DeviceStep) (w : DeviceWindow) : DeviceWindow :=
  steps.foldl next w

/-- What the target does to the device in a step. -/
def poked (device : FileData) : DeviceStep → FileData
  | .step (.poke start bytes) => device.write start bytes
  | _ => device

end DeviceStep

/-! ## While the device is mapped -/

/-- The device is mapped at the size of the recording window and has all bytes of the mapping, and both
show the same bytes. -/
structure Mirrors (size : UInt64) (d : DeviceWindow) (m : RecordingWindow) : Prop where
  mapping_eq : ∃ reach, d.mapping = some ⟨size, reach⟩
  covered : size.toNat ≤ d.device.size
  size_eq : m.size = size
  byteAt_eq : ∀ i < size.toNat, d.device.memory.byteAt i = m.memory.byteAt i

theorem FileData.memory_write (f : FileData) (start : Nat) (bytes : List UInt8) :
    (f.write start bytes).memory = f.memory.write start bytes := by
  unfold FileData.write
  split
  · next hnil => rw [hnil, Memory.write]
  · rfl

theorem FileData.size_le_write (f : FileData) (start : Nat) (bytes : List UInt8) :
    f.size ≤ (f.write start bytes).size := by
  unfold FileData.write
  split
  · exact Nat.le_refl _
  · exact Nat.le_max_left _ _

/-- Writing the same bytes at one place of two memories leaves them as much alike as they were. -/
theorem Memory.byteAt_write_congr {m m' : Memory} {i : Nat} (h : m.byteAt i = m'.byteAt i)
    (start : Nat) (bytes : List UInt8) : (m.write start bytes).byteAt i = (m'.write start bytes).byteAt i := by
  rw [byteAt_write, byteAt_write, h]

namespace Mirrors

variable {size : UInt64} {d : DeviceWindow} {m : RecordingWindow}

theorem check_eq (h : Mirrors size d m) (offset : WindowOffset) (len : Nat) :
    d.check offset len = checkRange offset len m.size := by
  obtain ⟨reach, hmapping⟩ := h.mapping_eq
  rw [DeviceWindow.check_of_covered hmapping h.covered, h.size_eq]

theorem write (h : Mirrors size d m) (start : Nat) (bytes : List UInt8) :
    Mirrors size (d.withMemory (d.device.memory.write start bytes))
      { m with memory := m.memory.write start bytes } where
  mapping_eq := h.mapping_eq
  covered := h.covered
  size_eq := h.size_eq
  byteAt_eq i hi := Memory.byteAt_write_congr (h.byteAt_eq i hi) start bytes

theorem poke (h : Mirrors size d m) (start : Nat) (bytes : List UInt8) :
    Mirrors size (d.poke start bytes) (m.poke start bytes) where
  mapping_eq := h.mapping_eq
  covered := Nat.le_trans h.covered (FileData.size_le_write _ _ _)
  size_eq := h.size_eq
  byteAt_eq i hi := by
    change (d.device.write start bytes).memory.byteAt i = (m.memory.write start bytes).byteAt i
    rw [FileData.memory_write]
    exact Memory.byteAt_write_congr (h.byteAt_eq i hi) start bytes

theorem read_eq (h : Mirrors size d m) (offset : WindowOffset) (len : Nat) :
    Window.read d offset len = Window.read m offset len := by
  simp only [Window.read, h.check_eq]
  cases hcheck : checkRange offset len m.size with
  | error e => rfl
  | ok _ =>
    have hin := checkRange_eq_ok_iff.1 hcheck
    rw [h.size_eq] at hin
    have hbytes : d.device.memory.read offset.toNat len = m.memory.read offset.toNat len := by
      refine List.ext_getElem? fun i => ?_
      rw [Memory.getElem?_read, Memory.getElem?_read]
      split
      · next hi => rw [h.byteAt_eq _ (by omega)]
      · rfl
    rw [hbytes]

/-- The two kinds of windows refuse the same ranges, for the same reason, and store the same bytes. -/
theorem windowCoupled (size : UInt64) : WindowCoupled (Mirrors size) where
  size_eq {d m} h := by
    obtain ⟨reach, hmapping⟩ := h.mapping_eq
    change (d.mapping.map Mapping.size).getD 0 = m.size
    rw [hmapping, h.size_eq]
    rfl
  read_eq offset len h := h.read_eq offset len
  write {d m} offset bytes h := by
    simp only [Window.write, h.check_eq]
    cases checkRange offset bytes.length m.size with
    | error e => exact .refused e
    | ok _ =>
      have hstored := h.write offset.toNat bytes
      exact .stored ⟨hstored.mapping_eq, hstored.covered, hstored.size_eq, hstored.byteAt_eq⟩
  zero {d m} offset len h := by
    simp only [Window.zero, h.check_eq]
    cases checkRange offset len m.size with
    | error e => exact .refused e
    | ok _ =>
      have hstored := h.write offset.toNat (List.replicate len 0)
      rw [← Memory.zero_eq_write, ← Memory.zero_eq_write] at hstored
      exact .stored ⟨hstored.mapping_eq, hstored.covered, hstored.size_eq, hstored.byteAt_eq⟩
  barrier h := ⟨h.mapping_eq, h.covered, h.size_eq, h.byteAt_eq⟩

theorem step (h : Mirrors size d m) (step : WindowStep) :
    step.answer d = step.answer m ∧ Mirrors size (step.next d) (step.next m) := by
  refine step.alike (windowCoupled size) ?_ h
  intro d m start bytes h
  exact h.poke start bytes

theorem run (h : Mirrors size d m) (steps : List WindowStep) :
    Mirrors size (WindowStep.run steps d) (WindowStep.run steps m) := by
  induction steps generalizing d m with
  | nil => exact h
  | cons step steps ih => exact ih (h.step step).2

end Mirrors

/-- A recording window refuses a step only for its range. -/
theorem RecordingWindow.answer_eq_error {m : RecordingWindow} {step : WindowStep} {e : WindowError}
    (h : step.answer m = .error e) : ∃ offset len, e = .outOfRange offset len m.size := by
  have hrange {α : Type} {offset : WindowOffset} {len : Nat} {r : Unit → Except WindowError α}
      (hr : ∀ u, ∃ a, r u = .ok a) (hbind : (checkRange offset len m.size >>= r) = .error e) :
      e = .outOfRange offset len m.size := by
    rcases Nat.lt_or_ge m.size.toNat (offset.toNat + len) with hlt | hle
    · rw [checkRange_eq_error hlt] at hbind
      cases hbind
      rfl
    · rw [checkRange_eq_ok_iff.2 hle] at hbind
      obtain ⟨a, ha⟩ := hr ()
      rw [show (Except.ok () >>= r) = r () from rfl, ha] at hbind
      cases hbind
  have hmap {α β : Type} {x : Except WindowError α} {f : α → β} (hx : x.map f = .error e) :
      x = .error e := by
    cases x with
    | ok a => cases hx
    | error e' =>
      cases hx
      rfl
  have hperform := hmap h
  cases step with
  | size => cases hperform
  | read offset len => exact ⟨offset, len, hrange (fun _ => ⟨_, rfl⟩) (hmap hperform)⟩
  | write offset bytes => exact ⟨offset, bytes.length, hrange (fun _ => ⟨_, rfl⟩) (hmap hperform)⟩
  | zero offset len => exact ⟨offset, len, hrange (fun _ => ⟨_, rfl⟩) (hmap hperform)⟩
  | barrier => cases hperform
  | poke start bytes => cases hperform

/-- A window that was just opened over zeros shows what a fresh recording window shows. -/
theorem mirrors_of_zeros {host : Host} {path : OsString} {size : UInt64} {id : FileId} {d : DeviceWindow}
    (hopened : d.Opened host path size id) (hzero : ∀ b ∈ d.device.bytes, b = 0)
    (hle : size.toNat ≤ d.device.size) : Mirrors size d (.ofSize size) where
  mapping_eq := by
    obtain ⟨reach, -, hmapping⟩ := hopened.mapping_eq
    exact ⟨reach, hmapping⟩
  covered := hle
  size_eq := rfl
  byteAt_eq i hi := by
    have hget : d.device.bytes[i]? = some (d.device.memory.byteAt i) := by
      rw [FileData.bytes, Memory.getElem?_read, if_pos (by omega), Nat.zero_add]
    change d.device.memory.byteAt i = Memory.empty.byteAt i
    rw [Memory.byteAt_empty]
    exact hzero _ (List.mem_of_getElem? hget)

/-! ## Once the window is closed -/

namespace DeviceWindow

variable {w : DeviceWindow}

theorem check_of_closed (h : w.mapping = none) (offset : WindowOffset) (len : Nat) :
    w.check offset len = .error .unmapped := by
  simp only [check, h]

/-- A closed window refuses every range, also those that it would never have taken. -/
theorem refused_of_closed (h : w.mapping = none) (offset : WindowOffset) (len : Nat)
    (bytes : List UInt8) : Window.read w offset len = .error .unmapped ∧
      Window.write w offset bytes = .error .unmapped ∧
      Window.zero w offset len = .error .unmapped := by
  refine ⟨?_, ?_, ?_⟩
  · simp only [Window.read, check_of_closed h]
    rfl
  · simp only [Window.write, check_of_closed h]
    rfl
  · simp only [Window.zero, check_of_closed h]
    rfl

theorem next_of_closed (h : w.mapping = none) (hhandle : w.handle = none) (step : DeviceStep) :
    step.next w = { w with device := step.poked w.device } := by
  cases step with
  | close =>
    change w.close = w
    rw [close_eq, ← h]
    exact congrArg (fun handle => { w with handle }) hhandle.symm
  | step hosted =>
    cases hosted with
    | read offset len =>
      have hread := (refused_of_closed h offset len []).1
      simp only [DeviceStep.next, WindowStep.next, WindowStep.perform, hread, Except.map,
        DeviceStep.poked]
    | write offset bytes =>
      have hwrite := (refused_of_closed h offset 0 bytes).2.1
      simp only [DeviceStep.next, WindowStep.next, WindowStep.perform, hwrite, Except.map,
        DeviceStep.poked]
    | zero offset len =>
      have hzero := (refused_of_closed h offset len []).2.2
      simp only [DeviceStep.next, WindowStep.next, WindowStep.perform, hzero, Except.map,
        DeviceStep.poked]
    | size => rfl
    | barrier => rfl
    | poke start bytes => rfl

theorem run_of_closed (h : w.mapping = none) (hhandle : w.handle = none) (steps : List DeviceStep) :
    DeviceStep.run steps w = { w with device := steps.foldl DeviceStep.poked w.device } := by
  induction steps generalizing w with
  | nil => rfl
  | cons step steps ih =>
    have hnext := next_of_closed h hhandle step
    change DeviceStep.run steps (step.next w) = _
    rw [hnext]
    exact ih h hhandle

/-- A window that was opened over a device of zeros answers every step as a fresh recording window of its
size does, and shows the same bytes after it; a step is refused only for its range, and then leaves both
windows as they were. Once closed, whenever that is and however often, the window has no bytes and is not
mapped, refuses every access, and only the target changes the device. -/
theorem mirrored_until_closed {σ : Type} {host : Host} {path : OsString} {size : UInt64}
    {device : FileData} {d : DeviceWindow} {s s' : Logged σ} (hfile : host.file path = .ok device)
    (hzero : ∀ b ∈ device.bytes, b = 0) (hle : size.toNat ≤ device.size)
    (hopen : Link.openWindow host path size s = .ok d s') (steps : List WindowStep) :
    let w := WindowStep.run steps d
    let m := WindowStep.run steps (RecordingWindow.ofSize size)
    (∀ step : WindowStep, step.answer w = step.answer m ∧
      ∀ e, step.answer w = .error e →
        (∃ offset len, e = .outOfRange offset len size) ∧ step.next w = w ∧ step.next m = m) ∧
    (∀ i < size.toNat, w.device.memory.byteAt i = m.memory.byteAt i) ∧
    ∀ after : List DeviceStep,
      let c := DeviceStep.run after w.close
      Window.size c = 0 ∧ c.isMapped = false ∧
      (∀ offset len bytes, Window.read c offset len = .error .unmapped ∧
        Window.write c offset bytes = .error .unmapped ∧
        Window.zero c offset len = .error .unmapped) ∧
      c.device = after.foldl DeviceStep.poked w.device := by
  intro w m
  obtain ⟨id, hopened⟩ := Link.openWindow_of_ok hopen
  obtain rfl : device = d.device := by
    rw [Host.file_of_openFile hopened.openFile_eq] at hfile
    cases hfile
    exact hopened.device_eq.symm
  have hmirrors : Mirrors size w m := (mirrors_of_zeros hopened hzero hle).run steps
  refine ⟨fun step => ⟨(hmirrors.step step).1, ?_⟩, ?_, ?_⟩
  · intro e herr
    have herr' : step.answer m = .error e := by rw [← (hmirrors.step step).1, herr]
    obtain ⟨offset, len, he⟩ := RecordingWindow.answer_eq_error herr'
    rw [hmirrors.size_eq] at he
    exact ⟨⟨offset, len, he⟩, WindowStep.next_of_error herr, WindowStep.next_of_error herr'⟩
  · exact hmirrors.byteAt_eq
  · intro after c
    have hclose := close_eq w
    have hclosed : c = { w.close with device := after.foldl DeviceStep.poked w.close.device } :=
      run_of_closed (by rw [hclose]) (by rw [hclose]) after
    rw [hclose] at hclosed
    have hnone : c.mapping = none := by rw [hclosed]
    refine ⟨?_, ?_, fun offset len bytes => refused_of_closed hnone offset len bytes, ?_⟩
    · rw [hclosed]
      rfl
    · rw [hclosed]
      rfl
    · rw [hclosed]

/-- The host stores three bytes, the target overwrites the one in the middle, and a store past the end is
refused. Once the window is closed the host reads nothing more. -/
theorem mirrored_then_closed :
    let host : Host := ⟨fun _ => .ok (.file 0), fun _ => .zeros 16, fun _ _ => .ok ⟨id, Nat.le_refl⟩⟩
    ∃ d s', Link.openWindow host ⟨[0x75]⟩ 8 (Logged.start ()) = .ok d s' ∧
      let w := WindowStep.run [.write ⟨1⟩ [1, 2, 3], .poke 2 [9]] d
      (WindowStep.read ⟨1⟩ 3).answer w = .ok (.bytes [1, 9, 3]) ∧
      (WindowStep.write ⟨7⟩ [1, 2]).answer w = .error (.outOfRange ⟨7⟩ 2 8) ∧
      Window.read w.close ⟨1⟩ 3 = .error .unmapped := by
  intro host
  obtain ⟨d, s', hopen⟩ : ∃ d s', Link.openWindow host ⟨[0x75]⟩ 8 (Logged.start ()) = .ok d s' :=
    ⟨_, _, rfl⟩
  have hfile : host.file ⟨[0x75]⟩ = .ok (.zeros 16) := rfl
  have hzero : ∀ b ∈ (FileData.zeros 16).bytes, b = 0 := by decide +kernel
  have hsize : (8 : UInt64).toNat ≤ (FileData.zeros 16).size := by decide
  refine ⟨d, s', hopen, ?_⟩
  intro w
  obtain ⟨hanswer, -, hclosed⟩ :=
    mirrored_until_closed hfile hzero hsize hopen [.write ⟨1⟩ [1, 2, 3], .poke 2 [9]]
  have hread := (hanswer (.read ⟨1⟩ 3)).1
  have hwrite := (hanswer (.write ⟨7⟩ [1, 2])).1
  have hbytes : (WindowStep.run [.write ⟨1⟩ [1, 2, 3], .poke 2 [9]]
      (RecordingWindow.ofSize 8)).memory.read 1 3 = [1, 9, 3] := by decide +kernel
  refine ⟨hread.trans ?_, hwrite.trans rfl, ((hclosed []).2.2.1 ⟨1⟩ 3 []).1⟩
  exact congrArg (fun bytes => Except.ok (WindowAnswer.bytes bytes)) hbytes

end DeviceWindow

/-! ## Transports over either window -/

theorem SelfTestError.Related.eq {e e' : SelfTestError} (h : Related Eq e e') : e = e' := by
  cases h with
  | transport h => rw [h]
  | mismatch => rfl

/-- What is found out about a transport with a recording window holds over a device, as long as that is mapped:
after the same operations the next one gives the same answer or the same error with both. -/
theorem Transport.mirrored_run {size : UInt64} {t : Transport DeviceWindow}
    {u : Transport RecordingWindow} (hwindow : Mirrors size t.window u.window)
    (htranslator : t.translator = u.translator) (hissued : t.resetIssued = u.resetIssued)
    (log log' : Array Event) (ops : List Operation) :
    let s := Operation.run ops ⟨t, log⟩
    let r := Operation.run ops ⟨u, log'⟩
    Mirrors size s.state.window r.state.window ∧
    ∀ op : Operation, (∃ answer s' r', op.perform s = .ok answer s' ∧ op.perform r = .ok answer r') ∨
      ∃ e s' r', op.perform s = .error e s' ∧ op.perform r = .error e r' := by
  intro s r
  have hcoupled : FullyCoupled
      (Beside (Mirrors size) (fun _ => True) u.translator u.translator) Eq :=
    fullyCoupled (Mirrors.windowCoupled size) (Translator.agree_self fun _ => rfl) (fun _ _ => rfl)
      (fun _ _ _ _ => trivial) rfl
  have hrun := hcoupled.run (s := ⟨t, log⟩) (t := ⟨u, log'⟩) ops
    ⟨hwindow, htranslator, rfl, hissued, trivial, trivial⟩
  refine ⟨hrun.window, fun op => ?_⟩
  rcases hcoupled.perform op s r hrun with ⟨answer, s', r', hs, hr, -⟩ | ⟨e, e', s', r', hs, hr, he, -⟩
  · exact .inl ⟨answer, s', r', hs, hr⟩
  · obtain rfl := he.eq
    exact .inr ⟨e, s', r', hs, hr⟩

end TargetLink
