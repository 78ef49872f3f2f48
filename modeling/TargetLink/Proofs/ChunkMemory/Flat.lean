import TargetLink.ChunkMemory.Flat
import TargetLink.Proofs.ChunkMemory.Guarded
import TargetLink.Proofs.ChunkMemory.Stuck
import TargetLink.Proofs.Transfer.Serving
import TargetLink.Proofs.Window.Stuck

/-!
# A flat memory is faithful

As long as no access is made to fail and no byte is stuck. With stuck bytes it is faithful but for these. An
access that is made to fail changes nothing, so with faults the memory is still guarded.
-/

namespace TargetLink.FlatMemory

/-- A flat memory with no faults, seen from outside. -/
def view (base : TargetAddr) (size align : Nat) : View FlatMemory where
  align := align
  sound m := m.base = base ∧ m.size = size ∧ m.align = align ∧ m.failAt = none ∧ m.stuck = []
  contents m a := if base.toNat ≤ a then m.memory.byteAt (a - base.toNat) else 0

variable {base addr : TargetAddr} {size align len : Nat} {m : FlatMemory} {s : Logged FlatMemory}

theorem index_eq (m : FlatMemory) (addr : TargetAddr) : m.index addr =
    if m.base.toNat ≤ addr.toNat then addr.toNat - m.base.toNat
    else UInt64.size - m.base.toNat + addr.toNat := by
  have haddr : addr.toNat < UInt64.size := addr.val.toNat_lt
  have hbase : m.base.toNat < UInt64.size := m.base.val.toNat_lt
  have hsub : m.index addr = (UInt64.size - m.base.toNat + addr.toNat) % UInt64.size :=
    UInt64.toNat_sub _ _
  rw [hsub]
  split
  · next hle =>
    rw [show UInt64.size - m.base.toNat + addr.toNat = addr.toNat - m.base.toNat + UInt64.size by
      omega, Nat.add_mod_right, Nat.mod_eq_of_lt (by omega)]
  · rw [Nat.mod_eq_of_lt (by omega)]

/-- An access succeeds exactly if it is not made to fail and lies in the memory. -/
theorem refusal?_eq_none_iff (hend : m.base.toNat + m.size ≤ UInt64.size) (hlen : 0 < len) :
    m.refusal? addr len = none ↔
      m.failAt ≠ some m.accesses ∧ Within m.base.toNat m.size addr.toNat len := by
  have hindex := m.index_eq addr
  unfold refusal? Within
  by_cases hfault : m.failAt = some m.accesses
  · simp [hfault]
  · rw [if_neg hfault, and_iff_right hfault]
    split at hindex
    · split
      · simp only [reduceCtorEq, false_iff]
        omega
      · simp only [true_iff]
        omega
    · -- Below the base the index wraps around, to a place past the end of the memory.
      rw [if_pos (by omega)]
      simp only [reduceCtorEq, false_iff]
      omega

theorem index_of_within (h : Within m.base.toNat m.size addr.toNat len) :
    m.index addr = addr.toNat - m.base.toNat := by
  rw [index_eq, if_pos h.1]

/-- The memory with one more access on record. -/
def recorded (m : FlatMemory) (request : Request) : FlatMemory :=
  { m with requests := m.requests.push request, accesses := m.accesses + 1 }

theorem access_apply (request : Request) (addr : TargetAddr) (len : Nat) (s : Logged FlatMemory) :
    access request addr len s = match s.state.refusal? addr len with
      | none => .ok () { s with state := s.state.recorded request }
      | some e => .error e { s with state := s.state.recorded request } := by
  simp only [access, Action.bind_apply, Action.current_apply, Action.put_apply]
  cases s.state.refusal? addr len <;> rfl

theorem view_write (size align : Nat) (hle : base.toNat ≤ addr.toNat) (bytes : List UInt8) :
    ((view base size align).contents m).write addr.toNat bytes = (view base size align).contents
      { m with memory := m.memory.write (addr.toNat - base.toNat) bytes } := by
  funext a
  simp only [view, Contents.write]
  by_cases ha : addr.toNat ≤ a
  · rw [if_pos ha, if_pos (by omega), if_pos (by omega), Memory.byteAt_write, if_pos (by omega),
      show a - base.toNat - (addr.toNat - base.toNat) = a - addr.toNat by omega]
  · rw [if_neg ha]
    split
    · rw [Memory.byteAt_write, if_neg (by omega)]
    · rfl

theorem view_read (size align : Nat) (hle : base.toNat ≤ addr.toNat) (len : Nat) :
    ((view base size align).contents m).read addr.toNat len =
      m.memory.read (addr.toNat - base.toNat) len := by
  refine List.ext_getElem? fun i => ?_
  rw [Contents.getElem?_read, Memory.getElem?_read]
  split
  · simp only [view]
    rw [if_pos (by omega), show addr.toNat + i - base.toNat = addr.toNat - base.toNat + i by omega]
  · rfl

/-! ## Requests -/

section Requests

variable {e : LinkError} {bytes : List UInt8}

theorem readChunk_of_accepted (h : s.state.refusal? addr len = none) :
    readChunk addr len s = .ok
      (s.state.stuck.overlay (s.state.index addr) (s.state.memory.read (s.state.index addr) len))
      { s with state := s.state.recorded (.read addr len) } := by
  simp only [readChunk, Action.bind_apply, access_apply, h, Action.current_apply, Action.pure_apply]
  rfl

theorem readChunk_of_refused (h : s.state.refusal? addr len = some e) :
    readChunk addr len s = .error e { s with state := s.state.recorded (.read addr len) } := by
  simp only [readChunk, Action.bind_apply, access_apply, h]

theorem writeChunk_of_accepted (h : s.state.refusal? addr bytes.length = none) :
    writeChunk addr bytes s = .ok () { s with state :=
      { s.state.recorded (.write addr bytes.length) with
        memory := s.state.memory.write (s.state.index addr) bytes } } := by
  simp only [writeChunk, Action.bind_apply, access_apply, h, Action.update_apply]
  rfl

theorem writeChunk_of_refused (h : s.state.refusal? addr bytes.length = some e) :
    writeChunk addr bytes s =
      .error e { s with state := s.state.recorded (.write addr bytes.length) } := by
  simp only [writeChunk, Action.bind_apply, access_apply, h]

theorem clearChunk_of_accepted (h : s.state.refusal? addr len = none) :
    clearChunk addr len s = .ok () { s with state := { s.state.recorded (.clear addr len) with
      memory := s.state.memory.write (s.state.index addr) (List.replicate len 0) } } := by
  simp only [clearChunk, Action.bind_apply, access_apply, h, Action.update_apply,
    ← Memory.zero_eq_write]
  rfl

theorem clearChunk_of_refused (h : s.state.refusal? addr len = some e) :
    clearChunk addr len s = .error e { s with state := s.state.recorded (.clear addr len) } := by
  simp only [clearChunk, Action.bind_apply, access_apply, h]

end Requests

/-! ## Without faults -/

theorem accepted_of_within (hend : m.base.toNat + m.size ≤ UInt64.size) (hfault : m.failAt = none)
    (hlen : 0 < len) (h : Within m.base.toNat m.size addr.toNat len) :
    m.refusal? addr len = none := by
  refine (refusal?_eq_none_iff hend hlen).2 ⟨?_, h⟩
  rw [hfault]
  exact fun hno => by cases hno

theorem refused_of_not_within (hend : m.base.toNat + m.size ≤ UInt64.size) (hlen : 0 < len)
    (h : ¬ Within m.base.toNat m.size addr.toNat len) : ∃ e, m.refusal? addr len = some e := by
  cases hrefusal : m.refusal? addr len with
  | none => exact absurd ((refusal?_eq_none_iff hend hlen).1 hrefusal).2 h
  | some e => exact ⟨e, rfl⟩

/-- The values that addresses are stuck at. -/
def stuckAt (base : TargetAddr) (stuck : StuckBytes) : StuckAt := fun a =>
  if base.toNat ≤ a then stuck.value? (a - base.toNat) else none

/-- A flat memory with stuck bytes and no other faults, seen from outside. -/
def stuckView (base : TargetAddr) (size align : Nat) (stuck : StuckBytes) : View FlatMemory where
  align := align
  sound m := m.base = base ∧ m.size = size ∧ m.align = align ∧ m.failAt = none ∧ m.stuck = stuck
  contents m := ((view base size align).contents m).shown (stuckAt base stuck)

theorem stuckView_read (size align : Nat) (stuck : StuckBytes) (hle : base.toNat ≤ addr.toNat)
    (len : Nat) : ((stuckView base size align stuck).contents m).read addr.toNat len =
      stuck.overlay (addr.toNat - base.toNat) (m.memory.read (addr.toNat - base.toNat) len) := by
  refine List.ext_getElem? fun i => ?_
  rw [Contents.getElem?_read, StuckBytes.getElem?_overlay, Memory.getElem?_read]
  split
  · have hindex : addr.toNat + i - base.toNat = addr.toNat - base.toNat + i := by omega
    simp only [stuckView, Contents.shown, stuckAt, view, if_pos (show base.toNat ≤ addr.toNat + i by omega),
      hindex, Option.map_some]
  · rfl

theorem stuckView_write (size align : Nat) (stuck : StuckBytes) (hle : base.toNat ≤ addr.toNat)
    (bytes : List UInt8) :
    (stuckView base size align stuck).contents
        { m with memory := m.memory.write (addr.toNat - base.toNat) bytes } =
      (((stuckView base size align stuck).contents m).write addr.toNat bytes).shown
        (stuckAt base stuck) := by
  refine Eq.trans ?_ (Contents.shown_write_shown _ _ _ _).symm
  rw [view_write size align hle]
  rfl

theorem faithfulBut_stuckView (base : TargetAddr) (size align : Nat) (stuck : StuckBytes)
    (hend : base.toNat + size ≤ UInt64.size) : (stuckView base size align stuck).FaithfulBut
      (stuckAt base stuck) (Within base.toNat size) where
  chunkAlign_eq hsound := hsound.2.2.1
  shown_eq _ := Contents.shown_shown _ _
  read {s addr len} hsound hlen h := by
    obtain ⟨rfl, rfl, halign, hfault, rfl⟩ := hsound
    refine ⟨{ s with state := s.state.recorded (.read addr len) }, ?_,
      ⟨rfl, rfl, halign, hfault, rfl⟩, rfl⟩
    rw [stuckView_read _ _ _ h.1, ← index_of_within h]
    exact readChunk_of_accepted (accepted_of_within hend hfault hlen h)
  write {s addr bytes} hsound hlen h := by
    obtain ⟨rfl, rfl, halign, hfault, rfl⟩ := hsound
    refine ⟨_, writeChunk_of_accepted (accepted_of_within hend hfault hlen h),
      ⟨rfl, rfl, halign, hfault, rfl⟩, ?_⟩
    rw [index_of_within h]
    exact stuckView_write _ _ _ h.1 bytes
  clear {s addr len} hsound hlen h := by
    obtain ⟨rfl, rfl, halign, hfault, rfl⟩ := hsound
    refine ⟨_, clearChunk_of_accepted (accepted_of_within hend hfault hlen h),
      ⟨rfl, rfl, halign, hfault, rfl⟩, ?_⟩
    rw [index_of_within h]
    exact stuckView_write _ _ _ h.1 _

theorem refusesOutside_stuckView (base : TargetAddr) (size align : Nat) (stuck : StuckBytes)
    (hend : base.toNat + size ≤ UInt64.size) :
    (stuckView base size align stuck).RefusesOutside (Within base.toNat size) where
  read {s addr len} hsound hlen h := by
    obtain ⟨rfl, rfl, hrest⟩ := hsound
    obtain ⟨e, hrefusal⟩ := refused_of_not_within hend hlen h
    exact ⟨e, _, readChunk_of_refused hrefusal, ⟨rfl, rfl, hrest⟩, rfl⟩
  write {s addr bytes} hsound hlen h := by
    obtain ⟨rfl, rfl, hrest⟩ := hsound
    obtain ⟨e, hrefusal⟩ := refused_of_not_within hend hlen h
    exact ⟨e, _, writeChunk_of_refused hrefusal, ⟨rfl, rfl, hrest⟩, rfl⟩
  clear {s addr len} hsound hlen h := by
    obtain ⟨rfl, rfl, hrest⟩ := hsound
    obtain ⟨e, hrefusal⟩ := refused_of_not_within hend hlen h
    exact ⟨e, _, clearChunk_of_refused hrefusal, ⟨rfl, rfl, hrest⟩, rfl⟩

theorem stuckAt_nil (base : TargetAddr) : stuckAt base [] = fun _ => none := by
  funext a
  exact ite_self none

theorem faithful_view (base : TargetAddr) (size align : Nat)
    (hend : base.toNat + size ≤ UInt64.size) :
    (view base size align).Faithful (Within base.toNat size) := by
  have hview : stuckView base size align [] = view base size align := by
    rw [stuckView, stuckAt_nil]
    rfl
  have hbut := faithfulBut_stuckView base size align [] hend
  have hout := refusesOutside_stuckView base size align [] hend
  rw [hview] at hbut hout
  rw [stuckAt_nil] at hbut
  exact View.faithful_iff.2 ⟨hbut, hout⟩

/-! ## With faults -/

/-- A flat memory of which any access may be made to fail, seen from outside. -/
def faultyView (base : TargetAddr) (size align : Nat) : View FlatMemory :=
  { view base size align with sound := fun m => m.base = base ∧ m.size = size ∧ m.stuck = [] }

theorem guarded_faultyView (base : TargetAddr) (size align : Nat)
    (hend : base.toNat + size ≤ UInt64.size) :
    (faultyView base size align).Guarded (Within base.toNat size) where
  read {s addr len} hsound hlen := by
    obtain ⟨rfl, rfl, hstuck⟩ := hsound
    cases hrefusal : s.state.refusal? addr len with
    | none =>
      obtain ⟨-, hin⟩ := (refusal?_eq_none_iff hend hlen).1 hrefusal
      refine .inl ⟨hin, { s with state := s.state.recorded (.read addr len) }, ?_,
        ⟨rfl, rfl, hstuck⟩, rfl⟩
      have hread := readChunk_of_accepted hrefusal
      rw [hstuck, index_of_within hin] at hread
      change readChunk addr len s =
        .ok (((view s.state.base s.state.size align).contents s.state).read addr.toNat len) _
      rw [view_read _ _ hin.1]
      exact hread
    | some e => exact .inr ⟨e, _, readChunk_of_refused hrefusal, ⟨rfl, rfl, hstuck⟩, rfl⟩
  write {s addr bytes} hsound hlen := by
    obtain ⟨rfl, rfl, hstuck⟩ := hsound
    cases hrefusal : s.state.refusal? addr bytes.length with
    | none =>
      obtain ⟨-, hin⟩ := (refusal?_eq_none_iff hend hlen).1 hrefusal
      refine .inl ⟨hin, _, writeChunk_of_accepted hrefusal, ⟨rfl, rfl, hstuck⟩, ?_⟩
      rw [index_of_within hin]
      exact (view_write s.state.size align hin.1 bytes).symm
    | some e => exact .inr ⟨e, _, writeChunk_of_refused hrefusal, ⟨rfl, rfl, hstuck⟩, rfl⟩
  clear {s addr len} hsound hlen := by
    obtain ⟨rfl, rfl, hstuck⟩ := hsound
    cases hrefusal : s.state.refusal? addr len with
    | none =>
      obtain ⟨-, hin⟩ := (refusal?_eq_none_iff hend hlen).1 hrefusal
      refine .inl ⟨hin, _, clearChunk_of_accepted hrefusal, ⟨rfl, rfl, hstuck⟩, ?_⟩
      rw [index_of_within hin]
      exact (view_write s.state.size align hin.1 _).symm
    | some e => exact .inr ⟨e, _, clearChunk_of_refused hrefusal, ⟨rfl, rfl, hstuck⟩, rfl⟩

end TargetLink.FlatMemory
