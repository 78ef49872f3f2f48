import TargetLink.Proofs.Transport.Chunk

/-!
# The target's memory behind a transport

Through a transport the host sees one flat memory with gaps: a byte at each address that a slot
covers, and nothing elsewhere. Host and target share it. The host sends chunk requests, the target
stores into the window on its own, and the two may take turns in any order.

`TargetMemory` is that memory by itself, without regions or a window. The main statement is that a
transport behaves like it after every history of accesses.
-/

namespace TargetLink

/-- The bytes of a target by address, where there is one. -/
def TargetMemory := Nat → Option UInt8

namespace TargetMemory

/-- There is a byte at each of the `len` addresses from `start` on. -/
def Defined (m : TargetMemory) (start len : Nat) : Prop :=
  ∀ i < len, (m (start + i)).isSome

instance (m : TargetMemory) (start len : Nat) : Decidable (m.Defined start len) :=
  inferInstanceAs (Decidable (∀ i < len, (m (start + i)).isSome))

/-- The memory with bytes stored from an address on, or as it was if one of them has no place. -/
def store (m : TargetMemory) (start : Nat) (bytes : List UInt8) : TargetMemory := fun a =>
  if m.Defined start bytes.length ∧ start ≤ a ∧ a < start + bytes.length then bytes[a - start]?
  else m a

/-- The memory after bytes were stored into a window, where `index?` tells the window byte of each
address. -/
def poke (index? : Nat → Option Nat) (m : TargetMemory) (start : Nat) (bytes : List UInt8) :
    TargetMemory := fun a =>
  match index? a with
  | some i => if start ≤ i ∧ i < start + bytes.length then bytes[i - start]? else m a
  | none => m a

end TargetMemory

/-- What the host or the target does to the memory that they share. -/
inductive Access where
  /-- The host reads bytes. -/
  | read (addr : TargetAddr) (len : Nat)
  /-- The host stores bytes. -/
  | write (addr : TargetAddr) (bytes : List UInt8)
  /-- The host stores zeros. -/
  | clear (addr : TargetAddr) (len : Nat)
  /-- The target stores bytes, which appear at an index of the window. -/
  | poke (index : Nat) (bytes : List UInt8)

namespace Access

/-- The addresses that the host asks for: the first one and how many. -/
def range? : Access → Option (TargetAddr × Nat)
  | .read addr len => some (addr, len)
  | .write addr bytes => some (addr, bytes.length)
  | .clear addr len => some (addr, len)
  | .poke .. => none

/-- The bytes that the host stores, and where. -/
def stored? : Access → Option (TargetAddr × List UInt8)
  | .write addr bytes => some (addr, bytes)
  | .clear addr len => some (addr, List.replicate len 0)
  | _ => none

/-- The target acts, and not the host. -/
def isPoke (access : Access) : Bool :=
  access.range?.isNone

/-- The access as it reaches a transport; what is read, or nothing. -/
def perform : Access → Action LinkError (Transport RecordingWindow) (List UInt8)
  | .read addr len => ChunkMemory.readChunk addr len
  | .write addr bytes => do
    ChunkMemory.writeChunk addr bytes
    return []
  | .clear addr len => do
    ChunkMemory.clearChunk addr len
    return []
  | .poke index bytes => do
    Action.update fun t => { t with window := t.window.poke index bytes }
    return []

/-- A transport after a history of accesses, whether they succeeded or not. -/
def run (history : List Access) (s : Logged (Transport RecordingWindow)) :
    Logged (Transport RecordingWindow) :=
  history.foldl (fun s access => (access.perform.result s).2) s

/-- What the access does to a flat memory. -/
def effect (index? : Nat → Option Nat) (m : TargetMemory) : Access → TargetMemory
  | .read .. => m
  | .write addr bytes => m.store addr.toNat bytes
  | .clear addr len => m.store addr.toNat (List.replicate len 0)
  | .poke start bytes => m.poke index? start bytes

end Access

namespace Transport

/-- The memory that the host sees through a transport. -/
def targetMemory (t : Transport RecordingWindow) : TargetMemory := fun a =>
  (t.regions.windowIndex? a).map t.window.memory.byteAt

/-- From `t` to `t'`, bytes were stored from an address on, into the window bytes behind these
addresses and no others. -/
structure StoredFrom (t t' : Transport RecordingWindow) (start : Nat) (bytes : List UInt8) : Prop where
  inside : ∀ i (h : i < bytes.length), ∃ j, t.regions.windowIndex? (start + i) = some j ∧
    t'.window.memory.byteAt j = bytes[i]
  outside : ∀ j, (∀ i < bytes.length, t.regions.windowIndex? (start + i) ≠ some j) →
    t'.window.memory.byteAt j = t.window.memory.byteAt j
  size_eq : t'.window.size = t.window.size
  translator_eq : t'.translator = t.translator
  resetIssued_eq : t'.resetIssued = t.resetIssued

/-- The next host request to a transport meets a flat memory with contents `m`. -/
structure IsFlat (s : Logged (Transport RecordingWindow)) (m : TargetMemory) : Prop where
  /-- A request for some bytes succeeds exactly if all of them are there. -/
  succeeds_iff : ∀ (access : Access) (addr : TargetAddr) (len : Nat),
    access.range? = some (addr, len) → 0 < len →
      ((∃ bytes s', access.perform s = .ok bytes s') ↔ m.Defined addr.toNat len)
  /-- What is read are the bytes at the addresses, and reading changes nothing. -/
  read_ok : ∀ (addr : TargetAddr) (len : Nat) (bytes : List UInt8)
    (s' : Logged (Transport RecordingWindow)), (Access.read addr len).perform s = .ok bytes s' →
    bytes.length = len ∧ (∀ i < len, bytes[i]? = m (addr.toNat + i)) ∧ s'.state = s.state
  /-- A store changes the bytes that it is for. -/
  store_ok : ∀ (access : Access) (addr : TargetAddr) (bytes result : List UInt8)
    (s' : Logged (Transport RecordingWindow)), access.stored? = some (addr, bytes) →
      access.perform s = .ok result s' → StoredFrom s.state s'.state addr.toNat bytes
  /-- A failed request changes nothing. -/
  failed : ∀ (access : Access) (e : LinkError) (s' : Logged (Transport RecordingWindow)),
    access.perform s = .error e s' → s'.state = s.state

variable {w : RecordingWindow} {t t' : Transport RecordingWindow}
  {s : Logged (Transport RecordingWindow)} {access : Access} {addr : TargetAddr} {start len : Nat}
  {bytes : List UInt8} {o : WindowOffset} {kind : StoreKind}

/-! ## One access -/

theorem defined_iff_serves (hlen : 0 < len) :
    t.targetMemory.Defined start len ↔ t.regions.Serves start len := by
  rw [RegionMap.serves_iff hlen]
  simp [TargetMemory.Defined, targetMemory]

/-- What a request of the host does: nothing if its range does not resolve, and otherwise it reads or
stores at the place that the range resolves to. -/
theorem perform_cases (hfits : s.state.Fits) (h : access.range? = some (addr, len)) :
    (∃ e log, s.state.translator.resolve addr len = .error e ∧
      access.perform s = .error e ⟨s.state, log⟩) ∨
    ∃ o log, s.state.translator.resolve addr len = .ok o ∧
      ((access = .read addr len ∧
        access.perform s = .ok (s.state.window.memory.read o.toNat len) ⟨s.state, log⟩) ∨
      ∃ kind bytes, access.stored? = some (addr, bytes) ∧ bytes.length = len ∧
        access.perform s =
          .ok [] ⟨s.state.withWindow (s.state.window.fenced kind o bytes), log⟩) := by
  cases access with
  | read addr' len' =>
    obtain ⟨rfl, rfl⟩ := Prod.mk.inj (Option.some.inj h)
    cases hres : s.state.translator.resolve addr' len' with
    | error e =>
      obtain ⟨log, hrun⟩ := readChunk_of_refused hres
      exact .inl ⟨e, log, rfl, hrun⟩
    | ok o =>
      obtain ⟨log, hrun⟩ := readChunk_of_resolve hfits hres
      exact .inr ⟨o, log, rfl, .inl ⟨rfl, hrun⟩⟩
  | write addr' bytes =>
    obtain ⟨rfl, rfl⟩ := Prod.mk.inj (Option.some.inj h)
    cases hres : s.state.translator.resolve addr' bytes.length with
    | error e =>
      obtain ⟨log, hrun⟩ := writeChunk_of_refused hres
      exact .inl ⟨e, log, rfl, by simp [Access.perform, ChunkMemory.writeChunk, hrun]⟩
    | ok o =>
      obtain ⟨log, hrun⟩ := writeChunk_of_resolve hfits hres
      refine .inr ⟨o, log, rfl, .inr ⟨.write, bytes, rfl, rfl, ?_⟩⟩
      simp [Access.perform, ChunkMemory.writeChunk, hrun]
  | clear addr' len' =>
    obtain ⟨rfl, rfl⟩ := Prod.mk.inj (Option.some.inj h)
    cases hres : s.state.translator.resolve addr' len' with
    | error e =>
      obtain ⟨log, hrun⟩ := clearChunk_of_refused hres
      exact .inl ⟨e, log, rfl, by simp [Access.perform, ChunkMemory.clearChunk, hrun]⟩
    | ok o =>
      obtain ⟨log, hrun⟩ := clearChunk_of_resolve hfits hres
      refine .inr ⟨o, log, rfl, .inr ⟨.zero, List.replicate len' 0, rfl, by simp, ?_⟩⟩
      simp [Access.perform, ChunkMemory.clearChunk, hrun]
  | poke index bytes => cases h

/-- The addresses of a resolved range stand one after the other in the window. -/
theorem windowIndex?_of_resolve (h : t.translator.resolve addr len = .ok o) {i : Nat} (hi : i < len) :
    t.regions.windowIndex? (addr.toNat + i) = some (o.toNat + i) := by
  obtain ⟨k, hk, hoff⟩ := Translator.exists_slot_of_resolve h
  have hle := hk.1
  rw [regions, RegionMap.windowIndex?_of_covers hk hi]
  congr 1
  omega

theorem storedFrom_fenced (h : t.translator.resolve addr bytes.length = .ok o) :
    StoredFrom t (t.withWindow (t.window.fenced kind o bytes)) addr.toNat bytes where
  inside i hi := by
    refine ⟨o.toNat + i, windowIndex?_of_resolve h hi, ?_⟩
    exact Memory.byteAt_write_add _ _ _ _ hi
  outside j hj := by
    refine Memory.byteAt_write_of_not_mem _ _ _ _ fun ⟨hle, hlt⟩ => ?_
    have hno := hj (j - o.toNat) (by omega)
    rw [windowIndex?_of_resolve h (by omega)] at hno
    exact hno (by congr 1; omega)
  size_eq := rfl
  translator_eq := rfl
  resetIssued_eq := rfl

/-- A store to the window is a store to the memory that the host sees. -/
theorem targetMemory_of_storedFrom (h : StoredFrom t t' start bytes) :
    t'.targetMemory = t.targetMemory.store start bytes := by
  have hregions : t'.regions = t.regions := congrArg Translator.regions h.translator_eq
  have hdefined : t.targetMemory.Defined start bytes.length := fun i hi => by
    obtain ⟨j, hj, -⟩ := h.inside i hi
    simp [targetMemory, hj]
  funext a
  unfold TargetMemory.store
  split
  · next hin =>
    obtain ⟨j, hj, hbyte⟩ := h.inside (a - start) (by omega)
    rw [show start + (a - start) = a by omega] at hj
    have hlt : a - start < bytes.length := by omega
    simp [targetMemory, hregions, hj, hbyte, List.getElem?_eq_getElem hlt]
  · next hout =>
    simp only [targetMemory, hregions]
    cases ha : t.regions.windowIndex? a with
    | none => rfl
    | some j =>
      simp only [Option.map_some, Option.some.injEq]
      refine h.outside j fun i hi hij => hout ?_
      have := RegionMap.windowIndex?_injective ha hij
      exact ⟨hdefined, by omega, by omega⟩

/-- A store to a range that does not resolve is no store. -/
theorem store_of_refused {e : LinkError} (h : t.translator.resolve addr bytes.length = .error e) :
    t.targetMemory.store addr.toNat bytes = t.targetMemory := by
  funext a
  unfold TargetMemory.store
  split
  · next hin =>
    obtain ⟨k, hk⟩ := (defined_iff_serves (by omega)).1 hin.1
    obtain ⟨o, hok, -⟩ := Translator.resolve_of_covers (by omega) hk
    rw [h] at hok
    cases hok
  · rfl

/-- Bytes that the target stores into the window are in its memory. -/
theorem targetMemory_poke (t : Transport RecordingWindow) (start : Nat) (bytes : List UInt8) :
    targetMemory { t with window := t.window.poke start bytes } =
      t.targetMemory.poke t.regions.windowIndex? start bytes := by
  funext a
  simp only [targetMemory, TargetMemory.poke, regions]
  cases t.translator.regions.windowIndex? a with
  | none => rfl
  | some i =>
    simp only [Option.map_some, RecordingWindow.poke]
    split
    · next hin =>
      rw [List.getElem?_eq_getElem (show i - start < bytes.length by omega)]
      have := Memory.byteAt_write_add t.window.memory start (i - start) bytes (by omega)
      rwa [show start + (i - start) = i by omega, ← Option.some.injEq] at this
    · next hout => rw [Memory.byteAt_write_of_not_mem _ _ _ _ hout]

/-- Every access leaves the map alone and does to the memory that the host sees what it does to a
flat one. -/
theorem step (hfits : s.state.Fits) (access : Access) :
    (access.perform.result s).2.state.Fits ∧
      (access.perform.result s).2.state.translator = s.state.translator ∧
      (access.perform.result s).2.state.targetMemory =
        access.effect s.state.regions.windowIndex? s.state.targetMemory := by
  cases hrange : access.range? with
  | none =>
    cases access with
    | poke start bytes => exact ⟨hfits, rfl, targetMemory_poke _ _ _⟩
    | _ => cases hrange
  | some range =>
    obtain ⟨addr, len⟩ := range
    rcases perform_cases hfits hrange with ⟨e, log, hres, hrun⟩ | ⟨o, log, hres, hrun⟩
    · rw [Action.result_of_error hrun]
      refine ⟨hfits, rfl, ?_⟩
      cases access with
      | read => rfl
      | write addr' bytes =>
        cases hrange
        exact (store_of_refused hres).symm
      | clear addr' len' =>
        cases hrange
        rw [← List.length_replicate (n := len) (a := (0 : UInt8))] at hres
        exact (store_of_refused hres).symm
      | poke => cases hrange
    · rcases hrun with ⟨rfl, hrun⟩ | ⟨kind, bytes, hstored, rfl, hrun⟩
      · rw [Action.result_of_ok hrun]
        exact ⟨hfits, rfl, rfl⟩
      · rw [Action.result_of_ok hrun]
        refine ⟨hfits, rfl, ?_⟩
        rw [targetMemory_of_storedFrom (storedFrom_fenced hres)]
        cases access <;> cases hstored <;> rfl

/-- A request of the host leaves the window bytes that belong to no slot. -/
theorem byteAt_step {j : Nat} (hfits : s.state.Fits) (hhost : access.isPoke = false)
    (hj : ∀ a, s.state.regions.windowIndex? a ≠ some j) :
    (access.perform.result s).2.state.window.memory.byteAt j = s.state.window.memory.byteAt j := by
  cases hrange : access.range? with
  | none => simp [Access.isPoke, hrange] at hhost
  | some range =>
    obtain ⟨addr, len⟩ := range
    rcases perform_cases hfits hrange with ⟨e, log, -, hrun⟩ | ⟨o, log, hres, hrun⟩
    · rw [Action.result_of_error hrun]
    · rcases hrun with ⟨-, hrun⟩ | ⟨kind, bytes, -, rfl, hrun⟩
      · rw [Action.result_of_ok hrun]
      · rw [Action.result_of_ok hrun]
        exact (storedFrom_fenced hres).outside j fun i _ => hj _

/-- The next request to a transport meets the memory that the host sees. -/
theorem isFlat (hfits : s.state.Fits) : IsFlat s s.state.targetMemory where
  succeeds_iff access addr len hrange hlen := by
    rw [defined_iff_serves hlen]
    constructor
    · rintro ⟨bytes, s', hok⟩
      rcases perform_cases hfits hrange with ⟨e, log, -, hrun⟩ | ⟨o, log, hres, -⟩
      · rw [hok] at hrun
        cases hrun
      · obtain ⟨k, hk, -⟩ := Translator.exists_slot_of_resolve hres
        exact ⟨k, hk⟩
    · rintro ⟨k, hk⟩
      obtain ⟨o, hok, -⟩ := Translator.resolve_of_covers hlen hk
      rcases perform_cases hfits hrange with ⟨e, log, hres, -⟩ | ⟨o', log, -, hrun⟩
      · rw [hok] at hres
        cases hres
      · rcases hrun with ⟨-, hrun⟩ | ⟨kind, bytes, -, -, hrun⟩ <;> exact ⟨_, _, hrun⟩
  read_ok addr len bytes s' hok := by
    have hrange : (Access.read addr len).range? = some (addr, len) := rfl
    rcases perform_cases hfits hrange with
      ⟨e, log, -, hrun⟩ | ⟨o, log, hres, ⟨-, hrun⟩ | ⟨kind, stored, hno, -⟩⟩
    · rw [hok] at hrun
      cases hrun
    · rw [hok] at hrun
      cases hrun
      refine ⟨Memory.length_read _ _ _, fun i hi => ?_, rfl⟩
      rw [Memory.getElem?_read, if_pos hi]
      simp [targetMemory, windowIndex?_of_resolve hres hi]
    · cases hno
  store_ok access addr bytes result s' hstored hok := by
    have hrange : access.range? = some (addr, bytes.length) := by
      cases access <;> cases hstored <;> simp [Access.range?]
    rcases perform_cases hfits hrange with
      ⟨e, log, -, hrun⟩ | ⟨o, log, hres, ⟨rfl, -⟩ | ⟨kind, bytes', hstored', -, hrun⟩⟩
    · rw [hok] at hrun
      cases hrun
    · cases hstored
    · rw [hok] at hrun
      cases hrun
      rw [hstored] at hstored'
      cases hstored'
      exact storedFrom_fenced hres
  failed access e s' herr := by
    cases hrange : access.range? with
    | none =>
      cases access with
      | poke => cases herr
      | _ => cases hrange
    | some range =>
      rcases perform_cases hfits hrange with ⟨e', log, -, hrun⟩ | ⟨o, log, -, hrun⟩
      · rw [herr] at hrun
        cases hrun
        rfl
      · rcases hrun with ⟨-, hrun⟩ | ⟨kind, bytes, -, -, hrun⟩ <;> (rw [herr] at hrun; cases hrun)

/-! ## Histories -/

/-- A history does to the memory that the host sees what it does to a flat one. -/
theorem targetMemory_run (hfits : s.state.Fits) (history : List Access) :
    (Access.run history s).state.Fits ∧
      (Access.run history s).state.translator = s.state.translator ∧
      (Access.run history s).state.targetMemory =
        history.foldl (Access.effect s.state.regions.windowIndex?) s.state.targetMemory := by
  induction history generalizing s with
  | nil => exact ⟨hfits, rfl, rfl⟩
  | cons access history ih =>
    obtain ⟨hfits', htranslator, hmemory⟩ := step hfits access
    obtain ⟨hfitsEnd, htranslatorEnd, hmemoryEnd⟩ := ih hfits'
    have hregions : (access.perform.result s).2.state.regions = s.state.regions :=
      congrArg Translator.regions htranslator
    rw [hmemory, hregions] at hmemoryEnd
    exact ⟨hfitsEnd, htranslatorEnd.trans htranslator, hmemoryEnd⟩

/-- Outside the slots, a history leaves what it would leave without the requests of the host. -/
theorem byteAt_run {r : Logged (Transport RecordingWindow)} {j : Nat} (hfits : s.state.Fits)
    (hj : ∀ a, s.state.regions.windowIndex? a ≠ some j)
    (heq : s.state.window.memory.byteAt j = r.state.window.memory.byteAt j)
    (history : List Access) : (Access.run history s).state.window.memory.byteAt j =
      (Access.run (history.filter Access.isPoke) r).state.window.memory.byteAt j := by
  induction history generalizing s r with
  | nil => exact heq
  | cons access history ih =>
    obtain ⟨hfits', htranslator, -⟩ := step hfits access
    have hj' : ∀ a, (access.perform.result s).2.state.regions.windowIndex? a ≠ some j := by
      have hregions : (access.perform.result s).2.state.regions = s.state.regions :=
        congrArg Translator.regions htranslator
      rwa [hregions]
    cases hhost : access.isPoke with
    | false =>
      rw [List.filter_cons_of_neg (by simp [hhost])]
      exact ih hfits' hj' ((byteAt_step hfits hhost hj).trans heq)
    | true =>
      rw [List.filter_cons_of_pos hhost]
      refine ih hfits' hj' ?_
      cases access with
      | poke start bytes =>
        change ((s.state.window.memory.write start bytes).byteAt j) =
          (r.state.window.memory.write start bytes).byteAt j
        rw [Memory.byteAt_write, Memory.byteAt_write, heq]
      | _ => cases hhost

/-- A transport behaves as one flat memory with three defined ranges: whatever host and target did
before, the host meets the memory that a flat one would have become by then. Each defined address has
a window byte of its own, a range of defined addresses lies in one region, and no request of the host
touches a window byte that stands behind no address. -/
theorem flat_of_isOver (h : IsOver w t) (log : Array Event) (history : List Access) :
    let index? := t.regions.windowIndex?
    let m := history.foldl (Access.effect index?) t.targetMemory
    let s := Access.run history ⟨t, log⟩
    (∀ a, (m a).isSome ↔ (0x1000 ≤ a ∧ a < 0x1000 + 0x2000) ∨
      (0x2000000 ≤ a ∧ a < 0x2000000 + 0x2000) ∨
      (0x80000000 ≤ a ∧ a < 0x80000000 + t.regions.dramSize.toNat)) ∧
    (∀ a, (m a).isSome → ∃ j, index? a = some j ∧ j < w.size.toNat ∧
      ∀ b, index? b = some j → b = a) ∧
    (∀ start len, 0 < len → m.Defined start len → ∃ k, (t.regions.slot k).Covers start len) ∧
    IsFlat s m ∧
    ∀ j, (∀ a, index? a ≠ some j) → s.state.window.memory.byteAt j =
      (Access.run (history.filter Access.isPoke) ⟨t, log⟩).state.window.memory.byteAt j := by
  intro index? m s
  obtain ⟨hfits, rfl, -⟩ := start_of_isOver h
  obtain ⟨hfits', htranslator, hmemory⟩ := targetMemory_run (s := ⟨t, log⟩) hfits history
  change s.state.targetMemory = m at hmemory
  have hregions : s.state.regions = t.regions := congrArg Translator.regions htranslator
  have hsome : ∀ a, (m a).isSome ↔ (index? a).isSome := fun a => by
    rw [← hmemory, targetMemory, hregions, Option.isSome_map]
  refine ⟨fun a => (hsome a).trans RegionMap.windowIndex?_isSome_iff, fun a ha => ?_,
    fun start len hlen hdefined => ?_, ?_, fun j hj => ?_⟩
  · obtain ⟨j, hj⟩ := Option.isSome_iff_exists.1 ((hsome a).1 ha)
    refine ⟨j, hj, ?_, fun b hb => RegionMap.windowIndex?_injective hb hj⟩
    rw [hfits]
    exact RegionMap.windowIndex?_lt hj
  · rw [← hmemory, defined_iff_serves hlen, hregions] at hdefined
    exact hdefined
  · rw [← hmemory]
    exact isFlat hfits'
  · exact byteAt_run (s := ⟨t, log⟩) (r := ⟨t, log⟩) hfits hj rfl history

/-- The host writes three bytes, the target overwrites the one in the middle, and the host reads. -/
theorem read_after_poke : ∃ t, IsOver (.ofSize 0x8000) t ∧ ∃ s',
    (Access.read ⟨0x80000000⟩ 3).perform
      (Access.run [.write ⟨0x80000000⟩ [1, 2, 3], .poke 1 [9]] ⟨t, #[]⟩) = .ok [1, 9, 3] s' := by
  obtain ⟨t, ht⟩ : ∃ t, ofWindow (RecordingWindow.ofSize 0x8000) (some 13) .strict = .ok t :=
    ⟨_, rfl⟩
  have hover : IsOver (.ofSize 0x8000) t := .inl ⟨_, _, ht⟩
  refine ⟨t, hover, ?_⟩
  obtain ⟨-, -, -, hflat, -⟩ :=
    flat_of_isOver hover #[] [.write ⟨0x80000000⟩ [1, 2, 3], .poke 1 [9]]
  cases ht
  obtain ⟨bytes, s', hread⟩ :=
    (hflat.succeeds_iff (.read ⟨0x80000000⟩ 3) _ _ rfl (by decide)).2 (by decide +kernel)
  obtain ⟨hlen, hbytes, -⟩ := hflat.read_ok _ _ _ _ hread
  have hfirst : bytes[0]? = some 1 := (hbytes 0 (by decide)).trans (by decide +kernel)
  have hmiddle : bytes[1]? = some 9 := (hbytes 1 (by decide)).trans (by decide +kernel)
  have hlast : bytes[2]? = some 3 := (hbytes 2 (by decide)).trans (by decide +kernel)
  rcases bytes with _ | ⟨a, _ | ⟨b, _ | ⟨c, _ | ⟨d, rest⟩⟩⟩⟩ <;> cases hlen
  cases hfirst
  cases hmiddle
  cases hlast
  exact ⟨s', hread⟩

end Transport

end TargetLink
