import TargetLink.Proofs.SelfTest.Check
import TargetLink.Proofs.SelfTest.Plan
import TargetLink.Proofs.Transport.Split
import TargetLink.Proofs.Transport.Stores

/-!
# The self-test over a transport

The planned self-test passes over every layout, leaves zeros where it tested and everything else alone,
and stores nothing in the slot of the interruptor, where a store could start the target.
-/

namespace TargetLink

open SelfTest (InSlot plan)

namespace RegionMap

variable {k : RegionKind}

theorem serving_slot (m : RegionMap) (k : RegionKind) : Serving (m.slot k).Covers := by
  have hcovers : (m.slot k).Covers (m.slot k).target (m.slot k).len := ⟨Nat.le_refl _, Nat.le_refl _⟩
  have hlt := serves_lt ⟨k, hcovers⟩
  exact serving_within (Nat.le_of_lt hlt)

/-- All slots but that of the interruptor lie below it. -/
theorem slot_add_le (m : RegionMap) (hk : k ≠ .clint) :
    (m.slot k).window + (m.slot k).len + 0x2000 ≤ m.windowSize.toNat := by
  have hfit := m.dramSize_add_le
  cases k with
  | bootRom => simp only [slot]; omega
  | clint => exact absurd rfl hk
  | dram => simp only [slot]; omega

end RegionMap

namespace Transport

variable {t₀ t t' : Transport RecordingWindow} {s : Logged (Transport RecordingWindow)}
  {addr : TargetAddr} {len : Nat} {bytes : List UInt8} {o : WindowOffset} {k : RegionKind}
  {range : TestRange} {kind : StoreKind}

/-! ## Stores that spare the interruptor -/

/-- All stores since `t₀` lie below the slot of the interruptor. -/
structure Spares (t₀ : Transport RecordingWindow) (s : Logged (Transport RecordingWindow)) : Prop where
  fits : s.state.Fits
  translator_eq : s.state.translator = t₀.translator
  saw : ∃ stores, t₀.window.Saw s.state.window stores ∧
    ∀ store ∈ stores, store.offset.toNat + store.len + 0x2000 ≤ t₀.regions.windowSize.toNat

theorem spares_start (hfits : t.Fits) (log : Array Event) : Spares t ⟨t, log⟩ where
  fits := hfits
  translator_eq := rfl
  saw := ⟨[], RecordingWindow.saw_nil _, List.forall_mem_nil _⟩

theorem spares_push (event : Event) (h : Spares t₀ s) :
    Spares t₀ { s with log := s.log.push event } :=
  ⟨h.fits, h.translator_eq, h.saw⟩

theorem Spares.store (h : Spares t₀ s) (hk : k ≠ .clint) (log : Array Event)
    (hcovers : (t₀.regions.slot k).Covers addr.toNat bytes.length)
    (hoff : o.toNat + (t₀.regions.slot k).target = (t₀.regions.slot k).window + addr.toNat) :
    Spares t₀ ⟨s.state.withWindow (s.state.window.fenced kind o bytes), log⟩ where
  fits := h.fits
  translator_eq := h.translator_eq
  saw := by
    obtain ⟨stores, hsaw, hspare⟩ := h.saw
    have hbelow := t₀.regions.slot_add_le hk
    have hend := hcovers.2
    refine ⟨_, hsaw.append (RecordingWindow.saw_fenced s.state.window kind o bytes), ?_⟩
    intro store hstore
    rcases List.mem_append.1 hstore with hstore | hstore
    · exact hspare store hstore
    · obtain rfl := List.mem_singleton.1 hstore
      change o.toNat + bytes.length + 0x2000 ≤ _
      omega

theorem Spares.exists_resolve (h : Spares t₀ s) (hlen : 0 < len)
    (hcovers : (t₀.regions.slot k).Covers addr.toNat len) :
    ∃ o, s.state.translator.resolve addr len = .ok o ∧
      o.toNat + (t₀.regions.slot k).target = (t₀.regions.slot k).window + addr.toNat := by
  rw [h.translator_eq]
  exact Translator.resolve_of_covers hlen hcovers

/-- Requests to a slot other than that of the interruptor spare it. -/
theorem keptWithin_spares (t₀ : Transport RecordingWindow) (hk : k ≠ .clint) :
    KeptWithin (t₀.regions.slot k).Covers (Grain.ofMemory t₀) (Spares t₀) where
  grain_eq _ := rfl
  read {addr len} hlen hcovers := by
    change Action.Ensures _ _ (readChunk addr len)
    intro s hs
    obtain ⟨o, hres, -⟩ := hs.exists_resolve hlen hcovers
    obtain ⟨log, hrun⟩ := readChunk_of_resolve hs.fits hres
    rw [hrun]
    exact ⟨Memory.length_read _ _ _, hs.fits, hs.translator_eq, hs.saw⟩
  write {addr bytes} hlen hcovers := by
    change Action.Keeps _ (writeChunk addr bytes)
    intro s hs
    obtain ⟨o, hres, hoff⟩ := hs.exists_resolve hlen hcovers
    obtain ⟨log, hrun⟩ := writeChunk_of_resolve hs.fits hres
    rw [hrun]
    exact ⟨trivial, hs.store hk log hcovers hoff⟩
  clear {addr len} hlen hcovers := by
    change Action.Keeps _ (clearChunk addr len)
    intro s hs
    obtain ⟨o, hres, hoff⟩ := hs.exists_resolve hlen hcovers
    obtain ⟨log, hrun⟩ := clearChunk_of_resolve hs.fits hres
    rw [hrun]
    exact ⟨trivial, hs.store hk log (by rwa [List.length_replicate]) hoff⟩

/-! ## The planned self-test -/

theorem resolve_of_inSlot (h : InSlot t.regions range) :
    ∃ o, t.translator.resolve range.addr range.len = .ok o ∧
      o.toNat + (t.regions.slot range.region).target =
        (t.regions.slot range.region).window + range.addr.toNat :=
  Translator.resolve_of_covers h.len_pos h.covers

theorem keeps_spares_check (h : InSlot t₀.regions range) :
    Action.Keeps (Spares t₀) (SelfTest.check range) := by
  have hkept := keptWithin_spares t₀ h.ne_clint
  have hserving := t₀.regions.serving_slot range.region
  obtain ⟨hdown, hup⟩ := h.hull_eq
  have hhull : (t₀.regions.slot range.region).Covers (alignDown 8 range.addr.toNat)
      (alignUp 8 (range.addr.toNat + range.len) - alignDown 8 range.addr.toNat) := by
    rw [hdown, hup, Nat.add_sub_cancel_left]
    exact h.covers
  refine SelfTest.keeps_check spares_push ?_ ?_ ?_
  · intro bytes hbytes
    exact hkept.transferWrite hserving fun _ => by rwa [hbytes]
  · exact hkept.transferRead hserving fun _ => hhull
  · exact hkept.transferClear hserving fun _ => hhull

/-- A window byte of the ranges. -/
def Tested (t : Transport RecordingWindow) (ranges : List TestRange) (j : Nat) : Prop :=
  ∃ range ∈ ranges, ∃ o, t.translator.resolve range.addr range.len = .ok o ∧
    o.toNat ≤ j ∧ j < o.toNat + range.len

theorem tested_iff {ranges : List TestRange} {j : Nat}
    (hranges : ∀ range ∈ ranges, InSlot t.regions range) :
    Tested t ranges j ↔ ∃ range ∈ ranges, SelfTest.InWindow t.regions range j := by
  refine exists_congr fun range => and_congr_right fun hrange => ?_
  obtain ⟨o, hres, hoff⟩ := resolve_of_inSlot (hranges range hrange)
  constructor
  · rintro ⟨o', hres', hle, hlt⟩
    obtain rfl : o = o' := Except.ok.inj (hres.symm.trans hres')
    exact ⟨by omega, by omega⟩
  · rintro ⟨hle, hlt⟩
    exact ⟨o, hres, by omega, by omega⟩

theorem byteAt_of_tested {ranges : List TestRange} {j : Nat}
    (hsound : (viewFrom t).sound t')
    (hcontents : (viewFrom t).contents t' =
      ranges.foldl SelfTest.cleared ((viewFrom t).contents t))
    (hj : Tested t ranges j) : t'.window.memory.byteAt j = 0 := by
  obtain ⟨range, hrange, o, hres, hle, hlt⟩ := hj
  have hindex := windowIndex?_of_resolve hres (show j - o.toNat < range.len by omega)
  rw [Nat.add_sub_cancel' hle] at hindex
  rcases byteAt_of_contents hsound hcontents j with ⟨a, ha, hbyte⟩ | ⟨hno, -⟩
  · obtain rfl := RegionMap.windowIndex?_injective ha hindex
    rw [hbyte]
    exact SelfTest.foldl_cleared_of_mem hrange ⟨Nat.le_add_right _ _, by omega⟩
  · exact absurd hindex (hno _)

theorem byteAt_of_not_tested {ranges : List TestRange} {j : Nat}
    (hranges : ∀ range ∈ ranges, InSlot t.regions range) (hsound : (viewFrom t).sound t')
    (hcontents : (viewFrom t).contents t' =
      ranges.foldl SelfTest.cleared ((viewFrom t).contents t))
    (hj : ¬ Tested t ranges j) : t'.window.memory.byteAt j = t.window.memory.byteAt j := by
  rcases byteAt_of_contents hsound hcontents j with ⟨a, ha, hbyte⟩ | ⟨-, hbyte⟩
  · rw [hbyte, SelfTest.foldl_cleared_of_not_mem]
    · simp [viewFrom, view, targetMemory, ha]
    · rintro range hrange ⟨hle, hlt⟩
      obtain ⟨o, hres, -⟩ := resolve_of_inSlot (hranges range hrange)
      have hindex := windowIndex?_of_resolve hres (show a - range.addr.toNat < range.len by omega)
      rw [Nat.add_sub_cancel' hle, ha] at hindex
      have hplace := Option.some.inj hindex
      exact hj ⟨range, hrange, o, hres, by omega, by omega⟩
  · exact hbyte

/-- A self-test of ranges in slots passes, and what it leaves is known of the memory that the host
sees. -/
theorem run_of_inSlot {ranges : List TestRange} (hfits : t.Fits) (log : Array Event)
    (hranges : ∀ range ∈ ranges, InSlot t.regions range) :
    ∃ s', SelfTest.run ranges ⟨t, log⟩ = .ok ⟨ranges⟩ s' ∧ (viewFrom t).sound s'.state ∧
      (viewFrom t).contents s'.state =
        ranges.foldl SelfTest.cleared ((viewFrom t).contents t) := by
  refine SelfTest.run_of_faithful (s := ⟨t, log⟩) t.regions.endsApart_serves.toServing
    (faithful_viewFrom t)
    (sound_viewFrom hfits) ?_
  intro range hrange
  have hslot := hranges range hrange
  obtain ⟨hdown, hup⟩ := hslot.hull_eq
  refine ⟨hslot.len_pos, (hullServed_iff t range.addr range.len).2 ⟨range.region, ?_⟩⟩
  rw [hdown, hup]
  exact hslot.covers

theorem keeps_spares_run {ranges : List TestRange}
    (hranges : ∀ range ∈ ranges, InSlot t₀.regions range) :
    Action.Keeps (Spares t₀) (SelfTest.run ranges) :=
  SelfTest.keeps_run spares_push fun range hrange => keeps_spares_check (hranges range hrange)

/-- Whatever the layout and whatever the window holds, the planned self-test passes and reports the planned
ranges. It leaves zeros where these are in the window and all other bytes as they were: the bytes between
the two ends of DRAM, those of a chunk that DRAM does not fill, those between DRAM and the boot ROM, and
those of the interruptor. No store reaches into the slot of the interruptor, which is the last 8 KiB of the
window, and the target counts as started afterwards if it did before. -/
theorem selfTest_passes (hfits : t.Fits) (log : Array Event) :
    let size := t.window.size.toNat
    let usable := t.regions.dramSize.toNat - t.regions.dramSize.toNat % 8
    let tested := min usable 0x10000
    ∃ s', SelfTest.run (plan t.regions) ⟨t, log⟩ = .ok ⟨plan t.regions⟩ s' ∧
      (∀ range ∈ plan t.regions, ∃ o, t.translator.resolve range.addr range.len = .ok o) ∧
      (∀ j, Tested t (plan t.regions) j ↔ j < tested ∨ (usable - tested ≤ j ∧ j < usable) ∨
        (size - 0x4000 ≤ j ∧ j < size - 0x2000)) ∧
      (∀ j, Tested t (plan t.regions) j → s'.state.window.memory.byteAt j = 0) ∧
      (∀ j, ¬ Tested t (plan t.regions) j →
        s'.state.window.memory.byteAt j = t.window.memory.byteAt j) ∧
      (∃ stores, t.window.Saw s'.state.window stores ∧
        ∀ store ∈ stores, store.offset.toNat + store.len ≤ size - 0x2000) ∧
      s'.state.resetIssued = t.resetIssued := by
  intro size usable tested
  have hslots : ∀ range ∈ plan t.regions, InSlot t.regions range :=
    fun _ => SelfTest.inSlot_of_mem_plan
  have hsize : size = t.regions.windowSize.toNat := congrArg UInt64.toNat hfits
  obtain ⟨s', hrun, hsound, hcontents⟩ := run_of_inSlot hfits log hslots
  have hspares := (keeps_spares_run hslots).result (spares_start hfits log)
  rw [Action.result_of_ok hrun] at hspares
  obtain ⟨-, -, stores, hsaw, hbelow⟩ := hspares
  refine ⟨s', hrun, ?_, ?_, fun j => byteAt_of_tested hsound hcontents,
    fun j => byteAt_of_not_tested hslots hsound hcontents, ⟨stores, hsaw, ?_⟩, hsound.2.2.1⟩
  · intro range hrange
    obtain ⟨o, hres, -⟩ := resolve_of_inSlot (hslots range hrange)
    exact ⟨o, hres⟩
  · intro j
    rw [tested_iff hslots, SelfTest.exists_inWindow_plan_iff, hsize]
    rfl
  · intro store hstore
    have hle := hbelow store hstore
    omega

/-- Of thirteen bytes of DRAM only the first eight are tested, so a byte behind them is not lost. -/
theorem selfTest_passes_before_partial_chunk : ∃ t : Transport RecordingWindow, t.Fits ∧
    t.window.memory.byteAt 3 = 7 ∧ t.window.memory.byteAt 10 = 9 ∧
    ∃ s', SelfTest.run (plan t.regions) ⟨t, #[]⟩ = .ok ⟨plan t.regions⟩ s' ∧
      s'.state.window.memory.byteAt 3 = 0 ∧ s'.state.window.memory.byteAt 10 = 9 := by
  let w := ((RecordingWindow.ofSize 0x8000).poke 3 [7]).poke 10 [9]
  obtain ⟨t, ht⟩ : ∃ t : Transport RecordingWindow,
      t = ⟨w, ⟨⟨0x8000, 13, by decide, by decide, by decide⟩, .strict⟩, false⟩ := ⟨_, rfl⟩
  have hfits : t.Fits := by
    rw [ht]
    rfl
  have hkept : t.window.memory.byteAt 10 = 9 := by
    rw [ht]
    decide +kernel
  obtain ⟨s', hrun, -, htested, hzero, hsame, -⟩ := selfTest_passes hfits #[]
  refine ⟨t, hfits, ?_, hkept, s', hrun, hzero 3 ?_, (hsame 10 ?_).trans hkept⟩
  · rw [ht]
    decide +kernel
  · rw [htested, ht]
    decide +kernel
  · rw [htested, ht]
    decide +kernel

end Transport

end TargetLink
