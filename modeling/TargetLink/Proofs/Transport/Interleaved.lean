import TargetLink.Proofs.Transfer.Interleaved
import TargetLink.Proofs.Transport.Faithful

/-!
# A transport under which the target runs

The target stores at its own addresses, and what it stores there appears in the window at the place that
the regions give to the address. So the host meets the target's stores where it would look for them, and
transfers over a transport share the memory with the target as they do over a flat memory.
-/

namespace TargetLink

namespace Transport

instance : SharedMemory (Transport RecordingWindow) where
  poke addr value t :=
    match t.regions.windowIndex? addr.toNat with
    | some j => t.withWindow (t.window.poke j [value])
    | none => t
  sameGrain_poke _ _ _ := ⟨rfl, rfl⟩

/-- Transports with a given translator, whether the target was started or not. -/
def sharedView (translator : Translator) : View (Transport RecordingWindow) where
  align := Layout.chunkAlign
  sound t := t.Fits ∧ t.translator = translator
  contents := (view translator).contents

theorem faithful_sharedView (translator : Translator) :
    (sharedView translator).Faithful translator.regions.Serves := by
  refine faithful_of_stores id ?_
  rintro t t' start bytes ⟨hfits, htranslator⟩ h
  exact ⟨fits_of_storedFrom hfits h, h.translator_eq.trans htranslator⟩

theorem shared_sharedView (translator : Translator) :
    (sharedView translator).Shared translator.regions.Serves where
  sound {t} addr value hsound := by
    simp only [SharedMemory.poke]
    split <;> exact hsound
  contents {t x} addr value hsound hx := by
    obtain ⟨-, rfl⟩ := hsound
    obtain ⟨i, hi⟩ := Option.isSome_iff_exists.1 ((RegionMap.serves_iff Nat.one_pos).1 hx 0 Nat.one_pos)
    rw [Nat.add_zero] at hi
    change t.regions.windowIndex? x = some i at hi
    have hcontents (w : RecordingWindow) :
        (sharedView t.translator).contents (t.withWindow w) x = w.memory.byteAt i := by
      change ((t.regions.windowIndex? x).map w.memory.byteAt).getD 0 = _
      rw [hi]
      rfl
    have hold : (sharedView t.translator).contents t x = t.window.memory.byteAt i :=
      hcontents t.window
    rw [hold]
    simp only [SharedMemory.poke]
    cases hj : t.regions.windowIndex? addr.toNat with
    | none =>
      have hne : addr.toNat ≠ x := by
        rintro rfl
        rw [hi] at hj
        cases hj
      rw [if_neg hne]
      exact hold
    | some j =>
      have hpoke := hcontents (t.window.poke j [value])
      rw [RecordingWindow.poke] at hpoke
      by_cases heq : addr.toNat = x
      · rw [heq, hi] at hj
        cases hj
        have hbyte := Memory.byteAt_write_add t.window.memory i 0 [value] Nat.one_pos
        rw [if_pos heq]
        exact hpoke.trans hbyte
      · have hne : j ≠ i := by
          rintro rfl
          exact heq (RegionMap.windowIndex?_injective hj hi)
        rw [if_neg heq]
        refine hpoke.trans (Memory.byteAt_write_of_not_mem _ _ _ _ ?_)
        rw [List.length_singleton]
        omega

end Transport

/-- A write or a clear that succeeds over a flat memory or over a transport, while the target stores whatever it
wants wherever it wants before each of the chunk requests: outside the hull all is as the target left it; next to
the bytes that the transfer is for, too, but for what the target stored between the read and the write of the chunk
that holds both; and a byte that the transfer is for is as the transfer stored it, unless the target stored it
later. An aligned transfer loses nothing. Only if the flat memory has all addresses a transfer past the last one
might go on at zero; there it is to end in front of it. -/
theorem Job.target_stores_kept (job : Job) (hread : job.isRead = false) :
    (∀ {σ : Type} [ChunkMemory σ] [SteadyGrain σ] [SharedMemory σ] {v : View σ} {base : TargetAddr}
        {size : Nat}, base.toNat + size ≤ UInt64.size →
        size < UInt64.size ∨ job.addr.toNat + job.len ≤ UInt64.size →
        v.Guarded (Within base.toNat size) → v.Shared (Within base.toNat size) →
      ∀ {s : Logged σ} {turns bytes t}, v.sound s.state →
        job.perform (Interleaved.start s turns) = .ok bytes t →
        job.Interleaves (Within base.toNat size) (max (ChunkMemory.chunkAlign s.state) 1)
          t.state.moves (v.contents s.state) (v.contents t.state.inner)) ∧
    ∀ {s : Logged (Transport RecordingWindow)} {turns bytes t}, s.state.Fits →
      job.perform (Interleaved.start s turns) = .ok bytes t →
      job.Interleaves s.state.regions.Serves 8 t.state.moves
        (fun a => (s.state.targetMemory a).getD 0) fun a => (t.state.inner.targetMemory a).getD 0 := by
  refine ⟨?_, ?_⟩
  · intro σ _ _ _ v base size hend hlast hguarded hshared s turns bytes t hsound hok
    exact interleaves_of_ok (serving_within hend) hguarded hshared (servedInRow_within hend hlast) hread
      hsound hok
  · intro s turns bytes t hfits hok
    have happart := s.state.regions.endsApart_serves
    exact interleaves_of_ok happart.toServing (Transport.faithful_sharedView s.state.translator).guarded
      (Transport.shared_sharedView s.state.translator) happart.servedInRow hread ⟨hfits, rfl⟩ hok

/-- Two bytes are written across the border of two chunks. Of what the target stores between the read and the
write of the first chunk, the byte next to the two is lost, and the one that it stored before is kept. -/
theorem Job.target_stores_kept_but_one : ∃ (s : Logged FlatMemory) (t : Logged (Interleaved FlatMemory)),
    (Job.write ⟨0x1007⟩ [1, 2]).perform (Interleaved.start s
      [[(⟨0x1000⟩, 5)], [(⟨0x1001⟩, 6), (⟨0x1007⟩, 7)], [(⟨0x100F⟩, 8)]]) = .ok [] t ∧
    t.state.inner.memory.read 0 2 = [5, 0] ∧ t.state.inner.memory.read 7 2 = [1, 2] ∧
    t.state.inner.memory.byteAt 15 = 8 ∧
    (Job.write ⟨0x1007⟩ [1, 2]).Interleaves (Within 0x1000 16) 8 t.state.moves
      ((FlatMemory.faultyView ⟨0x1000⟩ 16 8).contents s.state)
      ((FlatMemory.faultyView ⟨0x1000⟩ 16 8).contents t.state.inner) := by
  have hend : (TargetAddr.mk 0x1000).toNat + 16 ≤ UInt64.size := by decide
  let s : Logged FlatMemory := .start ⟨⟨0x1000⟩, 16, 8, 8, .empty, none, [], #[], 0, false⟩
  let x := (Job.write ⟨0x1007⟩ [1, 2]).perform.result (Interleaved.start s
    [[(⟨0x1000⟩, 5)], [(⟨0x1001⟩, 6), (⟨0x1007⟩, 7)], [(⟨0x100F⟩, 8)]])
  have hok : x.1.toBool = true := by decide +kernel
  have hbytes : x.2.state.inner.memory.read 0 2 = [5, 0] ∧ x.2.state.inner.memory.read 7 2 = [1, 2] ∧
      x.2.state.inner.memory.byteAt 15 = 8 := by decide +kernel
  cases hrun : (Job.write ⟨0x1007⟩ [1, 2]).perform (Interleaved.start s
    [[(⟨0x1000⟩, 5)], [(⟨0x1001⟩, 6), (⟨0x1007⟩, 7)], [(⟨0x100F⟩, 8)]]) with
  | error e t =>
    simp only [x, Action.result_of_error hrun] at hok
    cases hok
  | ok bytes t =>
    simp only [x, Action.result_of_ok hrun] at hbytes
    obtain ⟨hlow, hown, hhigh⟩ := hbytes
    obtain ⟨_, u, -, hpure⟩ := Action.bind_eq_ok hrun
    cases hpure
    exact ⟨s, _, hrun, hlow, hown, hhigh, (target_stores_kept _ rfl).1 hend (.inl (by decide))
      (FlatMemory.guarded_faultyView ⟨0x1000⟩ 16 8 hend)
      (FlatMemory.shared_faultyView ⟨0x1000⟩ 16 8 hend) ⟨rfl, rfl, rfl⟩ hrun⟩

end TargetLink
