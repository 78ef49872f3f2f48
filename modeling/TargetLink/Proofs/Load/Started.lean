import TargetLink.Proofs.Load
import TargetLink.Proofs.Transport.Split
import TargetLink.Proofs.Transport.Stores

/-!
# What a successful load has done

It has stored the image, chunk by chunk and each store behind a barrier, and then it has started the
target with one last store.
-/

namespace TargetLink

open Transport

variable {t : Transport RecordingWindow} {log : Array Event} {addr : TargetAddr}
  {image : List UInt8} {s' : Logged (Transport RecordingWindow)}

/-- Bytes that were written whole are in the window where their address resolves to, and the stores that
brought them there fill the chunks around them. -/
theorem write_of_ok (hfits : t.Fits) (hlen : 0 < image.length)
    (hrun : Transfer.write addr image ⟨t, log⟩ = .ok () s') :
    ∃ o lo stores, t.translator.resolve addr image.length = .ok o ∧
      t.window.Saw s'.state.window stores ∧ lo + (addr.toNat - alignDown 8 addr.toNat) = o.toNat ∧
      Fills lo stores (lo + (alignUp 8 (addr.toNat + image.length) - alignDown 8 addr.toNat)) ∧
      (viewFrom t).sound s'.state ∧
      (viewFrom t).contents s'.state = ((viewFrom t).contents t).write addr.toNat image := by
  have happart := t.regions.endsApart_serves
  have hfaithful := faithful_viewFrom t
  have hsound : (viewFrom t).sound (Logged.mk t log).state := sound_viewFrom hfits
  have hhull := (View.ok_iff (View.write_returns happart.toServing hfaithful hsound)
    (View.write_fails happart hfaithful hsound hlen)).1 ⟨_, _, hrun⟩
  obtain ⟨hsound', hcontents⟩ := View.write_of_ok happart hfaithful hsound hrun
  obtain ⟨k, hlo, hhi⟩ := (hullServed_iff t addr image.length).1 hhull
  have hdown := alignDown_le 8 addr.toNat
  have hup := le_alignUp (show 0 < 8 by decide) (addr.toNat + image.length)
  have hcovers : (t.regions.slot k).Covers addr.toNat image.length := ⟨by omega, by omega⟩
  obtain ⟨o, hres, hoff⟩ := Translator.resolve_of_covers (t := t.translator) hlen hcovers
  change o.toNat + (t.regions.slot k).target = (t.regions.slot k).window + addr.toNat at hoff
  have hend : t.regions.Serves (alignDown 8 addr.toNat)
      (alignUp 8 (addr.toNat + image.length) - alignDown 8 addr.toNat) := ⟨k, hlo, by omega⟩
  have hlt := RegionMap.serves_lt hend
  let g := Grain.ofMemory t
  have hcut : Grain.Cut g addr.toNat (g.pieces addr image.length) (addr.toNat + image.length) :=
    Grain.cut_pieces (by omega)
  have hsum := g.totalLen_pieces addr image.length
  have hne : g.pieces addr image.length ≠ [] := by
    intro hnil
    rw [hnil] at hsum
    exact absurd hsum (Nat.ne_of_lt hlen)
  have htiles := hcut.tiles (r := fun p => .write p.start (p.extent g)) (fun _ => rfl) hne
  obtain ⟨lo, hlo'⟩ : ∃ lo, lo + (t.regions.slot k).target =
      (t.regions.slot k).window + alignDown 8 addr.toNat :=
    ⟨(t.regions.slot k).window + (alignDown 8 addr.toNat - (t.regions.slot k).target), by omega⟩
  obtain ⟨stores, hsaw, hfills, -⟩ := writePieces_of_ok (s := ⟨t, log⟩) (k := k) hfits
    (fun _ => Grain.proper_of_mem_pieces) hsum.symm htiles hlo hhi hlo'
    (Transfer.write_eq.symm.trans hrun)
  exact ⟨o, lo, stores, hres, hsaw, by omega, hfills, hsound', hcontents⟩

/-- What a write has done when the target is about to be started, whether there was anything to write
or not. -/
theorem write_stores (hfits : t.Fits) (hrun : Transfer.write addr image ⟨t, log⟩ = .ok () s') :
    ∃ (o : WindowOffset) (stores : List Store), (image = [] → stores = []) ∧
      (image ≠ [] → t.translator.translate addr = .ok o ∧
        ∃ lo, lo + (addr.toNat - alignDown 8 addr.toNat) = o.toNat ∧
          Fills lo stores
            (lo + (alignUp 8 (addr.toNat + image.length) - alignDown 8 addr.toNat))) ∧
      t.window.Saw s'.state.window stores ∧
      (∀ j, s'.state.window.memory.byteAt j = (t.window.memory.write o.toNat image).byteAt j) ∧
      (viewFrom t).sound s'.state := by
  by_cases hnil : image = []
  · rw [hnil, Transfer.write_nil] at hrun
    cases hrun
    refine ⟨.zero, [], fun _ => rfl, fun hne => absurd hnil hne, RecordingWindow.saw_nil _, ?_,
      sound_viewFrom hfits⟩
    intro j
    rw [hnil]
    rfl
  · obtain ⟨o, lo, stores, hres, hsaw, hlo, hfills, hsound, hcontents⟩ :=
      write_of_ok hfits (List.length_pos_iff.2 hnil) hrun
    refine ⟨o, stores, fun h => absurd h hnil, fun _ => ⟨Translator.translate_of_resolve hres, ?_⟩,
      hsaw, ?_, hsound⟩
    · exact ⟨lo, hlo, hfills⟩
    · exact byteAt_of_write hsound hcontents fun _ => hres

/-- A load that succeeds has seen to it that nothing is missing when the target starts. The stores that it
added to the record fill, one after the other, the chunks around the image where the window has them, and
the very last one is the store of four bytes that starts the target. There is a barrier between any two of
them and one behind the last. The window holds the image and then the raised interrupt, and its other bytes
are as before. -/
theorem loadAndStart_stores (hfits : t.Fits) (hreset : t.resetIssued = false)
    (hok : loadAndStart addr image ⟨t, log⟩ = .ok () s') :
    let interruptor := t.window.size.toNat - 0x2000
    ∃ (o : WindowOffset) (writes : List Store) (last : Store),
      (image = [] → writes = []) ∧
      (image ≠ [] → t.translator.translate addr = .ok o ∧
        ∃ lo, lo + (addr.toNat - alignDown 8 addr.toNat) = o.toNat ∧
          Fills lo writes
            (lo + (alignUp 8 (addr.toNat + image.length) - alignDown 8 addr.toNat))) ∧
      (last.kind = .write ∧ last.offset.toNat = interruptor ∧ last.len = 4) ∧
      t.window.Saw s'.state.window (writes ++ [last]) ∧
      (∀ i (hi : i < image.length), ¬ (interruptor ≤ o.toNat + i ∧ o.toNat + i < interruptor + 4) →
        s'.state.window.memory.byteAt (o.toNat + i) = image[i]) ∧
      (∀ i (hi : i < 4),
        s'.state.window.memory.byteAt (interruptor + i) = ([1, 0, 0, 0] : List UInt8)[i]) ∧
      (∀ j, ¬ (o.toNat ≤ j ∧ j < o.toNat + image.length) →
        ¬ (interruptor ≤ j ∧ j < interruptor + 4) →
          s'.state.window.memory.byteAt j = t.window.memory.byteAt j) ∧
      s'.state.resetIssued = true := by
  intro interruptor
  obtain ⟨_, s₁, hemit, hrest⟩ := Action.bind_eq_ok hok
  obtain ⟨⟨⟩, ⟨t', log'⟩, hwrite, hstart⟩ := Action.bind_eq_ok hrest
  cases hemit
  obtain ⟨o, writes, hempty, hfull, hsaw, hbytes, hfits', htranslator, hreset', -⟩ :=
    write_stores hfits hwrite
  obtain ⟨last, log'', hlast, hraised⟩ := reset_apply log' hfits' (hreset'.trans hreset)
  have hrun : EStateM.Result.ok () s' = EStateM.Result.ok () _ := hstart.symm.trans hraised
  cases hrun
  have hsize : t'.window.size = t.window.size := by
    rw [show t'.window.size = t'.regions.windowSize from hfits', show t'.regions = t.regions from
      congrArg Translator.regions htranslator]
    exact hfits.symm
  have hplace : last.toNat = interruptor := by
    rw [hsize] at hlast
    omega
  have hword (j : Nat) (hj : ¬ (interruptor ≤ j ∧ j < interruptor + 4)) :
      (t'.window.memory.write last.toNat msipRaised).byteAt j =
        (t.window.memory.write o.toNat image).byteAt j := by
    rw [← hbytes j]
    exact Memory.byteAt_write_of_not_mem _ _ _ _ (by rwa [hplace])
  refine ⟨o, writes, _, hempty, hfull, ⟨rfl, hplace, rfl⟩,
    hsaw.append (RecordingWindow.saw_fenced t'.window .write last msipRaised), ?_, ?_, ?_, rfl⟩
  · intro i hi hout
    exact (hword _ hout).trans (Memory.byteAt_write_add _ _ _ _ hi)
  · intro i hi
    rw [← hplace]
    exact Memory.byteAt_write_add _ _ _ msipRaised hi
  · intro j hout hout'
    exact (hword j hout').trans (Memory.byteAt_write_of_not_mem _ _ _ _ hout)

/-- An image of two bytes across the border of two chunks. -/
theorem loadAndStart_stores_across : ∃ t, IsOver (.ofSize 0x8000) t ∧
    ∃ (s' : Logged (Transport RecordingWindow)) (writes : List Store) (last : Store),
      loadAndStart ⟨0x80000007⟩ [1, 2] ⟨t, #[]⟩ = .ok () s' ∧ last.offset.toNat = 0x6000 ∧
      t.window.Saw s'.state.window (writes ++ [last]) ∧
      s'.state.window.memory.byteAt 7 = 1 ∧ s'.state.window.memory.byteAt 8 = 2 ∧
      s'.state.window.memory.byteAt 0x6000 = 1 := by
  obtain ⟨t, ht⟩ : ∃ t, ofWindow (RecordingWindow.ofSize 0x8000) none .strict = .ok t := ⟨_, rfl⟩
  have hover : IsOver (.ofSize 0x8000) t := .inl ⟨_, _, ht⟩
  obtain ⟨hfits, hwindow, hreset⟩ := start_of_isOver hover
  have htranslate : t.translator.translate ⟨0x80000007⟩ = .ok ⟨7⟩ := by
    cases ht
    rfl
  rcases loadAndStart_cases hfits hreset #[] ⟨0x80000007⟩ [1, 2] with ⟨-, s', hok, -⟩ | ⟨hno, -⟩
  · obtain ⟨o, writes, last, -, hfull, ⟨-, hoffset, -⟩, hsaw, himage, hword, -⟩ :=
      loadAndStart_stores hfits hreset hok
    obtain ⟨hplace, -⟩ := hfull (List.cons_ne_nil _ _)
    rw [htranslate] at hplace
    cases hplace
    rw [hwindow] at hoffset himage hword
    exact ⟨t, hover, s', writes, last, hok, hoffset, hsaw, himage 0 (by decide) (by decide),
      himage 1 (by decide) (by decide), hword 0 (by decide)⟩
  · refine absurd (.inr ⟨?_, ?_⟩) hno
    · cases ht
      decide +kernel
    · rintro ⟨-, hcut⟩
      cases ht
      exact absurd hcut (by decide +kernel)

end TargetLink
