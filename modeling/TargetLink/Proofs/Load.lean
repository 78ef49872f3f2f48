import TargetLink.Load
import TargetLink.Proofs.Transfer.Exact
import TargetLink.Proofs.Transport.Faithful

/-!
# Which images are loaded

Loading asks for chunks of eight bytes, and an image is loaded exactly if the chunks that it touches
lie in one slot. The slots of the boot ROM and of the interruptor are made of whole chunks, but DRAM
may end inside one.
-/

namespace TargetLink

/-- The range reaches into a chunk that DRAM does not fill. -/
def RegionMap.CutsShort (m : RegionMap) (start len : Nat) : Prop :=
  0x80000000 ≤ start ∧ 0x80000000 + m.dramSize.toNat < alignUp 8 (start + len)

namespace Transport

variable {translator : Translator} {t : Transport RecordingWindow} {addr : TargetAddr} {len : Nat}

/-- The chunks of a range lie in one slot exactly if the range does and DRAM fills them. -/
theorem hullServed_iff_validate (hlen : 0 < len) :
    (view translator).HullServed translator.regions.Serves addr len ↔
      translator.validate addr len = true ∧ ¬ translator.regions.CutsShort addr.toNat len := by
  have halign : max (view translator).align 1 = 8 := rfl
  rw [Translator.validate_iff_serves hlen, View.HullServed, halign, RegionMap.CutsShort]
  have hdown := alignDown_le 8 addr.toNat
  have hup := le_alignUp (show 0 < 8 by decide) (addr.toNat + len)
  constructor
  · rintro ⟨k, hstart, hend⟩
    refine ⟨⟨k, by omega, by omega⟩, fun hcut => ?_⟩
    cases k <;> simp only [RegionMap.slot] at hstart hend <;> omega
  · rintro ⟨⟨k, hstart, hend⟩, hcut⟩
    refine ⟨k, ?_⟩
    -- Slots begin at multiples of eight, and all but that of DRAM end at one.
    unfold alignDown alignUp at *
    cases k <;> simp only [RegionMap.slot, Slot.Covers] at hstart hend ⊢ <;> omega

/-- Starting the target is one store of four bytes, where the slot of the interruptor begins. -/
theorem reset_apply (log : Array Event) (hfits : t.Fits) (hreset : t.resetIssued = false) :
    ∃ (o : WindowOffset) (log' : Array Event), o.toNat + 0x2000 = t.window.size.toNat ∧
      reset ⟨t, log⟩ = .ok () ⟨{ t.withWindow (t.window.fenced .write o msipRaised) with
        resetIssued := true }, log'⟩ := by
  obtain ⟨o, hplace, hres⟩ := resolve_msip hfits
  obtain ⟨log', hrun⟩ := reset_of_resolve (s := ⟨t, log⟩) hfits hreset hres
  exact ⟨o, log', hplace, hrun⟩

end Transport

open Transport

variable {t : Transport RecordingWindow} {log : Array Event} {addr : TargetAddr}
  {image : List UInt8} {c : Contents}

theorem loadAndStart_of_returns
    (hwrite : (view t.translator).Returns (Transfer.write addr image)
      ⟨t, log.push (.imageLoading addr image.length)⟩ () c) :
    ∃ s', loadAndStart addr image ⟨t, log⟩ = .ok () s' ∧ s'.state.resetIssued = true := by
  obtain ⟨⟨t', log'⟩, hrun, ⟨hfits, -, hreset⟩, -⟩ := hwrite
  obtain ⟨o, log'', -, hstart⟩ := reset_apply log' hfits hreset
  refine ⟨⟨{ t'.withWindow (t'.window.fenced .write o msipRaised) with resetIssued := true }, log''⟩,
    ?_, rfl⟩
  simp only [loadAndStart, Action.bind_apply, Action.emit_apply, hrun]
  exact hstart

theorem loadAndStart_of_fails
    (hwrite : (view t.translator).Fails (Transfer.write addr image)
      ⟨t, log.push (.imageLoading addr image.length)⟩) :
    ∃ e s', loadAndStart addr image ⟨t, log⟩ = .error e s' ∧ s'.state.resetIssued = false := by
  obtain ⟨e, s', hrun, -, -, hreset⟩ := hwrite
  refine ⟨e, s', ?_, hreset⟩
  simp only [loadAndStart, Action.bind_apply, Action.emit_apply, hrun]

/-- Loading either starts the target or fails and does not, and which of the two is known beforehand. -/
theorem loadAndStart_cases (hfits : t.Fits) (hreset : t.resetIssued = false) (log : Array Event)
    (addr : TargetAddr) (image : List UInt8) :
    ((image = [] ∨ t.translator.validate addr image.length = true ∧
        ¬ t.regions.CutsShort addr.toNat image.length) ∧
      ∃ s', loadAndStart addr image ⟨t, log⟩ = .ok () s' ∧ s'.state.resetIssued = true) ∨
    (¬ (image = [] ∨ t.translator.validate addr image.length = true ∧
        ¬ t.regions.CutsShort addr.toNat image.length) ∧
      ∃ e s', loadAndStart addr image ⟨t, log⟩ = .error e s' ∧ s'.state.resetIssued = false) := by
  have hsound : (view t.translator).sound t := ⟨hfits, rfl, hreset⟩
  have happart := t.translator.regions.endsApart_serves
  have hfaithful := faithful_view t.translator
  by_cases hnil : image = []
  · refine .inl ⟨.inl hnil, loadAndStart_of_returns (c := (view t.translator).contents t) ?_⟩
    rw [hnil]
    exact ⟨_, Transfer.write_nil, hsound, rfl⟩
  · have hlen : 0 < image.length := List.length_pos_iff.2 hnil
    rw [or_iff_right hnil]
    by_cases hhull : (view t.translator).HullServed t.translator.regions.Serves addr image.length
    · exact .inl ⟨(hullServed_iff_validate hlen).1 hhull,
        loadAndStart_of_returns (View.write_returns happart.toServing hfaithful hsound hhull)⟩
    · exact .inr ⟨fun h => hhull ((hullServed_iff_validate hlen).2 h),
        loadAndStart_of_fails (View.write_fails happart hfaithful hsound hlen hhull)⟩

/-- An image is loaded exactly if it is empty or it is valid and DRAM fills its chunks; the target is
started if it is loaded and not otherwise. So loading and validity disagree in two cases: an empty image
starts the target from any address, and an image in a chunk that DRAM does not fill is not loaded. -/
theorem loadAndStart_ok_iff (hfits : t.Fits) (hreset : t.resetIssued = false) (log : Array Event)
    (addr : TargetAddr) (image : List UInt8) :
    let valid := t.translator.validate addr image.length = true
    let cutsShort := t.regions.CutsShort addr.toNat image.length
    let loads := ∃ u s', loadAndStart addr image ⟨t, log⟩ = .ok u s'
    (loads ↔ image = [] ∨ valid ∧ ¬ cutsShort) ∧
    (¬ (loads ↔ valid) ↔ (image = [] ∧ ¬ valid) ∨ (image ≠ [] ∧ valid ∧ cutsShort)) ∧
    (∀ u s', loadAndStart addr image ⟨t, log⟩ = .ok u s' → s'.state.resetIssued = true) ∧
    ∀ e s', loadAndStart addr image ⟨t, log⟩ = .error e s' → s'.state.resetIssued = false := by
  intro valid cutsShort loads
  have hiff : loads ↔ image = [] ∨ valid ∧ ¬ cutsShort := by
    rcases loadAndStart_cases hfits hreset log addr image with
      ⟨hloads, s', hok, -⟩ | ⟨hno, e, s', herr, -⟩
    · exact ⟨fun _ => hloads, fun _ => ⟨(), s', hok⟩⟩
    · refine ⟨fun ⟨u, r, hok⟩ => ?_, fun h => absurd h hno⟩
      rw [hok] at herr
      cases herr
  refine ⟨hiff, ?_, fun u s' hok => ?_, fun e s' herr => ?_⟩
  · rw [hiff]
    by_cases hnil : image = [] <;> by_cases hvalid : valid <;> by_cases hcut : cutsShort <;>
      simp [hnil, hvalid, hcut]
  · rcases loadAndStart_cases hfits hreset log addr image with
      ⟨-, r, hrun, hissued⟩ | ⟨-, e, r, hrun, -⟩
    · rw [hok] at hrun
      cases hrun
      exact hissued
    · rw [hok] at hrun
      cases hrun
  · rcases loadAndStart_cases hfits hreset log addr image with
      ⟨-, r, hrun, -⟩ | ⟨-, e', r, hrun, hissued⟩
    · rw [herr] at hrun
      cases hrun
    · rw [herr] at hrun
      cases hrun
      exact hissued

/-- With thirteen bytes of DRAM, five bytes at its ninth are valid and not loaded. Loading nothing at
an address that no region answers for starts the target. -/
theorem loadAndStart_disagrees : ∃ t, IsOver (.ofSize 0x8000) t ∧
    (t.translator.validate ⟨0x80000008⟩ 5 = true ∧
      ¬ ∃ u s', loadAndStart ⟨0x80000008⟩ [1, 2, 3, 4, 5] ⟨t, #[]⟩ = .ok u s') ∧
    (t.translator.validate ⟨0x10⟩ 0 = false ∧
      ∃ u s', loadAndStart ⟨0x10⟩ [] ⟨t, #[]⟩ = .ok u s' ∧ s'.state.resetIssued = true) := by
  obtain ⟨t, ht⟩ : ∃ t, ofWindow (RecordingWindow.ofSize 0x8000) (some 13) .strict = .ok t :=
    ⟨_, rfl⟩
  have hover : IsOver (.ofSize 0x8000) t := .inl ⟨_, _, ht⟩
  obtain ⟨hfits, -, hreset⟩ := start_of_isOver hover
  obtain ⟨hfull, -, -, -⟩ := loadAndStart_ok_iff hfits hreset #[] ⟨0x80000008⟩ [1, 2, 3, 4, 5]
  obtain ⟨hempty, -, hstarted, -⟩ := loadAndStart_ok_iff hfits hreset #[] ⟨0x10⟩ []
  obtain ⟨u, s', hok⟩ := hempty.2 (.inl rfl)
  refine ⟨t, hover, ⟨?_, ?_⟩, ?_, u, s', hok, hstarted u s' hok⟩
  · cases ht
    decide +kernel
  · rw [hfull]
    rintro (hnil | ⟨-, hcut⟩)
    · cases hnil
    · refine hcut ?_
      cases ht
      exact ⟨by decide, by decide +kernel⟩
  · cases ht
    decide +kernel

end TargetLink
