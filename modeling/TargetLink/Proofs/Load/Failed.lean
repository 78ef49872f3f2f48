import TargetLink.Proofs.Load
import TargetLink.Proofs.Transfer.Guarded
import TargetLink.Proofs.Transport.Split

/-!
# What a failed load leaves

It has stored a front of the image and not started the target. That front may lie in the slot of the
interruptor: an image that is loaded there and is too long for the slot raises the interrupt that starts
the target all the same, if its first bytes say so.
-/

namespace TargetLink

/-! ## Pieces at a border -/

namespace Grain

variable {g : Grain} {addr : TargetAddr} {len border : Nat} {p : Piece} {ps front back : List Piece}

/-- Pieces up to the first one that does not satisfy a condition. -/
theorem eq_takeWhile {good : Piece → Prop} [DecidablePred good] (h : ps = front ++ p :: back)
    (hfront : ∀ q ∈ front, good q) (hp : ¬ good p) : front = ps.takeWhile fun q => good q := by
  rw [h, List.takeWhile_append_of_pos (by simpa using hfront),
    List.takeWhile_cons_of_neg (by simpa using hp), List.append_nil]

theorem alignedPieces_at_border (halign : g.align = 8) (hmax : g.bodyMax = 0x100000)
    (hborder : 8 ∣ border) (haddr : 8 ∣ addr.toNat) (hle : addr.toNat ≤ border)
    (hnear : border < addr.toNat + 0x100000) (hlow : border < 0x80000000)
    (hpast : border < addr.toNat + len) :
    ∃ front p back, g.alignedPieces addr len = front ++ p :: back ∧
      (∀ q ∈ front, addr.toNat ≤ q.start.toNat ∧ q.start.toNat + q.extent g ≤ border) ∧
      (addr.toNat ≤ p.start.toNat ∧ p.start.toNat ≤ border ∧ border < p.start.toNat + p.extent g) ∧
      Piece.totalLen front = if addr.toNat + len < border + 8 then border - addr.toNat else 0 := by
  have hbody : g.bodyLen len = min (len - len % 8) 0x100000 := by rw [bodyLen, halign, hmax]
  by_cases hshort : len < 8
  · -- Less than a chunk is left, so the pieces begin at the border.
    have hedge : g.alignedPieces addr len = [.edge addr 0 len] := by
      rw [alignedPieces, halign, if_pos hshort, if_neg (by omega)]
    refine ⟨[], _, [], hedge, List.forall_mem_nil _, ⟨Nat.le_refl _, hle, ?_⟩, ?_⟩
    · change border < addr.toNat + g.align
      omega
    · rw [if_pos (by omega)]
      change 0 = _
      omega
  · have hcons : g.alignedPieces addr len = .whole addr (g.bodyLen len) ::
        g.alignedPieces (addr + g.bodyLen len) (len - g.bodyLen len) := by
      rw [alignedPieces, halign, if_neg hshort]
    by_cases hfits : addr.toNat + g.bodyLen len ≤ border
    · -- The first piece reaches the border, and what is left is less than a chunk.
      have hreach : addr.toNat + g.bodyLen len = border := by omega
      have hnext : (addr + g.bodyLen len).toNat = border := by
        rw [toNat_add_of_lt (by simp only [UInt64.size]; omega), hreach]
      have hedge : g.alignedPieces (addr + g.bodyLen len) (len - g.bodyLen len) =
          [.edge (addr + g.bodyLen len) 0 (len - g.bodyLen len)] := by
        rw [alignedPieces, halign, if_pos (by omega), if_neg (by omega)]
      rw [hedge] at hcons
      refine ⟨[_], _, [], hcons, ?_, ?_, ?_⟩
      · rw [List.forall_mem_singleton]
        exact ⟨Nat.le_refl _, hfits⟩
      · change addr.toNat ≤ (addr + g.bodyLen len).toNat ∧ (addr + g.bodyLen len).toNat ≤ border ∧
          border < (addr + g.bodyLen len).toNat + g.align
        omega
      · rw [if_pos (by omega)]
        change g.bodyLen len + 0 = _
        omega
    · refine ⟨[], _, _, hcons, List.forall_mem_nil _, ⟨Nat.le_refl _, hle, by
        change border < addr.toNat + g.bodyLen len
        omega⟩, ?_⟩
      rw [if_neg (by omega)]
      rfl

/-- Where a transfer that begins in front of a border and goes beyond it meets the border: it reaches it
if it ends in the chunk behind, and otherwise it comes no further than its first aligned address. -/
theorem pieces_at_border (halign : g.align = 8) (hmax : g.bodyMax = 0x100000)
    (hborder : 8 ∣ border) (haddr : addr.toNat < border) (hnear : border < addr.toNat + 0x100000)
    (hlow : border < 0x80000000) (hpast : border < addr.toNat + len) :
    ∃ front p back, g.pieces addr len = front ++ p :: back ∧
      (∀ q ∈ front,
        alignDown 8 addr.toNat ≤ q.start.toNat ∧ q.start.toNat + q.extent g ≤ border) ∧
      (alignDown 8 addr.toNat ≤ p.start.toNat ∧ p.start.toNat ≤ border ∧
        border < p.start.toNat + p.extent g) ∧
      Piece.totalLen front = if addr.toNat + len < border + 8 then border - addr.toNat
        else alignUp 8 addr.toNat - addr.toNat := by
  have hbase := g.alignedBase_add_skew addr
  have hdown := g.alignedBase_toNat addr
  have hdvd := g.dvd_alignedBase addr
  rw [halign] at hdown hdvd
  rcases g.pieces_cases addr (show 0 < len by omega) with ⟨haligned, hpieces⟩ |
    ⟨hskew, hfits, -⟩ | ⟨head, hskew, hfull, hhead, hlt, hpieces⟩
  · rw [halign] at haligned
    obtain ⟨front, p, back, heq, hfront, hp, htotal⟩ :=
      alignedPieces_at_border halign hmax hborder haligned (by omega) hnear hlow hpast
    rw [alignDown_of_dvd (by decide) haligned, alignUp_of_dvd (by decide) haligned, Nat.sub_self]
    exact ⟨front, p, back, hpieces.trans heq, hfront, hp, htotal⟩
  · rw [halign] at hfits
    omega
  · rw [halign] at hfull
    have hnext : (addr + head).toNat = addr.toNat + head :=
      toNat_add_of_lt (by simp only [UInt64.size]; omega)
    have haligned : 8 ∣ (addr + head).toNat := by omega
    have hup : alignUp 8 addr.toNat = (addr + head).toNat := by
      unfold alignUp
      omega
    have hrest : border < (addr + head).toNat + (len - head) := by omega
    obtain ⟨front, p, back, heq, hfront, hp, htotal⟩ :=
      alignedPieces_at_border halign hmax hborder haligned (by omega) (by omega) hlow hrest
    rw [heq] at hpieces
    refine ⟨_ :: front, p, back, hpieces, ?_, ?_, ?_⟩
    · rw [List.forall_mem_cons]
      refine ⟨⟨Nat.le_of_eq hdown.symm, ?_⟩, ?_⟩
      · change (g.alignedBase addr).toNat + g.align ≤ border
        omega
      · intro q hq
        have hin := hfront q hq
        omega
    · omega
    · rw [Piece.totalLen, htotal, hup, hnext]
      change head + _ = _
      split <;> split <;> omega

end Grain

namespace RegionMap

variable {m : RegionMap} {g : Grain} {addr : TargetAddr} {front : List Piece} {n x : Nat}

/-- Pieces in a row that are served and reach the end of their chunks are served as one range. -/
theorem serves_of_cut (hcut : Grain.Cut g addr.toNat front (addr.toNat + n))
    (hfull : ∀ q ∈ front, q.Full g) (hserves : ∀ q ∈ front, m.Serves q.start.toNat (q.extent g))
    (hn : 0 < n) : m.Serves addr.toNat n := by
  rw [serves_iff hn]
  intro i hi
  obtain ⟨q, hq, hle, hlt⟩ := (hcut.lt_iff_covered hfull (Nat.le_add_right _ i)).1 (by omega)
  have hindex := (serves_iff (by omega)).1 (hserves q hq) (addr.toNat + i - q.start.toNat) (by omega)
  rwa [show q.start.toNat + (addr.toNat + i - q.start.toNat) = addr.toNat + i by omega] at hindex

theorem serves_clint_iff (hlo : 0x2000000 ≤ x) (hhi : x ≤ 0x2002000) :
    m.Serves x n ↔ x + n ≤ 0x2002000 := by
  constructor
  · rintro ⟨k, h⟩
    cases k <;> simp only [slot, Slot.Covers] at h <;> omega
  · intro h
    refine ⟨.clint, ?_⟩
    simp only [slot, Slot.Covers]
    omega

end RegionMap

/-! ## The front of the image -/

open Transport

variable {t : Transport RecordingWindow} {log : Array Event} {addr : TargetAddr}
  {image : List UInt8} {e : LinkError} {s' : Logged (Transport RecordingWindow)}

/-- Only writing the image can fail, the start of the target behind it cannot. -/
theorem write_error_of_loadAndStart (hfits : t.Fits) (hreset : t.resetIssued = false)
    (herr : loadAndStart addr image ⟨t, log⟩ = .error e s') :
    Transfer.write addr image ⟨t, log.push (.imageLoading addr image.length)⟩ = .error e s' := by
  rcases Action.bind_eq_error herr with hemit | ⟨_, s₁, hemit, hrest⟩
  · cases hemit
  · cases hemit
    rcases Action.bind_eq_error hrest with hwrite | ⟨⟨⟩, ⟨t', log'⟩, hok, hstart⟩
    · exact hwrite
    · have hsound : (viewFrom t).sound t := sound_viewFrom hfits
      obtain ⟨⟨hfits', -, hreset', -⟩, -⟩ :=
        View.write_of_ok t.regions.endsApart_serves (faithful_viewFrom t) hsound hok
      obtain ⟨o, log'', -, hraised⟩ := reset_apply log' hfits' (hreset'.trans hreset)
      have hrun : EStateM.Result.error e s' = EStateM.Result.ok () _ := hstart.symm.trans hraised
      cases hrun

/-- Writing to the slot of the interruptor comes as far as the end of the slot, or only to the first
aligned address. -/
theorem front_at_interruptor {g : Grain} {front back : List Piece} {p : Piece} (halign : g.align = 8)
    (hmax : g.bodyMax = 0x100000) (hlo : 0x2000000 ≤ addr.toNat) (hhi : addr.toNat < 0x2002000)
    (hpieces : g.pieces addr image.length = front ++ p :: back)
    (hserves : ∀ q ∈ front, t.regions.Serves q.start.toNat (q.extent g))
    (hp : ¬ t.regions.Serves p.start.toNat (p.extent g)) (hpast : 0x2002000 < addr.toNat + image.length) :
    Piece.totalLen front = if addr.toNat + image.length < 0x2002008 then 0x2002000 - addr.toNat
      else alignUp 8 addr.toNat - addr.toNat := by
  classical
  have hdown : 0x2000000 ≤ alignDown 8 addr.toNat := by
    unfold alignDown
    omega
  obtain ⟨front', p', back', hpieces', hfront', ⟨hstart, hbefore, hbeyond⟩, htotal⟩ :=
    Grain.pieces_at_border halign hmax (show 8 ∣ 0x2002000 by decide) hhi (by omega) (by decide) hpast
  have hserves' : ∀ q ∈ front', t.regions.Serves q.start.toNat (q.extent g) := by
    intro q hq
    obtain ⟨hge, hle⟩ := hfront' q hq
    rw [RegionMap.serves_clint_iff (by omega) (by omega)]
    exact hle
  have hp' : ¬ t.regions.Serves p'.start.toNat (p'.extent g) := by
    rw [RegionMap.serves_clint_iff (by omega) hbefore]
    omega
  have hfront := Grain.eq_takeWhile hpieces hserves hp
  rw [← Grain.eq_takeWhile hpieces' hserves' hp'] at hfront
  rw [hfront, htotal]

/-- A write that failed has stored a front of its bytes, where their address resolves to. -/
theorem write_of_error (hfits : t.Fits) (herr : Transfer.write addr image ⟨t, log⟩ = .error e s') :
    ∃ o k, k < image.length ∧ (0 < k → t.translator.resolve addr k = .ok o) ∧
      (viewFrom t).sound s'.state ∧
      (∀ j, s'.state.window.memory.byteAt j =
        (t.window.memory.write o.toNat (image.take k)).byteAt j) ∧
      (0x2000000 ≤ addr.toNat → addr.toNat < 0x2002000 →
        k = if addr.toNat + image.length < 0x2002008 then 0x2002000 - addr.toNat
          else alignUp 8 addr.toNat - addr.toNat) := by
  have happart := t.regions.endsApart_serves
  have hfaithful := faithful_viewFrom t
  have hsound : (viewFrom t).sound (Logged.mk t log).state := sound_viewFrom hfits
  obtain ⟨front, p, back, hpieces, hserves, hp, hsound', hcontents⟩ :=
    View.write_of_error happart hfaithful hsound herr
  have hk := Grain.totalLen_front_lt hpieces
  have hcut := happart.cut_of_pieces hpieces hserves
  obtain ⟨o, hres⟩ : ∃ o, 0 < Piece.totalLen front →
      t.translator.resolve addr (Piece.totalLen front) = .ok o := by
    by_cases hpos : 0 < Piece.totalLen front
    · obtain ⟨k, hcovers⟩ := RegionMap.serves_of_cut hcut
        (fun q hq => Grain.full_of_pieces hpieces hq) hserves hpos
      obtain ⟨o, hres, -⟩ := Translator.resolve_of_covers (t := t.translator) hpos hcovers
      exact ⟨o, fun _ => hres⟩
    · exact ⟨.zero, fun h => absurd h hpos⟩
  have htake : (image.take (Piece.totalLen front)).length = Piece.totalLen front :=
    List.length_take_of_le (by omega)
  refine ⟨o, Piece.totalLen front, hk, hres, hsound', ?_, ?_⟩
  · exact byteAt_of_write hsound' hcontents (by rwa [htake])
  · intro hlo hhi
    have hmax : max (0x100000 - 0x100000 % max 8 1) (max 8 1) = 0x100000 := by decide
    refine front_at_interruptor (g := Grain.ofMemory t) rfl hmax hlo hhi hpieces hserves hp ?_
    -- An image that ended in the slot would have been served.
    refine Nat.lt_of_not_le ?_
    intro hend
    have hhull : (viewFrom t).HullServed t.regions.Serves addr image.length := by
      rw [hullServed_iff]
      refine ⟨.clint, ?_⟩
      change 0x2000000 ≤ alignDown 8 addr.toNat ∧
        alignUp 8 (addr.toNat + image.length) ≤ 0x2000000 + 0x2000
      unfold alignDown alignUp
      omega
    have hall := (View.hullServed_iff happart hfaithful hsound (by omega)).1 hhull
    refine hp (hall p ?_)
    rw [hpieces]
    exact List.mem_append_right _ List.mem_cons_self

/-- A load that fails has not issued the start of the target, and has stored a front of the image. That
front is in the slot of the interruptor only if the image was to begin there. Then it ends with the slot, if
the image would have ended in the chunk behind, and else with the chunk in which the image begins, if that
is not its first byte. -/
theorem loadAndStart_failed (hfits : t.Fits) (hreset : t.resetIssued = false)
    (herr : loadAndStart addr image ⟨t, log⟩ = .error e s') :
    let interruptor := t.window.size.toNat - 0x2000
    let before := t.window.memory
    let after := s'.state.window.memory
    s'.state.resetIssued = false ∧
    (∃ (o : WindowOffset) (k : Nat), k < image.length ∧
      (0 < k → t.translator.translate addr = .ok o) ∧
      ∀ j, after.byteAt j = (before.write o.toNat (image.take k)).byteAt j) ∧
    (¬ (0x2000000 ≤ addr.toNat ∧ addr.toNat < 0x2002000) →
      ∀ j, interruptor ≤ j → j < t.window.size.toNat → after.byteAt j = before.byteAt j) ∧
    (0x2000000 ≤ addr.toNat → addr.toNat < 0x2002000 → ∀ j, after.byteAt j =
      (before.write (interruptor + (addr.toNat - 0x2000000))
        (image.take (if addr.toNat + image.length < 0x2002008 then 0x2002000 - addr.toNat
          else alignUp 8 addr.toNat - addr.toNat))).byteAt j) := by
  intro interruptor before after
  obtain ⟨o, k, hk, hres, ⟨-, -, hreset', -⟩, hbytes, hinterruptor⟩ :=
    write_of_error hfits (write_error_of_loadAndStart hfits hreset herr)
  have htake : (image.take k).length = k := List.length_take_of_le (by omega)
  have hsize : t.window.size.toNat = t.translator.regions.windowSize.toNat :=
    congrArg UInt64.toNat hfits
  have hfit := t.translator.regions.dramSize_add_le
  refine ⟨hreset'.trans hreset, ⟨o, k, hk, ?_, hbytes⟩, ?_, ?_⟩
  · intro hpos
    exact Translator.translate_of_resolve (hres hpos)
  · intro hout j hlo hhi
    refine (hbytes j).trans (Memory.byteAt_write_of_not_mem _ _ _ _ ?_)
    rintro ⟨hle, hlt⟩
    -- A byte of the slot was stored, so the slot is that of the address.
    obtain ⟨kind, hcovers, hoff⟩ := Translator.exists_slot_of_resolve (hres (by omega))
    cases kind <;> simp only [RegionMap.slot, Slot.Covers] at hcovers hoff <;> omega
  · intro hlo hhi j
    have hK := hinterruptor hlo hhi
    rw [← hK]
    by_cases hpos : 0 < k
    · obtain ⟨kind, hcovers, hoff⟩ := Translator.exists_slot_of_resolve (hres hpos)
      have hplace : o.toNat = interruptor + (addr.toNat - 0x2000000) := by
        cases kind <;> simp only [RegionMap.slot, Slot.Covers] at hcovers hoff <;> omega
      rw [← hplace]
      exact hbytes j
    · obtain rfl : k = 0 := by omega
      have hsame : after.byteAt j = before.byteAt j := hbytes j
      exact hsame

/-- An image for the slot of the interruptor that is one byte too long for it is not loaded. Its bytes up to
the end of the slot are stored all the same, and raise the interrupt. -/
theorem loadAndStart_failed_raises : ∃ t, IsOver (.ofSize 0x8000) t ∧
    ∃ (e : LinkError) (s' : Logged (Transport RecordingWindow)),
      loadAndStart ⟨0x2000000⟩ (List.replicate 0x2001 1) ⟨t, #[]⟩ = .error e s' ∧
      s'.state.resetIssued = false ∧ t.window.memory.byteAt 0x6000 = 0 ∧
      s'.state.window.memory.byteAt 0x6000 = 1 := by
  obtain ⟨t, ht⟩ : ∃ t, ofWindow (RecordingWindow.ofSize 0x8000) none .strict = .ok t := ⟨_, rfl⟩
  have hover : IsOver (.ofSize 0x8000) t := .inl ⟨_, _, ht⟩
  obtain ⟨hfits, hwindow, hreset⟩ := start_of_isOver hover
  have hinvalid : t.translator.validate ⟨0x2000000⟩ 0x2001 = false := by
    cases ht
    decide +kernel
  rcases loadAndStart_cases hfits hreset #[] ⟨0x2000000⟩ (List.replicate 0x2001 1) with
    ⟨hnil | ⟨hvalid, -⟩, -⟩ | ⟨-, e, s', herr, -⟩
  · have hlen := congrArg List.length hnil
    rw [List.length_replicate] at hlen
    cases hlen
  · rw [List.length_replicate, hinvalid] at hvalid
    cases hvalid
  · obtain ⟨hreset', -, -, hbytes⟩ := loadAndStart_failed hfits hreset herr
    have hraised := hbytes (by decide) (by decide) 0x6000
    have hplace : (RecordingWindow.ofSize 0x8000).size.toNat - 0x2000 +
        ((TargetAddr.mk 0x2000000).toNat - 0x2000000) = 0x6000 := by decide
    have hcount : min (0x2002000 - (TargetAddr.mk 0x2000000).toNat) 0x2001 = 0x2000 := by decide
    rw [hwindow, hplace, List.length_replicate, if_pos (by decide), List.take_replicate, hcount]
      at hraised
    refine ⟨t, hover, e, s', herr, hreset', by rw [hwindow]; rfl, ?_⟩
    have hfirst := Memory.byteAt_write_add (RecordingWindow.ofSize 0x8000).memory 0x6000 0
      (List.replicate 0x2000 1) (by rw [List.length_replicate]; decide)
    rw [List.getElem_replicate] at hfirst
    exact hraised.trans hfirst

end TargetLink
