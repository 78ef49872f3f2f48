import TargetLink.Proofs.Transfer.Exact
import TargetLink.Proofs.Transfer.Requests
import TargetLink.Proofs.Transport.Faithful

/-!
# Split and unsplit access

A transfer over a transport is cut into chunk requests by a layer that knows nothing of regions. It
still comes to the same as one chunk request for all of its bytes, provided that the chunks which it
touches lie in one slot, and where they do not it fails.
-/

namespace TargetLink

/-! ## Jobs with a faithful memory -/

namespace Job

variable {σ : Type} [ChunkMemory σ] [SteadyGrain σ] {v : View σ} {serves : Nat → Nat → Prop}
  {s : Logged σ} {job : Job}

/-- What the transfer returns from a memory with the contents `c`. -/
def answer (c : Contents) : Job → List UInt8
  | .read addr len => c.read addr.toNat len
  | _ => []

theorem returns (hserving : Serving serves) (h : v.Faithful serves) (hsound : v.sound s.state)
    (hhull : v.HullServed serves job.addr job.len) :
    v.Returns job.perform s (job.answer (v.contents s.state))
      ((v.contents s.state).write job.addr.toNat job.stored) := by
  cases job with
  | read addr len =>
    change v.Returns _ _ _ ((v.contents s.state).write addr.toNat [])
    rw [Contents.write_nil]
    exact View.read_returns hserving h hsound hhull
  | write addr bytes =>
    refine (View.write_returns hserving h hsound hhull).bind ?_
    intro s' hsound' hcontents
    exact ⟨s', rfl, hsound', hcontents⟩
  | clear addr len =>
    refine (View.clear_returns hserving h hsound hhull).bind ?_
    intro s' hsound' hcontents
    exact ⟨s', rfl, hsound', hcontents⟩

theorem fails (happart : EndsApart serves) (h : v.Faithful serves) (hsound : v.sound s.state)
    (hlen : 0 < job.len) (hhull : ¬ v.HullServed serves job.addr job.len) :
    v.Fails job.perform s := by
  cases job with
  | read addr len => exact View.read_fails happart h hsound hlen hhull
  | write addr bytes => exact (View.write_fails happart h hsound hlen hhull).bind
  | clear addr len => exact (View.clear_fails happart h hsound hlen hhull).bind

/-- The transfer as one chunk request, whatever its address and its length. -/
def access : Job → Access
  | .read addr len => .read addr len
  | .write addr bytes => .write addr bytes
  | .clear addr len => .clear addr len

end Job

namespace Transport

variable {v : View (Transport RecordingWindow)} {serves : Nat → Nat → Prop}
  {s : Logged (Transport RecordingWindow)} {t : Transport RecordingWindow} {job : Job}

/-- A chunk request for the bytes of a transfer does what the transfer does. -/
theorem access_returns (h : v.Faithful serves) (hsound : v.sound s.state) (hlen : 0 < job.len)
    (hserves : serves job.addr.toNat job.len) :
    v.Returns job.access.perform s (job.answer (v.contents s.state))
      ((v.contents s.state).write job.addr.toNat job.stored) := by
  cases job with
  | read addr len =>
    change v.Returns _ _ _ ((v.contents s.state).write addr.toNat [])
    rw [Contents.write_nil]
    exact h.read hsound hlen hserves
  | write addr bytes =>
    refine (h.write hsound hlen hserves).bind ?_
    intro s' hsound' hcontents
    exact ⟨s', rfl, hsound', hcontents⟩
  | clear addr len =>
    refine (h.clear hsound hlen hserves).bind ?_
    intro s' hsound' hcontents
    exact ⟨s', rfl, hsound', hcontents⟩

theorem hullServed_iff (t : Transport RecordingWindow) (addr : TargetAddr) (len : Nat) :
    (viewFrom t).HullServed t.regions.Serves addr len ↔
      ∃ k, (t.regions.slot k).target ≤ alignDown 8 addr.toNat ∧
        alignUp 8 (addr.toNat + len) ≤ (t.regions.slot k).target + (t.regions.slot k).len := by
  have halign : max (viewFrom t).align 1 = 8 := rfl
  have hdown := alignDown_le 8 addr.toNat
  have hup := le_alignUp (show 0 < 8 by decide) (addr.toNat + len)
  rw [View.HullServed, halign]
  refine exists_congr fun k => ?_
  unfold Slot.Covers
  omega

/-- Slots begin where the regions do, and that of the interruptor ends before its region. -/
theorem exists_slot_iff (m : RegionMap) (lo hi : Nat) :
    (∃ k, (m.slot k).target ≤ lo ∧ hi ≤ (m.slot k).target + (m.slot k).len) ↔
      (0x1000 ≤ lo ∧ hi ≤ 0x1000 + 0x2000) ∨ (0x2000000 ≤ lo ∧ hi ≤ 0x2000000 + 0x2000) ∨
        (0x80000000 ≤ lo ∧ hi ≤ 0x80000000 + m.dramSize.toNat) := by
  constructor
  · rintro ⟨k, h⟩
    cases k with
    | bootRom => exact .inl h
    | clint => exact .inr (.inl h)
    | dram => exact .inr (.inr h)
  · rintro (h | h | h)
    · exact ⟨.bootRom, h⟩
    · exact ⟨.clint, h⟩
    · exact ⟨.dram, h⟩

/-- A transfer of some bytes over a transport succeeds exactly if the chunks that it touches lie in the
reachable part of one region. They end before the last address then, and one chunk request for the bytes
of the transfer, without any cutting, returns the same and leaves the same bytes in the window. -/
theorem split_agrees (hfits : t.Fits) (log : Array Event) (job : Job) (hlen : 0 < job.len) :
    let lo := alignDown 8 job.addr.toNat
    let hi := alignUp 8 (job.addr.toNat + job.len)
    ((∃ bytes s', job.perform ⟨t, log⟩ = .ok bytes s') ↔
      (0x1000 ≤ lo ∧ hi ≤ 0x1000 + 0x2000) ∨ (0x2000000 ≤ lo ∧ hi ≤ 0x2000000 + 0x2000) ∨
        (0x80000000 ≤ lo ∧ hi ≤ 0x80000000 + t.regions.dramSize.toNat)) ∧
    ∀ bytes s', job.perform ⟨t, log⟩ = .ok bytes s' → hi < UInt64.size ∧
      ∃ r, job.access.perform ⟨t, log⟩ = .ok bytes r ∧
        ∀ j, s'.state.window.memory.byteAt j = r.state.window.memory.byteAt j := by
  intro lo hi
  have happart := t.regions.endsApart_serves
  have hfaithful := faithful_viewFrom t
  have hsound : (viewFrom t).sound (Logged.mk t log).state := sound_viewFrom hfits
  have hreturns (hhull : (viewFrom t).HullServed t.regions.Serves job.addr job.len) :=
    Job.returns happart.toServing hfaithful hsound hhull
  have hok := View.ok_iff hreturns (Job.fails happart hfaithful hsound hlen)
  refine ⟨?_, ?_⟩
  · rw [hok, hullServed_iff, exists_slot_iff]
  · intro bytes s' hrun
    have hhull := hok.1 ⟨bytes, s', hrun⟩
    obtain ⟨t', hrun', hsound', hcontents⟩ := hreturns hhull
    rw [hrun] at hrun'
    cases hrun'
    obtain ⟨k, hlo, hhi⟩ := (hullServed_iff t job.addr job.len).1 hhull
    have hdown := alignDown_le 8 job.addr.toNat
    have hup := le_alignUp (show 0 < 8 by decide) (job.addr.toNat + job.len)
    have hserves : t.regions.Serves job.addr.toNat job.len := ⟨k, by omega, by omega⟩
    have hend : hi < UInt64.size := by
      have hlast : t.regions.Serves lo (hi - lo) := ⟨k, hlo, by omega⟩
      have hlt := RegionMap.serves_lt hlast
      omega
    obtain ⟨r, haccess, hsound'', hcontents'⟩ := access_returns hfaithful hsound hlen hserves
    refine ⟨hend, r, haccess, ?_⟩
    intro j
    rcases byteAt_of_contents hsound' hcontents j with ⟨a, ha, hbyte⟩ | ⟨hno, hbyte⟩
    · rcases byteAt_of_contents hsound'' hcontents' j with ⟨b, hb, hbyte'⟩ | ⟨hno, -⟩
      · rw [hbyte, hbyte', RegionMap.windowIndex?_injective ha hb]
      · exact absurd ha (hno a)
    · rcases byteAt_of_contents hsound'' hcontents' j with ⟨b, hb, -⟩ | ⟨-, hbyte'⟩
      · exact absurd hb (hno b)
      · rw [hbyte, hbyte']

/-- Two bytes written across the border of two chunks of DRAM. -/
theorem split_agrees_across : ∃ t, IsOver (.ofSize 0x8000) t ∧ ∃ bytes s' r,
    (Job.write ⟨0x80000007⟩ [1, 2]).perform ⟨t, #[]⟩ = .ok bytes s' ∧
    (Access.write ⟨0x80000007⟩ [1, 2]).perform ⟨t, #[]⟩ = .ok bytes r ∧
    ∀ j, s'.state.window.memory.byteAt j = r.state.window.memory.byteAt j := by
  obtain ⟨t, ht⟩ : ∃ t, ofWindow (RecordingWindow.ofSize 0x8000) none .strict = .ok t := ⟨_, rfl⟩
  have hover : IsOver (.ofSize 0x8000) t := .inl ⟨_, _, ht⟩
  obtain ⟨hfits, -, -⟩ := start_of_isOver hover
  obtain ⟨hiff, hsame⟩ := split_agrees hfits #[] (.write ⟨0x80000007⟩ [1, 2]) (by decide)
  obtain ⟨bytes, s', hok⟩ := hiff.2 <| by
    refine .inr (.inr ⟨by decide, ?_⟩)
    cases ht
    decide +kernel
  obtain ⟨-, r, haccess, hbytes⟩ := hsame bytes s' hok
  exact ⟨t, hover, bytes, s', r, hok, haccess, hbytes⟩

end Transport

end TargetLink
