import TargetLink.Proofs.ChunkMemory.Flat
import TargetLink.Proofs.Transfer.Around

/-!
# Transfers with a memory over an interval

What holds of transfers with any faithful memory, for one that serves an interval of addresses.
-/

namespace TargetLink

namespace View

theorem hullServed_within_iff {σ : Type} {v : View σ} {base size : Nat} {addr : TargetAddr} {len : Nat} :
    v.HullServed (Within base size) addr len ↔ base ≤ alignDown (max v.align 1) addr.toNat ∧
      alignUp (max v.align 1) (addr.toNat + len) ≤ base + size := by
  have hdown := alignDown_le (max v.align 1) addr.toNat
  have hup := le_alignUp (show 0 < max v.align 1 by omega) (addr.toNat + len)
  unfold HullServed Within
  omega

end View

namespace Transfer

/-- Transfers with a faithful memory over an interval. One of some bytes succeeds exactly if its hull,
the aligned chunks that it touches, lies in the interval. Only in a memory of all addresses it may run past
the last one and go on at zero, provided that one of its requests ends there, and the places of its bytes
are counted around the end of the address space. A read that succeeds returns the bytes at its places and
leaves all bytes as they were; a write or a clear that succeeds leaves its own bytes and all others as they
were, and what was written reads back. -/
theorem exact_of_faithful {σ : Type} [ChunkMemory σ] [SteadyGrain σ] {v : View σ} {base : TargetAddr}
    {size : Nat} (hend : base.toNat + size ≤ UInt64.size)
    (h : v.Faithful (Within base.toNat size)) (s : Logged σ) (hsound : v.sound s.state)
    (addr : TargetAddr) {len : Nat} (hlen : len ≤ UInt64.size) {src : List UInt8}
    (hsrc : src.length ≤ UInt64.size) :
    let a := max v.align 1
    let Inside (n : Nat) := base.toNat ≤ alignDown a addr.toNat ∧
      alignUp a (addr.toNat + n) ≤ base.toNat + size
    let Around (n : Nat) := size = UInt64.size ∧ (Grain.ofMemory s.state).GoesAround addr n
    let place (i : Nat) := (addr.toNat + i) % UInt64.size
    let c := v.contents s.state
    (0 < len → ((∃ bytes s', read addr len s = .ok bytes s') ↔ Inside len ∨ Around len)) ∧
    (0 < src.length →
      ((∃ u s', write addr src s = .ok u s') ↔ Inside src.length ∨ Around src.length)) ∧
    (0 < len → ((∃ u s', clear addr len s = .ok u s') ↔ Inside len ∨ Around len)) ∧
    (∀ bytes s', read addr len s = .ok bytes s' → bytes.length = len ∧
      (∀ i < len, bytes[i]? = some (c (place i))) ∧ v.contents s'.state = c) ∧
    (∀ s', write addr src s = .ok () s' →
      (∀ i (hi : i < src.length), v.contents s'.state (place i) = src[i]) ∧
      (∀ b, (∀ i < src.length, b ≠ place i) → v.contents s'.state b = c b) ∧
      ∃ t, read addr src.length s' = .ok src t) ∧
    ∀ s', clear addr len s = .ok () s' →
      (∀ i < len, v.contents s'.state (place i) = 0) ∧
      ∀ b, (∀ i < len, b ≠ place i) → v.contents s'.state b = c b := by
  intro a Inside Around place c
  have haddr : addr.toNat < UInt64.size := addr.val.toNat_lt
  have hreach : ∀ n, v.InReach base.toNat size s.state addr n ↔ Inside n ∨ Around n := fun n =>
    or_congr_left View.hullServed_within_iff
  refine ⟨fun hpos => ?_, fun hpos => ?_, fun hpos => ?_, fun bytes s' hok => ?_, fun s' hok => ?_,
    fun s' hok => ?_⟩
  · rw [← hreach]
    exact View.ok_iff (View.read_returns_of_inReach hend h hsound hpos hlen)
      (View.read_fails_of_not_inReach hend h hsound hpos hlen)
  · rw [← hreach]
    exact View.ok_iff (View.write_returns_of_inReach hend h hsound hpos hsrc)
      (View.write_fails_of_not_inReach hend h hsound hpos hsrc)
  · rw [← hreach]
    exact View.ok_iff (View.clear_returns_of_inReach hend h hsound hpos hlen)
      (View.clear_fails_of_not_inReach hend h hsound hpos hlen)
  · obtain ⟨rfl, -, hcontents⟩ := View.read_of_ok_within hend h hsound hlen hok
    exact ⟨Contents.length_readAround _ _ _, fun i => Contents.getElem?_readAround haddr hlen,
      hcontents⟩
  · obtain ⟨-, hcontents⟩ := View.write_of_ok_within hend h hsound hsrc hok
    rw [hcontents]
    exact ⟨fun i => Contents.writeAround_mod haddr hsrc,
      fun b => Contents.writeAround_of_forall_ne haddr hsrc,
      View.read_of_write_ok hend h hsound hsrc hok⟩
  · obtain ⟨-, hcontents⟩ := View.clear_of_ok_within hend h hsound hlen hok
    have hzeros : (List.replicate len (0 : UInt8)).length = len := List.length_replicate
    rw [hcontents]
    refine ⟨fun i hi => ?_, fun b hb => ?_⟩
    · rw [Contents.writeAround_mod haddr (by omega) (by omega), List.getElem_replicate]
    · exact Contents.writeAround_of_forall_ne haddr (by omega) (by rwa [hzeros])

/-- Two bytes written across the border of two chunks read back. -/
theorem read_after_write_across : ∃ t u : Logged FlatMemory,
    write ⟨0x1007⟩ [1, 2] (.start ⟨⟨0x1000⟩, 16, 8, 8, .empty, none, [], #[], 0, false⟩) = .ok () t ∧
      read ⟨0x1007⟩ 2 t = .ok [1, 2] u := by
  have hfaithful := FlatMemory.faithful_view ⟨0x1000⟩ 16 8 (by decide)
  obtain ⟨-, hwrite, -, -, hstored, -⟩ := exact_of_faithful (by decide) hfaithful
    (.start ⟨⟨0x1000⟩, 16, 8, 8, .empty, none, [], #[], 0, false⟩)
    ⟨rfl, rfl, rfl, rfl, rfl⟩ ⟨0x1007⟩ (Nat.zero_le _) (show [1, 2].length ≤ _ by decide)
  obtain ⟨⟨⟩, t, hok⟩ := (hwrite (by decide)).2 (.inl (by decide))
  obtain ⟨-, -, u, hread⟩ := hstored t hok
  exact ⟨t, u, hok, hread⟩

/-- In a memory of all addresses a write of two chunks goes around, although its hull ends in none of
the addresses. -/
theorem write_past_hull : let m : FlatMemory := ⟨⟨0⟩, UInt64.size, 8, 8, .empty, none, [], #[], 0, false⟩
    let v := FlatMemory.view ⟨0⟩ UInt64.size 8
    let addr : TargetAddr := ⟨0xFFFFFFFFFFFFFFF8⟩
    v.Faithful (Within 0 UInt64.size) ∧ v.sound m ∧
      ¬ ((∃ u t, write addr (List.replicate 16 1) (.start m) = .ok u t) ↔
        0 ≤ alignDown 8 addr.toNat ∧ alignUp 8 (addr.toNat + 16) ≤ 0 + UInt64.size) := by
  intro m v addr
  have hfaithful : v.Faithful (Within 0 UInt64.size) :=
    FlatMemory.faithful_view ⟨0⟩ UInt64.size 8 (by decide)
  have hsound : v.sound m := ⟨rfl, rfl, rfl, rfl, rfl⟩
  have hreach : v.InReach 0 UInt64.size m addr (List.replicate 16 (1 : UInt8)).length :=
    .inr ⟨rfl, by decide⟩
  obtain ⟨t, hok, -⟩ := View.write_returns_of_inReach (s := .start m) (by decide) hfaithful hsound
    (by decide) (by decide) hreach
  exact ⟨hfaithful, hsound, fun h => absurd (h.1 ⟨(), t, hok⟩) (by decide)⟩

end Transfer

end TargetLink
