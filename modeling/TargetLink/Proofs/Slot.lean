import TargetLink.Proofs.Region
import TargetLink.Translator

/-!
# Slots

The bytes of the target that the host can reach: of each region the part that the window backs. A
slot says where that part lies in target address space and where in the window, in natural numbers.

The slots of a map are disjoint on both sides, so a target address has at most one window byte and a
window byte at most one target address, and no slot ends where another one begins. An access resolves
exactly if one slot covers it.
-/

namespace TargetLink

/-- A run of target addresses with the run of window bytes behind it. -/
structure Slot where
  target : Nat
  /-- The index of the first byte in the window. -/
  window : Nat
  len : Nat

/-- The `len` bytes from `start` on belong to the slot. -/
def Slot.Covers (s : Slot) (start len : Nat) : Prop :=
  s.target ≤ start ∧ start + len ≤ s.target + s.len

instance (s : Slot) (start len : Nat) : Decidable (s.Covers start len) :=
  inferInstanceAs (Decidable (_ ∧ _))

theorem RegionKind.mem_all (k : RegionKind) : k ∈ RegionKind.all := by
  cases k <;> decide

namespace RegionMap

/-- The slot of a region. The interruptor's is 8 KiB long, an eighth of the region. -/
def slot (m : RegionMap) : RegionKind → Slot
  | .bootRom => ⟨0x1000, m.windowSize.toNat - 0x4000, 0x2000⟩
  | .clint => ⟨0x2000000, m.windowSize.toNat - 0x2000, 0x2000⟩
  | .dram => ⟨0x80000000, 0, m.dramSize.toNat⟩

/-- The `len` bytes from `start` on belong to one slot. -/
def Serves (m : RegionMap) (start len : Nat) : Prop :=
  ∃ k, (m.slot k).Covers start len

/-- The index of the window byte behind a target address. -/
def windowIndex? (m : RegionMap) (a : Nat) : Option Nat :=
  (RegionKind.all.find? fun k => (m.slot k).Covers a 1).map fun k =>
    (m.slot k).window + (a - (m.slot k).target)

variable {m : RegionMap} {k k' : RegionKind} {a b i j len : Nat}

theorem get_targetBase (m : RegionMap) (k : RegionKind) :
    (m.get k).targetBase.toNat = (m.slot k).target := by
  cases k <;> rfl

theorem get_windowBase (m : RegionMap) (k : RegionKind) :
    (m.get k).windowBase.toNat = (m.slot k).window := by
  cases k with
  | bootRom => exact m.bootRom_windowBase
  | clint => exact m.clint_windowBase
  | dram => rfl

/-- The word of the interrupt that starts the target stands at the front of the interruptor. -/
theorem covers_msip (m : RegionMap) : (m.slot .clint).Covers (TargetAddr.mk Layout.msipAddr).toNat 4 := by
  change 0x2000000 ≤ 0x2000000 ∧ 0x2000000 + 4 ≤ 0x2000000 + 0x2000
  decide

/-- A slot backs its region from the first byte on, but not always to the last. -/
theorem slot_len_le (m : RegionMap) (k : RegionKind) :
    (m.slot k).len ≤ (m.get k).targetLen.toNat := by
  cases k with
  | bootRom => exact Nat.le_refl _
  | clint => exact (by decide : 0x2000 ≤ Layout.clintSize.toNat)
  | dram => exact Nat.le_refl _

/-! ## Disjointness -/

/-- Two slots share no target address. -/
theorem kind_eq_of_target (h : (m.slot k).Covers a 1) (h' : (m.slot k').Covers a 1) : k = k' := by
  have hend := m.dramEnd_lt
  cases k <;> cases k' <;> first | rfl | (simp only [slot, Slot.Covers] at h h'; omega)

/-- Two slots share no window byte. -/
theorem kind_eq_of_window (hi : i < (m.slot k).len) (hj : j < (m.slot k').len)
    (h : (m.slot k).window + i = (m.slot k').window + j) : k = k' := by
  have hfit := m.dramSize_add_le
  cases k <;> cases k' <;> first | rfl | (simp only [slot] at hi hj h; omega)

/-- A slot ends with the window or before. -/
theorem slot_window_le : (m.slot k).window + (m.slot k).len ≤ m.windowSize.toNat := by
  have hfit := m.dramSize_add_le
  cases k <;> simp only [slot] <;> omega

/-! ## Window bytes -/

/-- A byte of a slot is as far into the window range as it is into the target range. -/
theorem windowIndex?_eq_some_iff : m.windowIndex? a = some j ↔
    ∃ k, (m.slot k).Covers a 1 ∧ j + (m.slot k).target = (m.slot k).window + a := by
  unfold windowIndex?
  constructor
  · intro h
    obtain ⟨k, hfind, hj⟩ := Option.map_eq_some_iff.1 h
    have hk : (m.slot k).Covers a 1 := by simpa using List.find?_some hfind
    have hle := hk.1
    exact ⟨k, hk, by omega⟩
  · rintro ⟨k, hk, hj⟩
    cases hfind : RegionKind.all.find? fun k => (m.slot k).Covers a 1 with
    | none =>
      have := List.find?_eq_none.1 hfind k k.mem_all
      simp [hk] at this
    | some k' =>
      have hk' : (m.slot k').Covers a 1 := by simpa using List.find?_some hfind
      obtain rfl := kind_eq_of_target hk hk'
      have hle := hk.1
      simp only [Option.map_some, Option.some.injEq]
      omega

theorem windowIndex?_of_covers (h : (m.slot k).Covers a len) (hi : i < len) :
    m.windowIndex? (a + i) = some ((m.slot k).window + (a + i - (m.slot k).target)) := by
  obtain ⟨hle, hend⟩ := h
  refine windowIndex?_eq_some_iff.2 ⟨k, ⟨?_, ?_⟩, ?_⟩ <;> omega

/-- The addresses with a window byte: 8 KiB of boot ROM, 8 KiB of the interruptor and DRAM. -/
theorem windowIndex?_isSome_iff : (m.windowIndex? a).isSome ↔
    (0x1000 ≤ a ∧ a < 0x3000) ∨ (0x2000000 ≤ a ∧ a < 0x2002000) ∨
      (0x80000000 ≤ a ∧ a < 0x80000000 + m.dramSize.toNat) := by
  have hcover : (m.windowIndex? a).isSome ↔ ∃ k, (m.slot k).Covers a 1 := by
    rw [Option.isSome_iff_exists]
    constructor
    · rintro ⟨j, hj⟩
      obtain ⟨k, hk, -⟩ := windowIndex?_eq_some_iff.1 hj
      exact ⟨k, hk⟩
    · rintro ⟨k, hk⟩
      exact ⟨_, windowIndex?_of_covers (i := 0) hk Nat.one_pos⟩
  rw [hcover]
  constructor
  · rintro ⟨k, hk⟩
    cases k <;> simp only [slot, Slot.Covers] at hk <;> omega
  · rintro (h | h | h)
    · exact ⟨.bootRom, by simp only [slot, Slot.Covers]; omega⟩
    · exact ⟨.clint, by simp only [slot, Slot.Covers]; omega⟩
    · exact ⟨.dram, by simp only [slot, Slot.Covers]; omega⟩

theorem windowIndex?_lt (h : m.windowIndex? a = some j) : j < m.windowSize.toNat := by
  obtain ⟨k, ⟨hle, hend⟩, hj⟩ := windowIndex?_eq_some_iff.1 h
  have hslot := m.slot_window_le (k := k)
  omega

/-- A window byte stands behind one target address only. -/
theorem windowIndex?_injective (ha : m.windowIndex? a = some j) (hb : m.windowIndex? b = some j) :
    a = b := by
  obtain ⟨k, ⟨hle, hend⟩, hj⟩ := windowIndex?_eq_some_iff.1 ha
  obtain ⟨k', ⟨hle', hend'⟩, hj'⟩ := windowIndex?_eq_some_iff.1 hb
  obtain rfl : k = k' :=
    kind_eq_of_window (m := m) (i := a - (m.slot k).target) (j := b - (m.slot k').target)
      (by omega) (by omega) (by omega)
  omega

/-! ## Served ranges -/

/-- There is an address between any two slots, so a range with a window byte behind each address
lies in one of them. -/
theorem serves_iff (hlen : 0 < len) :
    m.Serves a len ↔ ∀ i < len, (m.windowIndex? (a + i)).isSome := by
  constructor
  · rintro ⟨k, hk⟩ i hi
    rw [windowIndex?_of_covers hk hi]
    rfl
  · intro h
    simp only [windowIndex?_isSome_iff] at h
    have hfirst := h 0 hlen
    have hlast := h (len - 1) (by omega)
    have hrom := fun hi => h (0x3000 - a) hi
    have hclint := fun hi => h (0x2002000 - a) hi
    rcases hfirst with hfirst | hfirst | hfirst
    · exact ⟨.bootRom, by simp only [slot, Slot.Covers]; omega⟩
    · exact ⟨.clint, by simp only [slot, Slot.Covers]; omega⟩
    · exact ⟨.dram, by simp only [slot, Slot.Covers]; omega⟩

/-- Two ranges, one behind the other, are served as one. -/
theorem serves_add {n : Nat} (hn : 0 < n) (hlen : 0 < len) :
    m.Serves a (n + len) ↔ m.Serves a n ∧ m.Serves (a + n) len := by
  rw [serves_iff (by omega), serves_iff hn, serves_iff hlen]
  constructor
  · intro h
    refine ⟨fun i hi => h i (by omega), fun i hi => ?_⟩
    rw [Nat.add_assoc]
    exact h (n + i) (by omega)
  · rintro ⟨hfront, hback⟩ i hi
    by_cases hin : i < n
    · exact hfront i hin
    · have hrest := hback (i - n) (by omega)
      rwa [show a + n + (i - n) = a + i by omega] at hrest

/-- What is served ends below the last address. -/
theorem serves_lt (h : m.Serves a len) : a + len < UInt64.size := by
  obtain ⟨k, hle, hend⟩ := h
  have hdram := m.dramEnd_lt
  simp only [UInt64.size] at hdram ⊢
  cases k <;> simp only [slot] at hend <;> omega

end RegionMap

end TargetLink
