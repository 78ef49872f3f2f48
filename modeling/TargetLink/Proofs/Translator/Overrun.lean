import TargetLink.Proofs.Translator.Resolve

/-!
# Translations past the last word

Translating looks at an address alone and at no upper end, so it also gives places behind the slot of a region.
For boot ROM and DRAM these are words in every layout. The interruptor has more addresses than its slot at the
very top of the window has bytes, and in a window that is less than 56 KiB short of 2^64 bytes, the places of the
last addresses are no words. These are refused as out of bounds. No access begins there in any case.
-/

namespace TargetLink

namespace Region

variable {r : Region} {addr : TargetAddr}

/-- The place that the address would have in the window lies past the last word. -/
def Overruns (r : Region) (addr : TargetAddr) : Prop :=
  UInt64.size ≤ r.windowBase.toNat + (addr.toNat - r.targetBase.toNat)

/-- From the base of a region on, an offset is missing exactly if it is no word. -/
theorem offsetOf?_eq_none_iff (hbase : r.targetBase.toNat ≤ addr.toNat) :
    r.offsetOf? addr = none ↔ r.Overruns addr := by
  unfold Overruns
  constructor
  · intro hnone
    refine Nat.not_lt.1 fun hlt => ?_
    obtain ⟨o, ho⟩ := WindowOffset.exists_toNat_eq hlt
    have hsome : r.offsetOf? addr = some o := offsetOf?_eq_some_iff.2 ⟨hbase, by omega⟩
    rw [hnone] at hsome
    cases hsome
  · intro hpast
    refine Option.eq_none_iff_forall_ne_some.2 fun o hsome => ?_
    have hoff := (offsetOf?_eq_some_iff.1 hsome).2
    have hword : o.toNat < UInt64.size := o.val.toNat_lt
    omega

end Region

namespace RegionMap

variable {m : RegionMap} {addr : TargetAddr} {r : Region} {k : RegionKind}

/-- The address belongs to the interruptor, and its place in the window would lie past the last word. -/
def Overruns (m : RegionMap) (addr : TargetAddr) : Prop :=
  m.clint.OwnsTarget addr.toNat ∧ m.clint.Overruns addr

theorem get_overruns_iff : (m.get k).Overruns addr ↔
    UInt64.size ≤ (m.slot k).window + (addr.toNat - (m.slot k).target) := by
  rw [Region.Overruns, get_windowBase, get_targetBase]

theorem overruns_iff : m.Overruns addr ↔ addr.toNat < 0x2010000 ∧
    UInt64.size + 0x2002000 ≤ m.windowSize.toNat + addr.toNat := by
  have hfit := m.dramSize_add_le
  have hsize : m.windowSize.toNat < UInt64.size := m.windowSize.toNat_lt
  have howns : m.clint.OwnsTarget addr.toNat ↔ _ := ownsTarget_iff (m := m) (k := .clint)
  have hplace : m.clint.Overruns addr ↔ _ := get_overruns_iff (m := m) (k := .clint)
  rw [Overruns, howns, hplace]
  simp only [slot]
  omega

/-- What is found for an address is a region of the map that answers for it. -/
theorem exists_answersFor_of_find? (h : m.find? addr = some r) :
    ∃ k, m.answersFor addr k = true ∧ m.get k = r := by
  rw [← findIn?_all] at h
  obtain ⟨k, hk, hr⟩ := Option.map_eq_some_iff.1 h
  exact ⟨k, List.find?_some hk, hr⟩

/-- Only the interruptor is ever too long for its place in the window. -/
theorem overruns_iff_of_find? (h : m.find? addr = some r) : r.Overruns addr ↔ m.Overruns addr := by
  have haddr : addr.toNat < UInt64.size := addr.val.toNat_lt
  have hsize : m.windowSize.toNat < UInt64.size := m.windowSize.toNat_lt
  have hfit := m.dramSize_add_le
  obtain ⟨k, hk, rfl⟩ := exists_answersFor_of_find? h
  rw [answersFor_iff] at hk
  rw [get_overruns_iff, overruns_iff]
  cases k <;> simp only [slot] at hk ⊢ <;> omega

theorem find?_of_overruns (h : m.Overruns addr) : m.find? addr = some m.clint :=
  find?_of_contains (k := .clint) (Region.contains_iff.2 h.1)

/-- Some address is too far up exactly if the window is less than 56 KiB short of 2^64 bytes. -/
theorem exists_overruns_iff : (∃ addr, m.Overruns addr) ↔
    UInt64.size < m.windowSize.toNat + 0xE000 := by
  simp only [overruns_iff]
  constructor
  · rintro ⟨addr, hlt, hpast⟩
    omega
  · intro hwindow
    refine ⟨⟨0x200FFFF⟩, ?_⟩
    rw [show (TargetAddr.mk 0x200FFFF).toNat = 0x200FFFF from rfl]
    omega

end RegionMap

namespace Translator

variable {t : Translator} {addr : TargetAddr} {r : Region} {e : LinkError}

theorem translate_of_find? (h : t.regions.find? addr = some r) (hword : ¬ r.Overruns addr) :
    ∃ o, t.translate addr = .ok o ∧
      o.toNat = r.windowBase.toNat + (addr.toNat - r.targetBase.toNat) := by
  have hbase := base_le_of_find? h
  obtain ⟨o, ho⟩ := Option.ne_none_iff_exists'.1 (mt (Region.offsetOf?_eq_none_iff hbase).1 hword)
  have hoff := (Region.offsetOf?_eq_some_iff.1 ho).2
  refine ⟨o, ?_, by omega⟩
  simp only [translate, h, ho]

theorem translate_of_overruns (h : t.regions.Overruns addr) :
    t.translate addr = .error (.outOfBounds addr 0) := by
  have hfind := RegionMap.find?_of_overruns h
  have hnone := (Region.offsetOf?_eq_none_iff (base_le_of_find? hfind)).2 h.2
  simp only [translate, hfind, hnone]

theorem translate_of_unclaimed (h : t.regions.find? addr = none) :
    t.translate addr = match t.policy with
      | .strict => .error (.unmappedAddress addr)
      | .alias => .ok .zero := by
  cases hpolicy : t.policy <;> simp only [translate, h, hpolicy]

/-- The two ways in which translating fails. -/
theorem translate_eq_error_iff : t.translate addr = .error e ↔
    (t.regions.find? addr = none ∧ t.policy = .strict ∧ e = .unmappedAddress addr) ∨
      (t.regions.Overruns addr ∧ e = .outOfBounds addr 0) := by
  cases hfind : t.regions.find? addr with
  | none =>
    have hno : ¬ t.regions.Overruns addr := fun h => by
      rw [RegionMap.find?_of_overruns h] at hfind
      cases hfind
    rw [translate_of_unclaimed hfind]
    cases t.policy <;> simp [hno, eq_comm]
  | some r =>
    by_cases hpast : t.regions.Overruns addr
    · simp [translate_of_overruns hpast, hpast, eq_comm]
    · have hword := mt (RegionMap.overruns_iff_of_find? hfind).1 hpast
      obtain ⟨o, hok, -⟩ := translate_of_find? hfind hword
      simp [hok, hpast]

/-- Nothing is read or stored where translating runs past the last word. -/
theorem validate_of_overruns (h : t.regions.Overruns addr) (len : Nat) :
    t.validate addr len = false := by
  refine Bool.eq_false_iff.2 fun hvalid => ?_
  have hwindow := ((validate_iff_of_find? (RegionMap.find?_of_overruns h)).1 hvalid).1
  have hsize : t.regions.windowSize.toNat < UInt64.size := t.regions.windowSize.toNat_lt
  have hpast := h.2
  unfold Region.Overruns at hpast
  omega

/-- In every layout and under either policy: an address that a region answers for is translated to the place as
far into the window range of the region as the address is into its target range, and this place is a word. The
only addresses without one are the last ones of the interruptor in a window that is less than 56 KiB short of 2^64
bytes. These are refused as out of bounds, with no length, and no access to them is valid. An address that no
region answers for becomes offset 0 under the aliasing policy and is unmapped under the strict one. There is no
other error. -/
theorem translate_exactly (t : Translator) :
    let m := t.regions
    (∀ addr : TargetAddr,
      (∀ r, m.find? addr = some r → ¬ m.Overruns addr → r.targetBase.toNat ≤ addr.toNat ∧
        ∃ o, t.translate addr = .ok o ∧
          o.toNat = r.windowBase.toNat + (addr.toNat - r.targetBase.toNat)) ∧
      (m.find? addr = none ↔ ¬ m.bootRom.OwnsTarget addr.toNat ∧ ¬ m.clint.OwnsTarget addr.toNat ∧
        addr.toNat < 0x80000000) ∧
      (m.find? addr = none → t.policy = .alias → t.translate addr = .ok .zero) ∧
      (∀ e, t.translate addr = .error e ↔
        (m.find? addr = none ∧ t.policy = .strict ∧ e = .unmappedAddress addr) ∨
          (m.Overruns addr ∧ e = .outOfBounds addr 0)) ∧
      (m.Overruns addr → ∀ len, t.validate addr len = false)) ∧
    ((∃ addr, m.Overruns addr) ↔ UInt64.size < m.windowSize.toNat + 0xE000) := by
  intro m
  refine ⟨fun addr => ⟨?_, RegionMap.find?_eq_none_iff, ?_, fun _ => translate_eq_error_iff,
    validate_of_overruns⟩, RegionMap.exists_overruns_iff⟩
  · intro r hfind hword
    exact ⟨base_le_of_find? hfind,
      translate_of_find? hfind (mt (RegionMap.overruns_iff_of_find? hfind).1 hword)⟩
  · intro hfind hpolicy
    rw [translate_of_unclaimed hfind, hpolicy]

/-- In the largest window without such addresses, the last address of the interruptor becomes the last word. -/
theorem translate_exactly_last_word : ∃ m, RegionMap.place 0xFFFFFFFFFFFF2000 8 = .ok m ∧
    ∀ policy, ∃ o, (Translator.mk m policy).translate ⟨0x200FFFF⟩ = .ok o ∧
      o.toNat = 0xFFFFFFFFFFFFFFFF := by
  let m : RegionMap := ⟨0xFFFFFFFFFFFF2000, 8, by decide, by decide, by decide⟩
  have hfind : m.find? ⟨0x200FFFF⟩ = some m.clint := by decide
  have hroom : ¬ UInt64.size < m.windowSize.toNat + 0xE000 := by decide
  refine ⟨m, RegionMap.place_eq_ok_iff.2 ⟨rfl, rfl⟩, fun policy => ?_⟩
  obtain ⟨haddr, hreach⟩ := translate_exactly ⟨m, policy⟩
  have hword : ¬ m.Overruns ⟨0x200FFFF⟩ := fun h => hroom (hreach.1 ⟨_, h⟩)
  obtain ⟨-, o, hok, hoff⟩ := (haddr ⟨0x200FFFF⟩).1 m.clint hfind hword
  exact ⟨o, hok, hoff.trans (by decide)⟩

/-- Not every address that a region answers for is translated, and not every error is about an unmapped address:
in the largest window the second byte behind the slot of the interruptor has no place that is a word. -/
theorem not_every_claimed_addr_translated : ∃ m, RegionMap.place 0xFFFFFFFFFFFFFFFF 8 = .ok m ∧
    m.find? ⟨0x2002001⟩ = some m.clint ∧
    ∀ policy, (¬ ∃ o, (Translator.mk m policy).translate ⟨0x2002001⟩ = .ok o) ∧
      (Translator.mk m policy).translate ⟨0x2002001⟩ = .error (.outOfBounds ⟨0x2002001⟩ 0) := by
  let m : RegionMap := ⟨0xFFFFFFFFFFFFFFFF, 8, by decide, by decide, by decide⟩
  have hpast : m.Overruns ⟨0x2002001⟩ := RegionMap.overruns_iff.2 (by decide)
  refine ⟨m, RegionMap.place_eq_ok_iff.2 ⟨rfl, rfl⟩, RegionMap.find?_of_overruns hpast, fun policy => ?_⟩
  have hrefused := translate_of_overruns (t := ⟨m, policy⟩) hpast
  refine ⟨?_, hrefused⟩
  rintro ⟨o, hok⟩
  rw [hrefused] at hok
  cases hok

end Translator

end TargetLink
