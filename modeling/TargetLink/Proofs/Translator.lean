import TargetLink.Proofs.Slot

/-!
# Translation into slots

An access resolves exactly if a slot covers it, and then to the place of the slot in the window.
-/

namespace TargetLink.Translator

variable {t : Translator} {k : RegionKind} {r : Region} {addr : TargetAddr} {len : Nat}
  {o : WindowOffset}

/-- A region answers only for addresses from its base on. -/
theorem base_le_of_find? {m : RegionMap} (h : m.find? addr = some r) :
    r.targetBase.toNat ≤ addr.toNat := by
  rw [m.find?_eq] at h
  split at h
  · next hin =>
    cases h
    exact hin.1
  split at h
  · next hin =>
    cases h
    exact hin.1
  split at h
  · next hin =>
    cases h
    exact hin
  · cases h

theorem find?_ne_none_of_validate (h : t.validate addr len = true) : t.regions.find? addr ≠ none := by
  intro hnone
  simp [validate, hnone] at h

/-- The end of an access in the window, where it is a word. -/
theorem windowEnd_eq_some_iff {past : WindowOffset} :
    (r.offsetOf? addr).bind (·.add? len) = some past ↔ r.targetBase.toNat ≤ addr.toNat ∧
      past.toNat + r.targetBase.toNat = r.windowBase.toNat + addr.toNat + len := by
  constructor
  · intro h
    obtain ⟨o, ho, hsum⟩ := Option.bind_eq_some_iff.1 h
    obtain ⟨hbase, hoff⟩ := Region.offsetOf?_eq_some_iff.1 ho
    have hend := WindowOffset.add?_eq_some_iff.1 hsum
    exact ⟨hbase, by omega⟩
  · rintro ⟨hbase, hend⟩
    have hlt : past.toNat < UInt64.size := past.val.toNat_lt
    obtain ⟨o, ho⟩ := WindowOffset.exists_toNat_eq (n := past.toNat - len) (by omega)
    have hoff := (Region.offsetOf?_eq_some_iff (r := r) (o := o)).2 ⟨hbase, by omega⟩
    exact Option.bind_eq_some_iff.2 ⟨o, hoff, WindowOffset.add?_eq_some_iff.2 (by omega)⟩

/-- The two checks of an access against the region that answers for it. -/
theorem validate_iff_of_find? (h : t.regions.find? addr = some r) : t.validate addr len = true ↔
    r.windowBase.toNat + (addr.toNat - r.targetBase.toNat) + len ≤ t.regions.windowSize.toNat ∧
      r.contains addr = true ∧ addr.toNat + len ≤ r.targetBase.toNat + r.targetLen.toNat := by
  have hbase := base_le_of_find? h
  unfold validate
  simp only [h]
  cases hpast : (r.offsetOf? addr).bind (·.add? len) with
  | some past =>
    obtain ⟨-, hend⟩ := windowEnd_eq_some_iff.1 hpast
    have hval : past.val.toNat = r.windowBase.toNat + (addr.toNat - r.targetBase.toNat) + len := by
      change past.toNat = _
      omega
    simp only [Bool.and_eq_true, decide_eq_true_eq, Region.containsRange_iff,
      UInt64.le_iff_toNat_le, hval]
  | none =>
    -- The end is no word, so it lies behind the window.
    simp only [Bool.false_eq_true, false_iff]
    rintro ⟨hfits, -, -⟩
    have hsize : t.regions.windowSize.toNat < UInt64.size := t.regions.windowSize.toNat_lt
    obtain ⟨past, hend⟩ := WindowOffset.exists_toNat_eq (Nat.lt_of_le_of_lt hfits hsize)
    have hsome := windowEnd_eq_some_iff.2
      ⟨hbase, show past.toNat + r.targetBase.toNat = r.windowBase.toNat + addr.toNat + len by omega⟩
    rw [hpast] at hsome
    cases hsome

/-- An access is valid exactly if it begins in a region and ends with the region's slot or before. -/
theorem validate_iff : t.validate addr len = true ↔ ∃ k, (t.regions.get k).contains addr = true ∧
    addr.toNat + len ≤ (t.regions.slot k).target + (t.regions.slot k).len := by
  constructor
  · intro h
    cases hfind : t.regions.find? addr with
    | none => exact absurd hfind (find?_ne_none_of_validate h)
    | some r =>
      obtain ⟨hwindow, hin, hend⟩ := (validate_iff_of_find? hfind).1 h
      rw [t.regions.find?_eq] at hfind
      split at hfind
      · cases hfind
        exact ⟨.bootRom, hin, hend⟩
      split at hfind
      · next hclint =>
        cases hfind
        -- The end of the window cuts the interruptor short.
        have hwin := t.regions.clint_windowBase
        have hbase := t.regions.get_targetBase .clint
        have hfit := t.regions.dramSize_add_le
        exact ⟨.clint, hin, by simp only [RegionMap.get, RegionMap.slot] at hbase ⊢; omega⟩
      split at hfind
      · cases hfind
        exact ⟨.dram, hin, hend⟩
      · cases hfind
  · rintro ⟨k, hin, hend⟩
    have hle := (Region.contains_iff.1 hin).1
    have hslot := t.regions.slot_window_le (k := k)
    have hlen := t.regions.slot_len_le k
    refine (validate_iff_of_find? (RegionMap.find?_of_contains hin)).2 ⟨?_, hin, ?_⟩
    · rw [t.regions.get_targetBase] at hle ⊢
      rw [t.regions.get_windowBase]
      omega
    · rw [t.regions.get_targetBase]
      omega

/-! ## Resolving -/

/-- An access of some bytes is valid exactly if a slot covers it. -/
theorem validate_iff_serves (hlen : 0 < len) :
    t.validate addr len = true ↔ t.regions.Serves addr.toNat len := by
  rw [validate_iff]
  refine exists_congr fun k => ?_
  have hshort := t.regions.slot_len_le k
  rw [Region.contains_iff, t.regions.get_targetBase]
  unfold Slot.Covers
  omega

/-- What resolves is valid, and lies as far into the slot's window range as into its target range. -/
theorem exists_slot_of_resolve (h : t.resolve addr len = .ok o) :
    ∃ k, (t.regions.slot k).Covers addr.toNat len ∧
      o.toNat + (t.regions.slot k).target = (t.regions.slot k).window + addr.toNat := by
  unfold resolve at h
  split at h
  · cases h
  split at h
  · next hvalid =>
    obtain ⟨k, hin, hend⟩ := validate_iff.1 hvalid
    have hle := (Region.contains_iff.1 hin).1
    rw [t.regions.get_targetBase] at hle
    refine ⟨k, ⟨hle, hend⟩, ?_⟩
    simp only [translate, RegionMap.find?_of_contains hin] at h
    split at h
    · next o' ho =>
      cases h
      have hoff := (Region.offsetOf?_eq_some_iff.1 ho).2
      rwa [t.regions.get_targetBase, t.regions.get_windowBase] at hoff
    · cases h
  · cases h

/-- An access, be it of no bytes, that begins in a region and ends with the region's slot or before. -/
theorem resolve_of_contains (hin : (t.regions.get k).contains addr = true)
    (hend : addr.toNat + len ≤ (t.regions.slot k).target + (t.regions.slot k).len) :
    ∃ o, t.resolve addr len = .ok o ∧
      o.toNat + (t.regions.slot k).target = (t.regions.slot k).window + addr.toNat := by
  have hvalid : t.validate addr len = true := validate_iff.2 ⟨k, hin, hend⟩
  have hle := (Region.contains_iff.1 hin).1
  rw [t.regions.get_targetBase] at hle
  have hslot := t.regions.slot_window_le (k := k)
  have hsize : t.regions.windowSize.toNat < UInt64.size := t.regions.windowSize.toNat_lt
  obtain ⟨o, ho⟩ := WindowOffset.exists_toNat_eq
    (n := (t.regions.slot k).window + (addr.toNat - (t.regions.slot k).target)) (by omega)
  have hoff : (t.regions.get k).offsetOf? addr = some o := by
    rw [Region.offsetOf?_eq_some_iff, t.regions.get_targetBase, t.regions.get_windowBase]
    omega
  refine ⟨o, ?_, by omega⟩
  have hfind := RegionMap.find?_of_contains hin
  simp [resolve, hvalid, translate, hfind, hoff]

theorem resolve_of_covers (hlen : 0 < len) (h : (t.regions.slot k).Covers addr.toNat len) :
    ∃ o, t.resolve addr len = .ok o ∧
      o.toNat + (t.regions.slot k).target = (t.regions.slot k).window + addr.toNat := by
  refine resolve_of_contains ?_ h.2
  have hshort := t.regions.slot_len_le k
  obtain ⟨hle, hend⟩ := h
  rw [Region.contains_iff, t.regions.get_targetBase]
  omega

theorem translate_of_resolve (h : t.resolve addr len = .ok o) : t.translate addr = .ok o := by
  unfold resolve at h
  split at h
  · cases h
  split at h
  · exact h
  · cases h

/-- What no slot covers is refused. -/
theorem resolve_of_not_serves (h : ¬ t.regions.Serves addr.toNat len) :
    ∃ e, t.resolve addr len = .error e := by
  cases hres : t.resolve addr len with
  | error e => exact ⟨e, rfl⟩
  | ok o =>
    obtain ⟨k, hk, -⟩ := exists_slot_of_resolve hres
    exact absurd ⟨k, hk⟩ h

end TargetLink.Translator
