import TargetLink.Window.Stuck

/-!
# Stuck bytes by index

What stuck bytes make of each byte that is read through them. Of several entries for one index the last one
counts.
-/

namespace TargetLink.StuckBytes

/-- The value that an index is stuck at. -/
def value? : StuckBytes → Nat → Option UInt8
  | [], _ => none
  | (j, v) :: stuck, i => (value? stuck i).or (if j = i then some v else none)

/-- One entry changes the byte at its index, if that is among the bytes, and no other. -/
theorem getElem?_set_sub {start j i : Nat} (bytes : List UInt8) (v : UInt8) :
    (if start ≤ j then bytes.set (j - start) v else bytes)[i]? =
      bytes[i]?.map ((if j = start + i then some v else none).getD ·) := by
  by_cases hj : j = start + i
  · rw [if_pos (by omega), if_pos hj, show j - start = i by omega, List.getElem?_set_self']
    cases bytes[i]? <;> rfl
  · rw [if_neg hj]
    split
    · rw [List.getElem?_set_ne (by omega)]
      cases bytes[i]? <;> rfl
    · cases bytes[i]? <;> rfl

theorem getElem?_overlay (stuck : StuckBytes) (start i : Nat) (bytes : List UInt8) :
    (stuck.overlay start bytes)[i]? = bytes[i]?.map ((stuck.value? (start + i)).getD ·) := by
  induction stuck generalizing bytes with
  | nil => cases h : bytes[i]? <;> simp [overlay, value?, h]
  | cons entry stuck ih =>
    obtain ⟨j, v⟩ := entry
    refine (ih _).trans ?_
    rw [getElem?_set_sub, Option.map_map, value?]
    cases value? stuck (start + i) <;> rfl

end TargetLink.StuckBytes
