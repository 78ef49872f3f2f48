import TargetLink.Memory

/-!
# Stores as writes

Clearing is writing zeros, so what holds of every write holds of it.
-/

namespace TargetLink.Memory

theorem zero_eq_write (m : Memory) (start len : Nat) :
    m.zero start len = m.write start (List.replicate len 0) := by
  induction len generalizing m start with
  | zero => rfl
  | succ len ih => rw [zero, ih, List.replicate_succ, write]

/-- Writing leaves the written bytes. -/
theorem byteAt_write_add (m : Memory) (start i : Nat) (bytes : List UInt8) (h : i < bytes.length) :
    (m.write start bytes).byteAt (start + i) = bytes[i] := by
  rw [byteAt_write, if_pos (Nat.le_add_right _ _), Nat.add_sub_cancel_left,
    List.getElem?_eq_getElem h, Option.getD_some]

/-- Writing leaves the bytes in front of the written ones and behind them as they were. -/
theorem byteAt_write_of_not_mem (m : Memory) (start j : Nat) (bytes : List UInt8)
    (h : ¬ (start ≤ j ∧ j < start + bytes.length)) : (m.write start bytes).byteAt j = m.byteAt j := by
  rw [byteAt_write]
  split
  · next hle =>
    rw [List.getElem?_eq_none (by omega)]
    rfl
  · rfl

end TargetLink.Memory
