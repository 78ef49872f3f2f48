import TargetLink.Proofs.Memory
import TargetLink.Transfer

/-!
# Contents

What a memory holds, as a byte for every address. Stores one behind the other are one store, and the
bytes laid over a chunk that was read out and stored back are a store of these bytes alone.
-/

namespace TargetLink

/-- A byte for every address. -/
abbrev Contents := Nat → UInt8

theorem length_overlay {bytes patch : List UInt8} {start : Nat}
    (h : start + patch.length ≤ bytes.length) :
    (overlay bytes start patch).length = bytes.length := by
  simp only [overlay, List.length_append, List.length_take, List.length_drop]
  omega

/-- Laid over others, bytes hide those beneath them and leave the rest. -/
theorem getElem?_overlay {bytes patch : List UInt8} {start i : Nat}
    (h : start + patch.length ≤ bytes.length) : (overlay bytes start patch)[i]? =
      if start ≤ i ∧ i < start + patch.length then patch[i - start]? else bytes[i]? := by
  have htake : (bytes.take start).length = start := List.length_take_of_le (by omega)
  unfold overlay
  by_cases hfront : i < start
  · rw [List.append_assoc, List.getElem?_append_left (by omega), List.getElem?_take_of_lt hfront,
      if_neg (by omega)]
  · rw [List.append_assoc, List.getElem?_append_right (by omega), htake]
    by_cases hback : i < start + patch.length
    · rw [List.getElem?_append_left (by omega), if_pos ⟨by omega, hback⟩]
    · rw [List.getElem?_append_right (by omega), List.getElem?_drop, if_neg (by omega)]
      congr 1
      omega

namespace Contents

/-- The `len` bytes from an address on. -/
def read (c : Contents) (start len : Nat) : List UInt8 :=
  (List.range len).map fun i => c (start + i)

/-- The contents with bytes stored from an address on. -/
def write (c : Contents) (start : Nat) (bytes : List UInt8) : Contents := fun a =>
  if start ≤ a then bytes[a - start]?.getD (c a) else c a

variable {c : Contents} {start n k skip a : Nat} {xs ys bytes : List UInt8}

@[simp] theorem length_read (c : Contents) (start len : Nat) : (c.read start len).length = len := by
  simp [read]

theorem getElem?_read (c : Contents) (start len i : Nat) :
    (c.read start len)[i]? = if i < len then some (c (start + i)) else none := by
  by_cases h : i < len <;> simp [read, h]

theorem write_add {i : Nat} (h : i < bytes.length) : c.write start bytes (start + i) = bytes[i] := by
  rw [write, if_pos (Nat.le_add_right _ _), Nat.add_sub_cancel_left,
    List.getElem?_eq_getElem h, Option.getD_some]

theorem write_zero {i : Nat} (h : i < bytes.length) : c.write 0 bytes i = bytes[i] := by
  rw [write, if_pos (Nat.zero_le _), Nat.sub_zero, List.getElem?_eq_getElem h, Option.getD_some]

theorem write_of_not_mem (h : ¬ (start ≤ a ∧ a < start + bytes.length)) :
    c.write start bytes a = c a := by
  unfold write
  split
  · next hle =>
    rw [List.getElem?_eq_none (by omega)]
    rfl
  · rfl

@[simp] theorem write_nil (c : Contents) (start : Nat) : c.write start [] = c := by
  funext a
  simp [write]

theorem read_append (c : Contents) (start n k : Nat) :
    c.read start n ++ c.read (start + n) k = c.read start (n + k) := by
  simp [read, List.range_add, Nat.add_assoc]

/-- A part of what was read is what is read there. -/
theorem take_drop_read (h : skip + k ≤ n) :
    ((c.read start n).drop skip).take k = c.read (start + skip) k := by
  refine List.ext_getElem? fun i => ?_
  rw [List.getElem?_take, List.getElem?_drop, getElem?_read, getElem?_read]
  split
  · next hi => rw [if_pos (by omega), Nat.add_assoc]
  · rfl

theorem write_append (c : Contents) (start : Nat) (xs ys : List UInt8) :
    (c.write start xs).write (start + xs.length) ys = c.write start (xs ++ ys) := by
  funext a
  simp only [write]
  by_cases hle : start ≤ a
  · rw [if_pos hle, if_pos hle]
    by_cases hxs : start + xs.length ≤ a
    · rw [if_pos hxs, List.getElem?_append_right (by omega),
        List.getElem?_eq_none (show xs.length ≤ a - start by omega), Nat.sub_add_eq]
      rfl
    · rw [if_neg hxs, List.getElem?_append_left (by omega)]
  · rw [if_neg (show ¬ start + xs.length ≤ a by omega), if_neg hle, if_neg hle]

/-- Bytes that are stored over others leave nothing of them. -/
theorem write_write (c : Contents) (start : Nat) (h : xs.length ≤ ys.length) :
    (c.write start xs).write start ys = c.write start ys := by
  funext a
  by_cases hin : start ≤ a ∧ a < start + ys.length
  · have hlt : a - start < ys.length := by omega
    simp only [write, if_pos hin.1, List.getElem?_eq_getElem hlt, Option.getD_some]
  · rw [write_of_not_mem hin, write_of_not_mem hin, write_of_not_mem (by omega)]

/-- Laying bytes over a chunk and storing the chunk back stores these bytes and nothing else. -/
theorem write_overlay (h : skip + bytes.length ≤ n) :
    c.write start (overlay (c.read start n) skip bytes) = c.write (start + skip) bytes := by
  have hread : skip + bytes.length ≤ (c.read start n).length := by rwa [length_read]
  funext a
  by_cases hin : start + skip ≤ a ∧ a < start + skip + bytes.length
  · rw [write, write, if_pos (by omega), if_pos hin.1, getElem?_overlay hread, if_pos (by omega),
      Nat.sub_add_eq]
  · rw [write_of_not_mem hin, write]
    split
    · rw [getElem?_overlay hread, if_neg (by omega), getElem?_read]
      split
      · next hle _ => rw [Nat.add_sub_cancel' hle, Option.getD_some]
      · rfl
    · rfl

end Contents

/-! ## Stuck bytes -/

/-- The values that some addresses are stuck at. -/
abbrev StuckAt := Nat → Option UInt8

/-- One address is stuck. -/
def StuckAt.only (a : Nat) (v : UInt8) : StuckAt := fun b =>
  if b = a then some v else none

namespace Contents

variable {c : Contents} {stuck : StuckAt}

/-- The contents as they read where some addresses are stuck. -/
def shown (c : Contents) (stuck : StuckAt) : Contents := fun a =>
  (stuck a).getD (c a)

@[simp] theorem shown_shown (c : Contents) (stuck : StuckAt) :
    (c.shown stuck).shown stuck = c.shown stuck := by
  funext a
  unfold shown
  cases stuck a <;> rfl

/-- What is shown after a store does not depend on whether the contents or what is shown of them was
there before. -/
theorem shown_write_shown (c : Contents) (stuck : StuckAt) (start : Nat) (bytes : List UInt8) :
    ((c.shown stuck).write start bytes).shown stuck = (c.write start bytes).shown stuck := by
  funext a
  unfold shown
  cases hstuck : stuck a with
  | some v => rfl
  | none =>
    simp only [Option.getD_none, write, hstuck]

end Contents

end TargetLink
