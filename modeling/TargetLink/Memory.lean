import Std.Data.TreeMap

/-!
# Sparse memory

A `Memory` holds a byte at every index; a fresh one holds zeros. Only pages that were written to are
stored, so that a window of a gigabyte costs no more than what is put into it.

`byteAt` is the view of a memory: each operation is described by the bytes that it leaves.
-/

namespace TargetLink

/-- Bytes of a page. -/
def pageSize : Nat := 256

/-- The bytes of one page. -/
abbrev Page := Vector UInt8 pageSize

/-- A byte at every index. -/
structure Memory where
  /-- The pages that were written to, by number. All others hold zeros. -/
  pages : Std.TreeMap Nat Page

namespace Memory

/-- Zeros only. -/
def empty : Memory :=
  ⟨∅⟩

instance : Inhabited Memory :=
  ⟨empty⟩

/-- The place of an index in its page lies in the page. -/
theorem mod_pageSize_lt (i : Nat) : i % pageSize < pageSize :=
  Nat.mod_lt _ (by decide)

/-- The byte at an index. -/
def byteAt (m : Memory) (i : Nat) : UInt8 :=
  match m.pages[i / pageSize]? with
  | some page => getElem page (i % pageSize) (mod_pageSize_lt i)
  | none => 0

/-- Puts a byte at an index. -/
def setByte (m : Memory) (i : Nat) (b : UInt8) : Memory :=
  ⟨m.pages.alter (i / pageSize) fun page? =>
    some ((page?.getD (Vector.replicate pageSize 0)).set (i % pageSize) b (mod_pageSize_lt i))⟩

/-- Puts bytes at an index and those behind it. -/
def write (m : Memory) (start : Nat) : List UInt8 → Memory
  | [] => m
  | b :: bytes => write (m.setByte start b) (start + 1) bytes

/-- Puts `len` zeros at an index and those behind it. -/
def zero (m : Memory) (start : Nat) : Nat → Memory
  | 0 => m
  | len + 1 => zero (m.setByte start 0) (start + 1) len

/-- The `len` bytes at an index and behind it. -/
def read (m : Memory) (start len : Nat) : List UInt8 :=
  (List.range len).map fun i => m.byteAt (start + i)

/-- The memory that begins with the given bytes. -/
def ofBytes (bytes : List UInt8) : Memory :=
  empty.write 0 bytes

/-- A fresh memory holds zeros. -/
@[simp] theorem byteAt_empty (i : Nat) : empty.byteAt i = 0 := by
  simp [byteAt, empty]

/-- Putting a byte changes the byte at its index and no other. -/
theorem byteAt_setByte (m : Memory) (i j : Nat) (b : UInt8) :
    (m.setByte i b).byteAt j = if j = i then b else m.byteAt j := by
  have hsplit : i / pageSize = j / pageSize → i % pageSize = j % pageSize → j = i := by
    intro hd hm
    rw [← Nat.div_add_mod i pageSize, ← Nat.div_add_mod j pageSize, hd, hm]
  simp only [byteAt, setByte, Std.TreeMap.getElem?_alter, Nat.compare_eq_eq]
  by_cases hd : i / pageSize = j / pageSize
  · rw [if_pos hd, ← hd]
    by_cases hm : i % pageSize = j % pageSize
    · simp [hsplit hd hm]
    · have hne : j ≠ i := fun h => hm (by rw [h])
      rw [if_neg hne]
      cases m.pages[i / pageSize]? <;> simp [hm]
  · have hne : j ≠ i := fun h => hd (by rw [h])
    rw [if_neg hd, if_neg hne]

/-- Writing leaves the written bytes, and all others as they were. -/
theorem byteAt_write (m : Memory) (start j : Nat) (bytes : List UInt8) :
    (m.write start bytes).byteAt j =
      if start ≤ j then bytes[j - start]?.getD (m.byteAt j) else m.byteAt j := by
  induction bytes generalizing m start with
  | nil => simp [write]
  | cons b bytes ih =>
    rw [write, ih, byteAt_setByte]
    by_cases hj : j = start
    · subst hj
      simp [show ¬ j + 1 ≤ j by omega]
    · by_cases hle : start ≤ j
      · have hsub : j - start = (j - (start + 1)) + 1 := by omega
        rw [if_pos (by omega), if_pos hle, hsub, List.getElem?_cons_succ, if_neg hj]
      · rw [if_neg (by omega), if_neg hle, if_neg hj]

/-- Zeroing leaves zeros, and all other bytes as they were. -/
theorem byteAt_zero (m : Memory) (start len j : Nat) :
    (m.zero start len).byteAt j = if start ≤ j ∧ j < start + len then 0 else m.byteAt j := by
  induction len generalizing m start with
  | zero => rw [zero, if_neg (by omega)]
  | succ len ih =>
    rw [zero, ih, byteAt_setByte]
    by_cases hj : j = start
    · subst hj
      simp
    · rw [if_neg hj]
      by_cases h : start ≤ j ∧ j < start + (len + 1)
      · rw [if_pos h, if_pos (by omega)]
      · rw [if_neg h, if_neg (by omega)]

/-- Reading returns as many bytes as asked for. -/
@[simp] theorem length_read (m : Memory) (start len : Nat) : (m.read start len).length = len := by
  simp [read]

/-- Reading returns the bytes of the memory in order. -/
theorem getElem?_read (m : Memory) (start len i : Nat) :
    (m.read start len)[i]? = if i < len then some (m.byteAt (start + i)) else none := by
  by_cases h : i < len <;> simp [read, h]

end Memory

end TargetLink
