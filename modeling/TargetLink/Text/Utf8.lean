/-!
# UTF-8

Arguments and paths come as bytes, usually but not always UTF-8. `Utf8.pieces` cuts a byte list into
the characters it spells and the runs of bytes that spell none: each run is the longest start of a
character that the bytes break off, or one byte that starts no character. `Utf8.text?` is the text
of a byte list that spells characters only, and `Utf8.lossy` shows every broken run as `U+FFFD`.
-/

namespace TargetLink.Utf8

/-- A character, or a run of bytes that spells none. -/
inductive Piece where
  /-- A complete character. -/
  | char (c : Char)
  /-- Bytes that start a character and break off, or a byte that starts none. -/
  | broken (bytes : List UInt8)
  deriving DecidableEq, Repr

/-- What the first byte of a longer character promises. -/
structure Lead where
  /-- How many bytes follow. -/
  tails : Nat
  /-- The least value of the next byte. -/
  low : UInt8
  /-- The greatest value of the next byte. -/
  high : UInt8
  /-- The bits of the character that the first byte carries. -/
  bits : Nat

/-- The promise of a byte that starts a character of two, three or four bytes. The bounds of the
second byte leave out overlong spellings, surrogates and everything past `U+10FFFF`. -/
def lead? (b : UInt8) : Option Lead :=
  if 0xC2 ≤ b ∧ b ≤ 0xDF then some ⟨1, 0x80, 0xBF, b.toNat - 0xC0⟩
  else if b = 0xE0 then some ⟨2, 0xA0, 0xBF, 0⟩
  else if b = 0xED then some ⟨2, 0x80, 0x9F, 0xD⟩
  else if 0xE1 ≤ b ∧ b ≤ 0xEF then some ⟨2, 0x80, 0xBF, b.toNat - 0xE0⟩
  else if b = 0xF0 then some ⟨3, 0x90, 0xBF, 0⟩
  else if 0xF1 ≤ b ∧ b ≤ 0xF3 then some ⟨3, 0x80, 0xBF, b.toNat - 0xF0⟩
  else if b = 0xF4 then some ⟨3, 0x80, 0x8F, 4⟩
  else none

/-- Takes the bytes that a character still owes: their number, the bounds of the next one, the bits
so far and the bytes taken, the last one first. Returns the piece with the bytes behind it. -/
def finish : Nat → UInt8 → UInt8 → Nat → List UInt8 → List UInt8 → Piece × List UInt8
  | 0, _, _, bits, _, rest => (.char (Char.ofNat bits), rest)
  | _ + 1, _, _, _, taken, [] => (.broken taken.reverse, [])
  | n + 1, low, high, bits, taken, b :: rest =>
    if low ≤ b ∧ b ≤ high then
      finish n 0x80 0xBF (bits * 64 + (b.toNat - 0x80)) (b :: taken) rest
    else (.broken taken.reverse, b :: rest)

/-- Finishing a character leaves no more bytes than there were. -/
theorem length_finish_le (n : Nat) (low high : UInt8) (bits : Nat) (taken rest : List UInt8) :
    (finish n low high bits taken rest).2.length ≤ rest.length := by
  induction n generalizing low high bits taken rest with
  | zero => simp [finish]
  | succ n ih =>
    cases rest with
    | nil => simp [finish]
    | cons b rest =>
      unfold finish
      split
      · exact Nat.le_succ_of_le (ih ..)
      · simp

/-- The first piece of a byte list that starts with `b`, and the bytes behind it. -/
def next (b : UInt8) (rest : List UInt8) : Piece × List UInt8 :=
  if b < 0x80 then (.char (Char.ofNat b.toNat), rest)
  else
    match lead? b with
    | some l => finish l.tails l.low l.high l.bits [b] rest
    | none => (.broken [b], rest)

/-- The bytes behind the first piece are no more than those behind its first byte. -/
theorem length_next_le (b : UInt8) (rest : List UInt8) :
    (next b rest).2.length ≤ rest.length := by
  unfold next
  split
  · simp
  · split
    · exact length_finish_le ..
    · simp

/-- The characters and broken runs of a byte list, in order. -/
def pieces : List UInt8 → List Piece
  | [] => []
  | b :: rest => (next b rest).1 :: pieces (next b rest).2
termination_by bytes => bytes.length
decreasing_by exact Nat.lt_succ_of_le (length_next_le b rest)

/-- The text that the bytes spell, if they spell characters only. -/
def text? (bytes : List UInt8) : Option String :=
  let char? : Piece → Option Char
    | .char c => some c
    | .broken _ => none
  ((pieces bytes).mapM char?).map String.ofList

/-- The text of pieces, with `U+FFFD` for every broken run. -/
def shown (ps : List Piece) : String :=
  let shown : Piece → Char
    | .char c => c
    | .broken _ => Char.ofNat 0xFFFD
  String.ofList (ps.map shown)

/-- The text of bytes, with `U+FFFD` for every broken run. -/
def lossy (bytes : List UInt8) : String :=
  shown (pieces bytes)

/-- The bytes that spell a text. -/
def encode (text : String) : List UInt8 :=
  text.toList.flatMap String.utf8EncodeChar

end TargetLink.Utf8
