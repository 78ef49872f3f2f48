import TargetLink.Text.Utf8

/-!
# Bytes that spell a text

A byte list is a text exactly if it is the encoding of this text: every text is spelled, and none in two ways.
Both directions are about one character. An encoded character is read whatever comes behind it, and bytes that
are read as a character are its encoding: the bounds of the second byte leave out longer spellings and numbers
that are no characters.
-/

namespace TargetLink.Utf8

variable {b x low high : UInt8} {n k bits v : Nat} {c : Char} {taken bytes rest rest' : List UInt8} {l : Lead}
  {text : String}

deriving instance DecidableEq for Lead

/-! ## The first byte of a character -/

/-- The promise of the first byte of a character of three bytes that carries the bits `k`. -/
def leadOfThree (k : Nat) : Lead :=
  ⟨2, if k = 0 then 0xA0 else 0x80, if k = 13 then 0x9F else 0xBF, k⟩

/-- The promise of the first byte of a character of four bytes that carries the bits `k`. -/
def leadOfFour (k : Nat) : Lead :=
  ⟨3, if k = 0 then 0x90 else 0x80, if k = 4 then 0x8F else 0xBF, k⟩

theorem lead?_eq (b : UInt8) : lead? b =
    if 0xC2 ≤ b.toNat ∧ b.toNat < 0xE0 then some ⟨1, 0x80, 0xBF, b.toNat - 0xC0⟩
    else if 0xE0 ≤ b.toNat ∧ b.toNat < 0xF0 then some (leadOfThree (b.toNat - 0xE0))
    else if 0xF0 ≤ b.toNat ∧ b.toNat < 0xF5 then some (leadOfFour (b.toNat - 0xF0))
    else none := by
  have hall : ∀ n < 256, lead? (UInt8.ofNat n) =
      if 0xC2 ≤ n ∧ n < 0xE0 then some ⟨1, 0x80, 0xBF, n - 0xC0⟩
      else if 0xE0 ≤ n ∧ n < 0xF0 then some (leadOfThree (n - 0xE0))
      else if 0xF0 ≤ n ∧ n < 0xF5 then some (leadOfFour (n - 0xF0))
      else none := by decide +kernel
  have hb := hall b.toNat b.toNat_lt
  rwa [UInt8.ofNat_toNat] at hb

theorem toNat_ofNat_of_lt (h : n < 0x100) : (UInt8.ofNat n).toNat = n :=
  UInt8.toNat_ofNat_of_lt' h

theorem lead?_two (h : 2 ≤ k) (hlt : k < 32) :
    lead? (UInt8.ofNat (k + 0xC0)) = some ⟨1, 0x80, 0xBF, k⟩ := by
  rw [lead?_eq, toNat_ofNat_of_lt (by omega), if_pos (by omega), Nat.add_sub_cancel]

theorem lead?_three (hlt : k < 16) : lead? (UInt8.ofNat (k + 0xE0)) = some (leadOfThree k) := by
  rw [lead?_eq, toNat_ofNat_of_lt (by omega), if_neg (by omega), if_pos (by omega), Nat.add_sub_cancel]

theorem lead?_four (hlt : k < 5) : lead? (UInt8.ofNat (k + 0xF0)) = some (leadOfFour k) := by
  rw [lead?_eq, toNat_ofNat_of_lt (by omega), if_neg (by omega), if_neg (by omega), if_pos (by omega),
    Nat.add_sub_cancel]

theorem next_of_lead (h : lead? b = some l) (rest : List UInt8) :
    next b rest = finish l.tails l.low l.high l.bits [b] rest := by
  have hb : ¬ b < 0x80 := by
    intro hb
    have hnat : b.toNat < 0x80 := hb
    rw [lead?_eq, if_neg (by omega), if_neg (by omega), if_neg (by omega)] at h
    cases h
  rw [next, if_neg hb, h]

theorem tail_bounds : 0x80 ≤ x ∧ x ≤ 0xBF ↔ 0x80 ≤ x.toNat ∧ x.toNat < 0xC0 := by
  simp only [UInt8.le_iff_toNat_le, UInt8.toNat_ofNat]
  omega

/-- The second byte keeps a character of three bytes from the shorter spellings and the surrogates. -/
theorem leadOfThree_bounds : (leadOfThree k).low ≤ x ∧ x ≤ (leadOfThree k).high ↔
    0x80 ≤ x.toNat ∧ x.toNat < 0xC0 ∧ (k = 0 → 0xA0 ≤ x.toNat) ∧ (k = 13 → x.toNat < 0xA0) := by
  by_cases h0 : k = 0 <;> by_cases h13 : k = 13 <;>
    simp [leadOfThree, h0, h13, UInt8.le_iff_toNat_le] <;> omega

/-- The second byte keeps a character of four bytes from the shorter spellings and beyond the last one. -/
theorem leadOfFour_bounds : (leadOfFour k).low ≤ x ∧ x ≤ (leadOfFour k).high ↔
    0x80 ≤ x.toNat ∧ x.toNat < 0xC0 ∧ (k = 0 → 0x90 ≤ x.toNat) ∧ (k = 4 → x.toNat < 0x90) := by
  by_cases h0 : k = 0 <;> by_cases h4 : k = 4 <;>
    simp [leadOfFour, h0, h4, UInt8.le_iff_toNat_le] <;> omega

/-! ## One character -/

theorem finish_zero (h : bits = v) : finish 0 low high bits taken rest = (.char (Char.ofNat v), rest) := by
  rw [h, finish]

theorem eq_of_finish_zero (h : finish 0 low high bits taken bytes = (.char c, rest)) :
    c = Char.ofNat bits ∧ bytes = rest := by
  rw [finish] at h
  obtain ⟨hc, hrest⟩ := Prod.mk.inj h
  exact ⟨(Piece.char.inj hc).symm, hrest⟩

/-- A further byte of a character is taken if it keeps to the bounds. -/
theorem finish_succ_eq_char_iff : finish (n + 1) low high bits taken bytes = (.char c, rest) ↔
    ∃ x bytes', bytes = x :: bytes' ∧ (low ≤ x ∧ x ≤ high) ∧
      finish n 0x80 0xBF (bits * 64 + (x.toNat - 0x80)) (x :: taken) bytes' = (.char c, rest) := by
  cases bytes with
  | nil => simp [finish]
  | cons x bytes =>
    constructor
    · intro h
      rw [finish] at h
      split at h
      · next hx => exact ⟨x, bytes, rfl, hx, h⟩
      · cases h
    · rintro ⟨x', bytes', heq, hx, h⟩
      obtain ⟨rfl, rfl⟩ := List.cons.inj heq
      rw [finish, if_pos hx, h]

theorem toNat_ofNat_of_valid (h : v < 0xD800 ∨ (0xDFFF < v ∧ v < 0x110000)) :
    (Char.ofNat v).val.toNat = v := by
  rw [Char.ofNat, dif_pos h]
  rfl

theorem encodeChar_one (h : v < 0x80) : String.utf8EncodeChar (Char.ofNat v) = [UInt8.ofNat v] := by
  rw [String.utf8EncodeChar, toNat_ofNat_of_valid (by omega), if_pos (by omega)]

theorem encodeChar_two (h : 0x80 ≤ v) (hlt : v < 0x800) : String.utf8EncodeChar (Char.ofNat v) =
    [UInt8.ofNat (v / 64 + 0xC0), UInt8.ofNat (v % 64 + 0x80)] := by
  rw [String.utf8EncodeChar, toNat_ofNat_of_valid (by omega), if_neg (by omega), if_pos (by omega),
    Nat.mod_eq_of_lt (by omega)]

theorem encodeChar_three (h : 0x800 ≤ v) (hlt : v < 0x10000) (hvalid : v < 0xD800 ∨ 0xDFFF < v) :
    String.utf8EncodeChar (Char.ofNat v) =
      [UInt8.ofNat (v / 4096 + 0xE0), UInt8.ofNat (v / 64 % 64 + 0x80), UInt8.ofNat (v % 64 + 0x80)] := by
  rw [String.utf8EncodeChar, toNat_ofNat_of_valid (by omega), if_neg (by omega), if_neg (by omega),
    if_pos (by omega), Nat.mod_eq_of_lt (by omega)]

theorem encodeChar_four (h : 0x10000 ≤ v) (hlt : v < 0x110000) :
    String.utf8EncodeChar (Char.ofNat v) =
      [UInt8.ofNat (v / 262144 + 0xF0), UInt8.ofNat (v / 4096 % 64 + 0x80),
        UInt8.ofNat (v / 64 % 64 + 0x80), UInt8.ofNat (v % 64 + 0x80)] := by
  rw [String.utf8EncodeChar, toNat_ofNat_of_valid (by omega), if_neg (by omega), if_neg (by omega),
    if_neg (by omega), Nat.mod_eq_of_lt (by omega)]

theorem ofNat_tail_bounds (h : n < 64) :
    0x80 ≤ UInt8.ofNat (n + 0x80) ∧ UInt8.ofNat (n + 0x80) ≤ 0xBF := by
  rw [tail_bounds, toNat_ofNat_of_lt (by omega)]
  omega

/-- The bytes of the character are read as this character, whatever comes behind them. -/
def ReadBack (c : Char) : Prop :=
  ∃ b tail, String.utf8EncodeChar c = b :: tail ∧ ∀ rest, next b (tail ++ rest) = (.char c, rest)

theorem readBack_one (h : v < 0x80) : ReadBack (Char.ofNat v) := by
  refine ⟨_, _, encodeChar_one h, fun rest => ?_⟩
  have hb : UInt8.ofNat v < 0x80 := by
    rw [UInt8.lt_iff_toNat_lt, toNat_ofNat_of_lt (by omega)]
    exact h
  rw [next, if_pos hb, toNat_ofNat_of_lt (by omega)]
  rfl

theorem readBack_two (h : 0x80 ≤ v) (hlt : v < 0x800) : ReadBack (Char.ofNat v) := by
  refine ⟨_, _, encodeChar_two h hlt, fun rest => ?_⟩
  rw [next_of_lead (lead?_two (by omega) (by omega))]
  refine finish_succ_eq_char_iff.2 ⟨_, _, rfl, ofNat_tail_bounds (by omega), ?_⟩
  apply finish_zero
  rw [toNat_ofNat_of_lt (by omega)]
  dsimp only
  omega

theorem readBack_three (h : 0x800 ≤ v) (hlt : v < 0x10000) (hvalid : v < 0xD800 ∨ 0xDFFF < v) :
    ReadBack (Char.ofNat v) := by
  refine ⟨_, _, encodeChar_three h hlt hvalid, fun rest => ?_⟩
  rw [next_of_lead (lead?_three (by omega))]
  refine finish_succ_eq_char_iff.2 ⟨_, _, rfl, ?_, ?_⟩
  · rw [leadOfThree_bounds, toNat_ofNat_of_lt (by omega)]
    omega
  refine finish_succ_eq_char_iff.2 ⟨_, _, rfl, ofNat_tail_bounds (by omega), ?_⟩
  apply finish_zero
  rw [toNat_ofNat_of_lt (by omega), toNat_ofNat_of_lt (by omega)]
  dsimp only [leadOfThree]
  omega

theorem readBack_four (h : 0x10000 ≤ v) (hlt : v < 0x110000) : ReadBack (Char.ofNat v) := by
  refine ⟨_, _, encodeChar_four h hlt, fun rest => ?_⟩
  rw [next_of_lead (lead?_four (by omega))]
  refine finish_succ_eq_char_iff.2 ⟨_, _, rfl, ?_, ?_⟩
  · rw [leadOfFour_bounds, toNat_ofNat_of_lt (by omega)]
    omega
  refine finish_succ_eq_char_iff.2 ⟨_, _, rfl, ofNat_tail_bounds (by omega), ?_⟩
  refine finish_succ_eq_char_iff.2 ⟨_, _, rfl, ofNat_tail_bounds (by omega), ?_⟩
  apply finish_zero
  rw [toNat_ofNat_of_lt (by omega), toNat_ofNat_of_lt (by omega), toNat_ofNat_of_lt (by omega)]
  dsimp only [leadOfFour]
  omega

theorem readBack (c : Char) : ReadBack c := by
  have hvalid := c.valid
  have hval : c.val.toNat = c.toNat := rfl
  simp only [UInt32.isValidChar, Nat.isValidChar, hval] at hvalid
  rw [← Char.ofNat_toNat c]
  rcases Nat.lt_or_ge c.toNat 0x80 with h1 | h1
  · exact readBack_one h1
  rcases Nat.lt_or_ge c.toNat 0x800 with h2 | h2
  · exact readBack_two h1 h2
  rcases Nat.lt_or_ge c.toNat 0x10000 with h3 | h3
  · exact readBack_three h2 h3 (by omega)
  · exact readBack_four h3 (by omega)

theorem eq_ofNat_iff (h : n < 0x100) : b = UInt8.ofNat n ↔ b.toNat = n := by
  rw [← UInt8.toNat_inj, toNat_ofNat_of_lt h]

theorem encodeChar_of_finish_two (hb : b.toNat = k + 0xC0) (hk : 2 ≤ k) (hlt : k < 32)
    (h : finish 1 0x80 0xBF k [b] rest = (.char c, rest')) :
    b :: rest = String.utf8EncodeChar c ++ rest' := by
  obtain ⟨x, bytes, rfl, hx, h⟩ := finish_succ_eq_char_iff.1 h
  obtain ⟨hc, hrest⟩ := eq_of_finish_zero h
  rw [tail_bounds] at hx
  generalize hv : k * 64 + (x.toNat - 0x80) = v at hc
  have hb' : b = UInt8.ofNat (v / 64 + 0xC0) := (eq_ofNat_iff (by omega)).2 (by omega)
  have hx' : x = UInt8.ofNat (v % 64 + 0x80) := (eq_ofNat_iff (by omega)).2 (by omega)
  rw [hc, ← hrest, encodeChar_two (by omega) (by omega), ← hb', ← hx']
  rfl

theorem encodeChar_of_finish_three (hb : b.toNat = k + 0xE0) (hlt : k < 16)
    (h : finish 2 (leadOfThree k).low (leadOfThree k).high k [b] rest = (.char c, rest')) :
    b :: rest = String.utf8EncodeChar c ++ rest' := by
  obtain ⟨x, bytes, rfl, hx, h⟩ := finish_succ_eq_char_iff.1 h
  obtain ⟨y, bytes, rfl, hy, h⟩ := finish_succ_eq_char_iff.1 h
  obtain ⟨hc, hrest⟩ := eq_of_finish_zero h
  rw [leadOfThree_bounds] at hx
  rw [tail_bounds] at hy
  generalize hv : (k * 64 + (x.toNat - 0x80)) * 64 + (y.toNat - 0x80) = v at hc
  have hb' : b = UInt8.ofNat (v / 4096 + 0xE0) := (eq_ofNat_iff (by omega)).2 (by omega)
  have hx' : x = UInt8.ofNat (v / 64 % 64 + 0x80) := (eq_ofNat_iff (by omega)).2 (by omega)
  have hy' : y = UInt8.ofNat (v % 64 + 0x80) := (eq_ofNat_iff (by omega)).2 (by omega)
  rw [hc, ← hrest, encodeChar_three (by omega) (by omega) (by omega), ← hb', ← hx', ← hy']
  rfl

theorem encodeChar_of_finish_four (hb : b.toNat = k + 0xF0) (hlt : k < 5)
    (h : finish 3 (leadOfFour k).low (leadOfFour k).high k [b] rest = (.char c, rest')) :
    b :: rest = String.utf8EncodeChar c ++ rest' := by
  obtain ⟨x, bytes, rfl, hx, h⟩ := finish_succ_eq_char_iff.1 h
  obtain ⟨y, bytes, rfl, hy, h⟩ := finish_succ_eq_char_iff.1 h
  obtain ⟨z, bytes, rfl, hz, h⟩ := finish_succ_eq_char_iff.1 h
  obtain ⟨hc, hrest⟩ := eq_of_finish_zero h
  rw [leadOfFour_bounds] at hx
  rw [tail_bounds] at hy hz
  generalize hv :
    ((k * 64 + (x.toNat - 0x80)) * 64 + (y.toNat - 0x80)) * 64 + (z.toNat - 0x80) = v at hc
  have hb' : b = UInt8.ofNat (v / 262144 + 0xF0) := (eq_ofNat_iff (by omega)).2 (by omega)
  have hx' : x = UInt8.ofNat (v / 4096 % 64 + 0x80) := (eq_ofNat_iff (by omega)).2 (by omega)
  have hy' : y = UInt8.ofNat (v / 64 % 64 + 0x80) := (eq_ofNat_iff (by omega)).2 (by omega)
  have hz' : z = UInt8.ofNat (v % 64 + 0x80) := (eq_ofNat_iff (by omega)).2 (by omega)
  rw [hc, ← hrest, encodeChar_four (by omega) (by omega), ← hb', ← hx', ← hy', ← hz']
  rfl

/-- Bytes that are read as a character are its encoding. -/
theorem encodeChar_of_next (h : next b rest = (.char c, rest')) :
    b :: rest = String.utf8EncodeChar c ++ rest' := by
  by_cases hb : b < 0x80
  · rw [next, if_pos hb] at h
    obtain ⟨hc, rfl⟩ := Prod.mk.inj h
    have hnat : b.toNat < 0x80 := hb
    rw [← Piece.char.inj hc, encodeChar_one hnat, UInt8.ofNat_toNat]
    rfl
  cases hlead : lead? b with
  | none =>
    rw [next, if_neg hb, hlead] at h
    exact absurd (Prod.mk.inj h).1 Piece.noConfusion
  | some l =>
    rw [next_of_lead hlead] at h
    rw [lead?_eq] at hlead
    split at hlead
    · obtain rfl := Option.some.inj hlead
      dsimp only at h
      exact encodeChar_of_finish_two (by omega) (by omega) (by omega) h
    split at hlead
    · obtain rfl := Option.some.inj hlead
      exact encodeChar_of_finish_three (by omega) (by omega) h
    split at hlead
    · obtain rfl := Option.some.inj hlead
      exact encodeChar_of_finish_four (by omega) (by omega) h
    · cases hlead

/-! ## Whole texts -/

theorem pieces_encodeChar_append (c : Char) (bytes : List UInt8) :
    pieces (String.utf8EncodeChar c ++ bytes) = .char c :: pieces bytes := by
  obtain ⟨b, tail, hc, hnext⟩ := readBack c
  rw [hc, List.cons_append, pieces, hnext]

/-- An encoded text is cut into its characters, and what comes behind it is cut as if it stood alone. -/
theorem pieces_encode_append (text : String) (bytes : List UInt8) :
    pieces (encode text ++ bytes) = text.toList.map .char ++ pieces bytes := by
  unfold encode
  induction text.toList with
  | nil => rfl
  | cons c cs ih =>
    rw [List.flatMap_cons, List.append_assoc, pieces_encodeChar_append, ih]
    rfl

theorem eq_of_pieces {cs : List Char} (h : pieces bytes = cs.map .char) :
    bytes = cs.flatMap String.utf8EncodeChar := by
  induction cs generalizing bytes with
  | nil =>
    cases bytes with
    | nil => rfl
    | cons b rest =>
      rw [pieces] at h
      cases h
  | cons c cs ih =>
    cases bytes with
    | nil =>
      rw [pieces] at h
      cases h
    | cons b rest =>
      rw [pieces, List.map_cons] at h
      obtain ⟨hchar, hrest⟩ := List.cons.inj h
      have hnext : next b rest = (.char c, (next b rest).2) := Prod.ext hchar rfl
      rw [encodeChar_of_next hnext, ih hrest, List.flatMap_cons]

/-- Looking at the characters of pieces gives `cs` exactly if the pieces are these characters. -/
theorem mapM_eq_some_iff {char? : Piece → Option Char} (hchar : ∀ c, char? (.char c) = some c)
    (hbroken : ∀ bytes, char? (.broken bytes) = none) {ps : List Piece} {cs : List Char} :
    ps.mapM char? = some cs ↔ ps = cs.map .char := by
  induction ps generalizing cs with
  | nil => simp [eq_comm]
  | cons p ps ih =>
    cases p with
    | char c =>
      cases cs with
      | nil => simp [List.mapM_cons, Option.bind_eq_some_iff, hchar]
      | cons c' cs => simpa [List.mapM_cons, Option.bind_eq_some_iff, hchar, ih] using and_comm
    | broken bytes => cases cs <;> simp [List.mapM_cons, hbroken]

theorem text?_eq_some_iff_pieces : text? bytes = some text ↔ pieces bytes = text.toList.map .char := by
  rw [text?, Option.map_eq_some_iff]
  constructor
  · rintro ⟨cs, hcs, rfl⟩
    rw [String.toList_ofList]
    refine (mapM_eq_some_iff ?_ ?_).1 hcs
    · exact fun _ => rfl
    · exact fun _ => rfl
  · intro h
    refine ⟨text.toList, (mapM_eq_some_iff ?_ ?_).2 h, String.ofList_toList⟩
    · exact fun _ => rfl
    · exact fun _ => rfl

/-- Bytes are a text exactly if they are its encoding. -/
theorem text?_eq_some_iff : text? bytes = some text ↔ bytes = encode text := by
  rw [text?_eq_some_iff_pieces]
  constructor
  · exact eq_of_pieces
  · rintro rfl
    have h := pieces_encode_append text []
    rwa [List.append_nil, pieces, List.append_nil] at h

theorem encode_append (text text' : String) : encode (text ++ text') = encode text ++ encode text' := by
  rw [encode, String.toList_append, List.flatMap_append]
  rfl

/-- Bytes behind an encoded text spell a text exactly if all bytes together do. -/
theorem text?_encode_append (start : String) (bytes : List UInt8) :
    text? (encode start ++ bytes) = (text? bytes).map (start ++ ·) := by
  cases hbytes : text? bytes with
  | some text =>
    rw [text?_eq_some_iff] at hbytes
    rw [hbytes, ← encode_append, Option.map_some, text?_eq_some_iff]
  | none =>
    rw [Option.map_none, Option.eq_none_iff_forall_ne_some]
    intro whole hwhole
    rw [text?_eq_some_iff_pieces, pieces_encode_append] at hwhole
    obtain ⟨front, back, -, -, hback⟩ := List.append_eq_map_iff.1 hwhole
    have htext : text? bytes = some (String.ofList back) := by
      rw [text?_eq_some_iff_pieces, String.toList_ofList, ← hback]
    rw [hbytes] at htext
    cases htext

end TargetLink.Utf8
