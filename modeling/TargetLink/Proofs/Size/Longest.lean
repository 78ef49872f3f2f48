import Mathlib.Data.List.TakeWhile
import TargetLink.Proofs.Size

/-!
# Size texts and the longest number

The usual reader of the notation of C takes the longest number from the front of a text: a sign, then the
prefix that tells the base, then as many digits as there are. A size text is read otherwise, since the plus
sign is looked for behind the prefix. The two agree on what is read as a size, except where a plus sign stands
behind a prefix, or stands before a zero and the number is eight or more.
-/

namespace TargetLink.Size

variable {base n : Nat} {c : Char} {t body cs digits : List Char} {text : String} {v : UInt64}

/-! ## The longest number -/

/-- What is taken from the front of a text. -/
structure Longest where
  /-- The number, or the greatest word if the number is out of range. -/
  value : UInt64
  /-- The characters behind the number; all characters if there is no number. -/
  rest : List Char
  /-- The number is no word. -/
  outOfRange : Bool
  deriving DecidableEq

/-- Whether the number is negative, and the characters behind the sign. -/
def splitSign : List Char → Bool × List Char
  | '+' :: cs => (false, cs)
  | '-' :: cs => (true, cs)
  | cs => (false, cs)

/-- The characters from the first digit on, and the base. A prefix counts only in front of a hexadecimal
digit; otherwise its zero is an octal number. -/
def splitPrefix : List Char → List Char × Nat
  | '0' :: x :: c :: cs =>
    if (x = 'x' ∨ x = 'X') ∧ (digitValue? 16 c).isSome then (c :: cs, 16) else ('0' :: x :: c :: cs, 8)
  | '0' :: cs => ('0' :: cs, 8)
  | cs => (cs, 10)

/-- The longest number at the front of a text. A negative one counts from the end of the words. -/
def longest (t : List Char) : Longest :=
  let (negative, body) := splitSign t
  let (cs, base) := splitPrefix body
  let isDigit (c : Char) : Bool := (digitValue? base c).isSome
  let rest := cs.dropWhile isDigit
  match cs.takeWhile isDigit with
  | [] => ⟨0, t, false⟩
  | digits =>
    let n := (numeral? base digits).getD 0
    if n < UInt64.size then ⟨if negative then -UInt64.ofNat n else UInt64.ofNat n, rest, false⟩
    else ⟨-1, rest, true⟩

theorem takeWhile_of_numeral (h : numeral? base cs = some n) :
    cs.takeWhile (fun c => (digitValue? base c).isSome) = cs := by
  rw [List.takeWhile_eq_self_iff]
  intro c hc
  obtain ⟨d, hd⟩ := exists_digitValue?_of_mem h hc
  rw [hd]
  rfl

/-- The longest number of a text without a minus sign is the whole text exactly if the characters behind the
prefix are a numeral and the number is a word. -/
theorem longest_eq_iff (hsign : splitSign t = (false, body)) (hbase : splitPrefix body = (cs, base))
    (ht : t ≠ []) : longest t = ⟨v, [], false⟩ ↔ cs ≠ [] ∧ numeral? base cs = some v.toNat := by
  have hsplit : cs.takeWhile (fun c => (digitValue? base c).isSome) ++
      cs.dropWhile (fun c => (digitValue? base c).isSome) = cs := List.takeWhile_append_dropWhile
  simp only [longest, hsign, hbase]
  split
  · next hnone =>
    constructor
    · intro h
      cases h
      exact absurd rfl ht
    · rintro ⟨hne, hnum⟩
      rw [takeWhile_of_numeral hnum] at hnone
      exact absurd hnone hne
  · next hsome =>
    have hdigits : ∃ n, numeral? base (cs.takeWhile fun c => (digitValue? base c).isSome) = some n :=
      exists_numeral? fun c hc => List.all_eq_true.1 List.all_takeWhile c hc
    obtain ⟨n, hn⟩ := hdigits
    simp only [hn, Option.getD_some]
    constructor
    · intro h
      split at h
      · next hsize =>
        obtain ⟨rfl, hrest, -⟩ := Longest.mk.inj h
        rw [hrest, List.append_nil] at hsplit
        rw [hsplit] at hn hsome
        refine ⟨hsome, ?_⟩
        rw [hn, if_neg (by simp), UInt64.toNat_ofNat_of_lt' hsize]
      · exact absurd (Longest.mk.inj h).2.2 (by simp)
    · rintro ⟨-, hnum⟩
      have hall := takeWhile_of_numeral hnum
      have hrest : cs.dropWhile (fun c => (digitValue? base c).isSome) = [] := by
        rw [hall] at hsplit
        exact List.append_cancel_left (hsplit.trans (List.append_nil cs).symm)
      rw [hall, hnum] at hn
      cases hn
      rw [if_pos v.toNat_lt, hrest]
      simp

/-! ## The two ways to read -/

theorem splitSign_of_ne (hplus : c ≠ '+') (hminus : c ≠ '-') : splitSign (c :: cs) = (false, c :: cs) := by
  unfold splitSign
  split
  · next h => exact absurd (List.cons.inj h).1 hplus
  · next h => exact absurd (List.cons.inj h).1 hminus
  · rfl

theorem splitPrefix_zero (h : ∀ x ∈ cs.head?, x ≠ 'x' ∧ x ≠ 'X') :
    splitPrefix ('0' :: cs) = ('0' :: cs, 8) := by
  unfold splitPrefix
  split
  · next x c rest heq =>
    obtain ⟨-, rfl⟩ := List.cons.inj heq
    obtain ⟨hx, hX⟩ := h x rfl
    simp [hx, hX]
  · next heq => rw [(List.cons.inj heq).2]
  · next _ hzero => exact absurd rfl (hzero cs)

theorem splitPrefix_of_ne (h : c ≠ '0') : splitPrefix (c :: cs) = (c :: cs, 10) := by
  unfold splitPrefix
  split
  · next heq => exact absurd (List.cons.inj heq).1 h
  · next heq => exact absurd (List.cons.inj heq).1 h
  · rfl

/-- The plus sign stands where the longest number does not go on with it, or where it hides a prefix: behind
the prefix of a number, or before a zero with a number behind it that octal digits write otherwise. -/
def PlusAstray (t : List Char) (v : UInt64) : Prop :=
  ['0', 'x', '+'] <+: t ∨ ['0', 'X', '+'] <+: t ∨ ['0', '+'] <+: t ∨ (['+', '0'] <+: t ∧ 8 ≤ v)

theorem ne_of_numeral_cons (h : numeral? base (c :: cs) = some n) {x : Char}
    (hx : digitValue? base x = none) : c ≠ x := by
  rintro rfl
  exact numeral?_ne_of_mem List.mem_cons_self hx h

theorem longest_hexadecimal {x : Char} (hx : x = 'x' ∨ x = 'X') (hcs : digits = cs ∨ digits = '+' :: cs)
    (hne : cs ≠ []) (hnum : numeral? 16 cs = some v.toNat) :
    longest ('0' :: x :: digits) = ⟨v, [], false⟩ ↔ ¬ PlusAstray ('0' :: x :: digits) v := by
  have hsign : splitSign ('0' :: x :: digits) = (false, '0' :: x :: digits) :=
    splitSign_of_ne (by decide) (by decide)
  have hnotPlus : x ≠ '+' := by
    rintro rfl
    rcases hx with h | h <;> exact absurd h (by decide)
  rcases hcs with rfl | rfl
  · cases digits with
    | nil => exact absurd rfl hne
    | cons c cs =>
      have hc : '+' ≠ c := (ne_of_numeral_cons hnum (digitValue?_plus 16)).symm
      obtain ⟨d, hd⟩ := exists_digitValue?_of_mem hnum List.mem_cons_self
      have hbase : splitPrefix ('0' :: x :: c :: cs) = (c :: cs, 16) := by
        simp [splitPrefix, hx, hd]
      rw [longest_eq_iff hsign hbase (by simp)]
      simp [PlusAstray, hnum, hc, hnotPlus.symm]
  · have hbase : splitPrefix ('0' :: x :: '+' :: cs) = ('0' :: x :: '+' :: cs, 8) := by
      simp [splitPrefix, digitValue?_plus]
    have hbad : numeral? 8 ('0' :: x :: '+' :: cs) ≠ some v.toNat :=
      numeral?_ne_of_mem (c := '+') (by simp) (digitValue?_plus 8)
    rw [longest_eq_iff hsign hbase (by simp)]
    rcases hx with rfl | rfl <;> simp [PlusAstray, hbad]

theorem longest_octal (hx : c ≠ 'x') (hX : c ≠ 'X') (hcs : c :: digits = cs ∨ c :: digits = '+' :: cs)
    (hnum : numeral? 8 cs = some v.toNat) :
    longest ('0' :: c :: digits) = ⟨v, [], false⟩ ↔ ¬ PlusAstray ('0' :: c :: digits) v := by
  have hsign : splitSign ('0' :: c :: digits) = (false, '0' :: c :: digits) :=
    splitSign_of_ne (by decide) (by decide)
  have hbase : splitPrefix ('0' :: c :: digits) = ('0' :: c :: digits, 8) :=
    splitPrefix_zero (by simp [hx, hX])
  rw [longest_eq_iff hsign hbase (by simp)]
  rcases hcs with rfl | hcs
  · have hc : '+' ≠ c := (ne_of_numeral_cons hnum (digitValue?_plus 8)).symm
    rw [numeral?_zero_cons (by decide)]
    simp [PlusAstray, hnum, hc, hx.symm, hX.symm]
  · obtain ⟨rfl, rfl⟩ := List.cons.inj hcs
    have hbad : numeral? 8 ('0' :: '+' :: digits) ≠ some v.toNat :=
      numeral?_ne_of_mem (c := '+') (by simp) (digitValue?_plus 8)
    simp [PlusAstray, hbad]

/-- A decimal number begins with a zero only if it is this zero. -/
theorem longest_decimal (hzero : ∀ c rest, t ≠ '0' :: c :: rest) (ht : t ≠ [])
    (hnum : numeral? 10 t = some v.toNat) : longest t = ⟨v, [], false⟩ ↔ ¬ PlusAstray t v := by
  cases t with
  | nil => exact absurd rfl ht
  | cons c cs =>
    have hplus : c ≠ '+' := ne_of_numeral_cons hnum (digitValue?_plus 10)
    have hsign : splitSign (c :: cs) = (false, c :: cs) :=
      splitSign_of_ne hplus (ne_of_numeral_cons hnum (by decide))
    by_cases hc : c = '0'
    · subst hc
      cases cs with
      | nil =>
        have hbase : splitPrefix ['0'] = (['0'], 8) := rfl
        rw [longest_eq_iff hsign hbase (by simp), numeral?_zero_cons (by decide)]
        rw [numeral?_zero_cons (by decide)] at hnum
        simpa [PlusAstray] using hnum
      | cons c cs => exact absurd rfl (hzero c cs)
    · rw [longest_eq_iff hsign (splitPrefix_of_ne hc) (by simp)]
      have hc' : '0' ≠ c := fun h => hc h.symm
      simp [PlusAstray, hnum, hc', hplus.symm]

/-- Behind a plus sign a decimal number may begin with a zero. It is read again as an octal one then, which
is the same number only if it is less than eight. -/
theorem longest_decimal_behind_plus (hne : cs ≠ []) (hnum : numeral? 10 cs = some v.toNat) :
    longest ('+' :: cs) = ⟨v, [], false⟩ ↔ ¬ PlusAstray ('+' :: cs) v := by
  have hsign : splitSign ('+' :: cs) = (false, cs) := rfl
  cases cs with
  | nil => exact absurd rfl hne
  | cons c cs =>
    by_cases hc : c = '0'
    · subst hc
      have hcs := hnum
      rw [numeral?_zero_cons (by decide)] at hcs
      have hbase : splitPrefix ('0' :: cs) = ('0' :: cs, 8) := by
        apply splitPrefix_zero
        intro x hx
        have hmem := List.mem_of_mem_head? hx
        constructor
        · rintro rfl
          exact numeral?_ne_of_mem hmem (by decide) hcs
        · rintro rfl
          exact numeral?_ne_of_mem hmem (by decide) hcs
      have hlt : v < 8 ↔ v.toNat < 8 := UInt64.lt_iff_toNat_lt
      rw [longest_eq_iff hsign hbase (by simp),
        numeral?_eq_iff_of_base_lt (by decide) (by decide) hnum, ← hlt]
      simp [PlusAstray]
    · rw [longest_eq_iff hsign (splitPrefix_of_ne hc) (by simp)]
      have hc' : '0' ≠ c := fun h => hc h.symm
      simp [PlusAstray, hnum, hc']

theorem longest_iff_of_read (h : read text = .ok v) :
    longest (significant text) = ⟨v, [], false⟩ ↔ ¬ PlusAstray (significant text) v := by
  generalize hbase : digitsAndBase (significant text) = p
  obtain ⟨digits, base⟩ := p
  obtain ⟨cs, hcs, hne, hnum⟩ := (read_eq_ok_iff hbase).1 h
  rw [← splitBase_eq] at hbase
  generalize significant text = t at hbase
  unfold splitBase at hbase
  split at hbase <;> obtain ⟨rfl, rfl⟩ := Prod.mk.inj hbase
  · exact longest_hexadecimal (.inl rfl) hcs hne hnum
  · exact longest_hexadecimal (.inr rfl) hcs hne hnum
  · next hx hX => exact longest_octal hx hX hcs hnum
  · next hzero =>
    rcases hcs with rfl | rfl
    · exact longest_decimal hzero hne hnum
    · exact longest_decimal_behind_plus hne hnum

/-- A text that is read as a size is, without the blanks around it and without underscores, from end to end the
longest number of the notation of C, with the same value, exactly if no plus sign goes astray in it. -/
theorem longest_of_read (h : read text = .ok v) : ∃ core, Trims text.toList core ∧
    (longest (core.filter (· != '_')) = ⟨v, [], false⟩ ↔ ¬ PlusAstray (core.filter (· != '_')) v) :=
  ⟨trimBlank text.toList, trims_trimBlank _, longest_iff_of_read h⟩

/-- What is read as ten is the octal number eight to the other reader. -/
theorem longest_of_read_zero_behind_plus : read "+010" = .ok 10 ∧
    longest ['+', '0', '1', '0'] = ⟨8, [], false⟩ ∧ longest ['+', '0', '1', '0'] ≠ ⟨10, [], false⟩ := by
  have hread : read "+010" = .ok 10 := by decide
  obtain ⟨core, htrims, hiff⟩ := longest_of_read hread
  have hcore : core = ['+', '0', '1', '0'] := htrims.trimBlank_eq.symm.trans (by decide)
  rw [hcore] at hiff
  have hastray : PlusAstray (['+', '0', '1', '0'].filter (· != '_')) 10 :=
    .inr (.inr (.inr ⟨by decide, by decide⟩))
  exact ⟨hread, by decide, fun h => hiff.1 h hastray⟩

end TargetLink.Size
