import Mathlib.Data.List.Induction
import Mathlib.Data.Nat.Digits.Defs
import TargetLink.Text.Digit

/-!
# The number that a row of digits writes

`numeral?` gives every digit the power of the base that belongs to its place, counted from the right. One
more digit at the right end multiplies the number by the base and adds the digit, so the number of a front
part is never greater than the whole. The digits that a number is shown with write this number again.
-/

namespace TargetLink

variable {base n d : Nat} {c : Char} {cs front back : List Char}

/-- The number that the characters write in the base, if all of them are digits. -/
def numeral? (base : Nat) (cs : List Char) : Option Nat :=
  (cs.mapM (digitValue? base)).map fun digits => Nat.ofDigits base digits.reverse

@[simp] theorem numeral?_nil (base : Nat) : numeral? base [] = some 0 := rfl

theorem numeral?_concat_eq_some_iff : numeral? base (cs ++ [c]) = some n ↔
    ∃ m d, numeral? base cs = some m ∧ digitValue? base c = some d ∧ n = m * base + d := by
  simp only [numeral?, List.mapM_append, List.mapM_cons, List.mapM_nil]
  cases hcs : cs.mapM (digitValue? base) with
  | none => simp
  | some digits =>
    cases hc : digitValue? base c with
    | none => simp
    | some d =>
      simp [Nat.ofDigits_cons, Nat.mul_comm, Nat.add_comm, eq_comm]

/-- A front part of a numeral is a numeral, and its number is no greater. -/
theorem numeral?_front (h : numeral? base (front ++ back) = some n) :
    ∃ m ≤ n, numeral? base front = some m := by
  induction back using List.reverseRecOn generalizing n with
  | nil =>
    rw [List.append_nil] at h
    exact ⟨n, Nat.le_refl n, h⟩
  | append_singleton back c ih =>
    rw [← List.append_assoc, numeral?_concat_eq_some_iff] at h
    obtain ⟨m, d, hm, hd, rfl⟩ := h
    obtain ⟨k, hk, hfront⟩ := ih hm
    have hbase : 0 < base := Nat.zero_lt_of_lt (digitValue?_lt hd)
    have hle : m ≤ m * base := Nat.le_mul_of_pos_right m hbase
    exact ⟨k, by omega, hfront⟩

theorem exists_digitValue?_of_mem (h : numeral? base cs = some n) (hc : c ∈ cs) :
    ∃ d, digitValue? base c = some d := by
  obtain ⟨front, back, rfl⟩ := List.append_of_mem hc
  have hwhole : numeral? base ((front ++ [c]) ++ back) = some n := by simpa using h
  obtain ⟨m, -, hm⟩ := numeral?_front hwhole
  obtain ⟨k, d, -, hd, -⟩ := numeral?_concat_eq_some_iff.1 hm
  exact ⟨d, hd⟩

theorem numeral?_ne_of_mem (hc : c ∈ cs) (hnone : digitValue? base c = none) :
    numeral? base cs ≠ some n := by
  intro h
  obtain ⟨d, hd⟩ := exists_digitValue?_of_mem h hc
  rw [hnone] at hd
  cases hd

/-- Characters that are digits write a number. -/
theorem exists_numeral? (h : ∀ c ∈ cs, (digitValue? base c).isSome) : ∃ n, numeral? base cs = some n := by
  induction cs using List.reverseRecOn with
  | nil => exact ⟨0, rfl⟩
  | append_singleton cs c ih =>
    obtain ⟨m, hm⟩ := ih fun c hc => h c (by simp [hc])
    obtain ⟨d, hd⟩ := Option.isSome_iff_exists.1 (h c (by simp))
    exact ⟨m * base + d, numeral?_concat_eq_some_iff.2 ⟨m, d, hm, hd, rfl⟩⟩

/-- A zero in front does not count. -/
theorem numeral?_zero_cons (hbase : 0 < base) : numeral? base ('0' :: cs) = numeral? base cs := by
  have hzero : digitValue? base '0' = some 0 := by simp [digitValue?, hbase]
  simp only [numeral?, List.mapM_cons, hzero]
  cases cs.mapM (digitValue? base) with
  | none => rfl
  | some digits => simp [Nat.ofDigits_append]

/-! ## Digits of one base in another -/

theorem digitValue?_eq_of_lt {base' : Nat} (h : digitValue? base c = some d) (hlt : d < base') :
    digitValue? base' c = some d := by
  obtain ⟨hvalue, -⟩ := Option.filter_eq_some_iff.1 h
  exact Option.filter_eq_some_iff.2 ⟨hvalue, by simpa using hlt⟩

theorem digitValue?_unique {base' d' : Nat} (h : digitValue? base c = some d)
    (h' : digitValue? base' c = some d') : d = d' := by
  have hvalue := (Option.filter_eq_some_iff.1 h).1
  have hvalue' := (Option.filter_eq_some_iff.1 h').1
  exact Option.some.inj (hvalue.symm.trans hvalue')

/-- The same digits write no greater number in a smaller base. -/
theorem numeral?_le_of_base_le {base' n' : Nat} (hle : base ≤ base') (h : numeral? base cs = some n)
    (h' : numeral? base' cs = some n') : n ≤ n' := by
  induction cs using List.reverseRecOn generalizing n n' with
  | nil =>
    cases h
    exact Nat.zero_le n'
  | append_singleton cs c ih =>
    obtain ⟨m, d, hm, hd, rfl⟩ := numeral?_concat_eq_some_iff.1 h
    obtain ⟨m', d', hm', hd', rfl⟩ := numeral?_concat_eq_some_iff.1 h'
    have hdigit : d = d' := digitValue?_unique hd hd'
    have hmul : m * base ≤ m' * base' := Nat.mul_le_mul (ih hm hm') hle
    omega

/-- The digits of a number write the same number in a smaller base exactly if the number is a digit
there: from the second digit on, that counts, the places are worth less. -/
theorem numeral?_eq_iff_of_base_lt {base' : Nat} (hlt : base < base') (hbase : 0 < base)
    (h : numeral? base' cs = some n) : numeral? base cs = some n ↔ n < base := by
  induction cs using List.reverseRecOn generalizing n with
  | nil =>
    cases h
    simpa using hbase
  | append_singleton cs c ih =>
    obtain ⟨m', d', hm', hd', rfl⟩ := numeral?_concat_eq_some_iff.1 h
    rw [numeral?_concat_eq_some_iff]
    constructor
    · rintro ⟨m, d, hm, hd, heq⟩
      have hdigit : d = d' := digitValue?_unique hd hd'
      have hdlt : d < base := digitValue?_lt hd
      have hle : m ≤ m' := numeral?_le_of_base_le (Nat.le_of_lt hlt) hm hm'
      have hmul : m * base ≤ m' * base := Nat.mul_le_mul_right base hle
      have hgap : m' * base' = m' * base + m' * (base' - base) := by
        rw [← Nat.mul_add]
        congr 1
        omega
      have hnone : m' * (base' - base) = 0 := by omega
      have hzero : m' = 0 := by
        rcases Nat.mul_eq_zero.1 hnone with h0 | h0
        · exact h0
        · omega
      rw [hzero]
      omega
    · intro hsmall
      have hmul : m' ≤ m' * base' := Nat.le_mul_of_pos_right m' (by omega)
      have hzero : m' = 0 := by
        rcases Nat.eq_zero_or_pos m' with h0 | hpos
        · exact h0
        · have : base' ≤ m' * base' := Nat.le_mul_of_pos_left base' hpos
          omega
      rw [hzero] at hm' hsmall
      have hd : digitValue? base c = some d' := digitValue?_eq_of_lt hd' (by omega)
      exact ⟨0, d', (ih hm').2 hbase, hd, by rw [hzero]; omega⟩

/-! ## The digits a number is shown with -/

theorem digitValue?_digitChar (hd : d < base) (hbase : base ≤ 16) :
    digitValue? base (Nat.digitChar d) = some d := by
  have hall : ∀ d < 16, digitValue? 16 (Nat.digitChar d) = some d := by decide
  exact digitValue?_eq_of_lt (hall d (by omega)) hd

theorem numeral?_toDigits (hlt : 1 < base) (hle : base ≤ 16) (n : Nat) :
    numeral? base (Nat.toDigits base n) = some n := by
  induction n using Nat.strongRecOn with
  | ind n ih =>
    rw [Nat.toDigits_eq_if hlt]
    split
    · next hn =>
      have hdigit := digitValue?_digitChar hn hle
      rw [← List.nil_append [n.digitChar], numeral?_concat_eq_some_iff]
      exact ⟨0, n, rfl, hdigit, by omega⟩
    · next hn =>
      have hsmaller : n / base < n := Nat.div_lt_self (by omega) hlt
      have hdigit := digitValue?_digitChar (Nat.mod_lt n (by omega)) hle
      refine numeral?_concat_eq_some_iff.2 ⟨n / base, n % base, ih _ hsmaller, hdigit, ?_⟩
      rw [Nat.mul_comm]
      exact (Nat.div_add_mod n base).symm

/-- No number but zero is shown with a zero in front. -/
theorem head?_toDigits_ne (hlt : 1 < base) (hle : base ≤ 16) (hn : 0 < n) :
    (Nat.toDigits base n).head? ≠ some '0' := by
  induction n using Nat.strongRecOn with
  | ind n ih =>
    rw [Nat.toDigits_eq_if hlt]
    split
    · next hsmall =>
      have hall : ∀ d < 16, 0 < d → Nat.digitChar d ≠ '0' := by decide
      simpa using hall n (by omega) hn
    · next hlarge =>
      have hpos : 0 < n / base := Nat.div_pos (by omega) (by omega)
      have hhead := ih _ (Nat.div_lt_self hn hlt) hpos
      cases hdigits : Nat.toDigits base (n / base) with
      | nil => exact absurd hdigits Nat.toDigits_ne_nil
      | cons c cs =>
        rw [hdigits] at hhead
        exact hhead

end TargetLink
