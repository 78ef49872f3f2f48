/-!
# Alignment

The multiples of `a` next to a number, on either side of it. The range between the two that enclose a
transfer is the transfer's hull: the aligned chunks that it touches.
-/

namespace TargetLink

/-- The greatest multiple of `a` that is not above `n`. -/
def alignDown (a n : Nat) : Nat :=
  n - n % a

/-- The least multiple of `a` that is not below `n`. -/
def alignUp (a n : Nat) : Nat :=
  (n + (a - 1)) / a * a

variable {a m n : Nat}

theorem dvd_alignDown (a n : Nat) : a ∣ alignDown a n :=
  Nat.dvd_sub_mod n

theorem alignDown_le (a n : Nat) : alignDown a n ≤ n :=
  Nat.sub_le _ _

theorem lt_alignDown_add (ha : 0 < a) (n : Nat) : n < alignDown a n + a := by
  have hlt := Nat.mod_lt n ha
  unfold alignDown
  omega

theorem dvd_alignUp (a n : Nat) : a ∣ alignUp a n :=
  Nat.dvd_mul_left _ _

theorem le_alignUp (ha : 0 < a) (n : Nat) : n ≤ alignUp a n := by
  have hdiv := Nat.div_add_mod' (n + (a - 1)) a
  have hlt := Nat.mod_lt (n + (a - 1)) ha
  unfold alignUp
  omega

theorem alignUp_lt (ha : 0 < a) (n : Nat) : alignUp a n < n + a := by
  have hle := Nat.div_mul_le_self (n + (a - 1)) a
  unfold alignUp
  omega

/-- Multiples of `a` that are less than `a` apart are the same. -/
theorem eq_of_dvd_of_near (hm : a ∣ m) (hn : a ∣ n) (hmn : m < n + a) (hnm : n < m + a) :
    m = n := by
  obtain ⟨x, rfl⟩ := hm
  obtain ⟨y, rfl⟩ := hn
  have hxy : x < y + 1 := Nat.lt_of_mul_lt_mul_left (a := a) (by rwa [Nat.mul_add, Nat.mul_one])
  have hyx : y < x + 1 := Nat.lt_of_mul_lt_mul_left (a := a) (by rwa [Nat.mul_add, Nat.mul_one])
  rw [show x = y by omega]

theorem alignUp_eq (hm : a ∣ m) (hle : n ≤ m) (hlt : m < n + a) : alignUp a n = m := by
  have ha : 0 < a := by omega
  have hup := le_alignUp ha n
  have hnear := alignUp_lt ha n
  exact eq_of_dvd_of_near (dvd_alignUp a n) hm (by omega) (by omega)

theorem alignDown_eq (hm : a ∣ m) (hle : m ≤ n) (hlt : n < m + a) : alignDown a n = m := by
  have hdown := alignDown_le a n
  have hnear := lt_alignDown_add (a := a) (by omega) n
  exact eq_of_dvd_of_near (dvd_alignDown a n) hm (by omega) (by omega)

theorem alignUp_of_dvd (ha : 0 < a) (h : a ∣ n) : alignUp a n = n :=
  alignUp_eq h (Nat.le_refl n) (by omega)

theorem alignDown_of_dvd (ha : 0 < a) (h : a ∣ n) : alignDown a n = n :=
  alignDown_eq h (Nat.le_refl n) (by omega)

/-- The next multiple is as far from an aligned place as from zero. -/
theorem alignUp_add (ha : 0 < a) (h : a ∣ m) (n : Nat) : alignUp a (m + n) = m + alignUp a n := by
  have hup := le_alignUp ha n
  have hnear := alignUp_lt ha n
  exact alignUp_eq (Nat.dvd_add h (dvd_alignUp a n)) (by omega) (by omega)

theorem alignDown_add (ha : 0 < a) (h : a ∣ m) (n : Nat) :
    alignDown a (m + n) = m + alignDown a n := by
  have hle := alignDown_le a n
  have hlt := lt_alignDown_add ha n
  exact alignDown_eq (Nat.dvd_add h (dvd_alignDown a n)) (by omega) (by omega)

theorem alignUp_mono (h : m ≤ n) : alignUp a m ≤ alignUp a n :=
  Nat.mul_le_mul_right a (Nat.div_le_div_right (Nat.add_le_add_right h _))

theorem alignUp_le (ha : 0 < a) (hm : a ∣ m) (hle : n ≤ m) : alignUp a n ≤ m := by
  have hmono := alignUp_mono (a := a) hle
  rwa [alignUp_of_dvd ha hm] at hmono

theorem le_alignDown (ha : 0 < a) (hm : a ∣ m) (hle : m ≤ n) : m ≤ alignDown a n := by
  obtain ⟨x, rfl⟩ := hm
  have hx : x ≤ n / a := (Nat.le_div_iff_mul_le ha).2 (by rwa [Nat.mul_comm])
  calc a * x ≤ a * (n / a) := Nat.mul_le_mul_left a hx
    _ = alignDown a n := Nat.mul_div_self_eq_mod_sub_self

theorem alignUp_pos (ha : 0 < a) (hn : 0 < n) : 0 < alignUp a n :=
  Nat.lt_of_lt_of_le hn (le_alignUp ha n)

end TargetLink
