import TargetLink.Proofs.Transfer.Pieces

/-!
# Serving a transfer

Some ranges of addresses are served by a memory and others are not. Where the hull of a transfer is served,
all pieces of it are. The converse takes a memory that does not serve both ends of the address space:
otherwise a transfer may run past the last address and go on at zero.
-/

namespace TargetLink

/-- `serves start len` may say that a memory serves the `len` bytes from `start` on. -/
structure Serving (serves : Nat → Nat → Prop) : Prop where
  /-- A range is served exactly if its parts are. -/
  split : ∀ {a n k}, 0 < n → 0 < k → (serves a (n + k) ↔ serves a n ∧ serves (a + n) k)
  /-- No range goes past the last address. -/
  le_size : ∀ {a n}, serves a n → a + n ≤ UInt64.size

/-- Ranges are served, but not both the last address and the first one. -/
structure EndsApart (serves : Nat → Nat → Prop) : Prop extends Serving serves where
  ends : ∀ {a n k}, serves a n → serves 0 k → a + n < UInt64.size

/-- The `len` bytes from `start` on lie in the `size` bytes from `base` on. -/
def Within (base size : Nat) (start len : Nat) : Prop :=
  base ≤ start ∧ start + len ≤ base + size

theorem serving_within {base size : Nat} (hend : base + size ≤ UInt64.size) :
    Serving (Within base size) where
  split hn hk := by
    unfold Within
    omega
  le_size h := Nat.le_trans h.2 hend

/-- Only an interval of all addresses has both ends. -/
theorem endsApart_within {base size : Nat} (hend : base + size ≤ UInt64.size)
    (hsize : size < UInt64.size) : EndsApart (Within base size) where
  toServing := serving_within hend
  ends h hzero := by
    have hle := h.2
    have hbase := hzero.1
    omega

namespace Serving

variable {serves : Nat → Nat → Prop} {g : Grain} {addr : TargetAddr} {a n k len y : Nat}

/-- Where a range is served, each part of it is. -/
theorem part {x : Nat} (h : Serving serves) (hserves : serves a n) (hle : a ≤ x) (hk : 0 < k)
    (hend : x + k ≤ a + n) : serves x k := by
  have hback : serves x (n - (x - a)) := by
    rcases Nat.eq_zero_or_pos (x - a) with hzero | hpos
    · rwa [hzero, Nat.sub_zero, show x = a by omega]
    · have hsplit := h.split (a := a) hpos (show 0 < n - (x - a) by omega)
      rw [show x - a + (n - (x - a)) = n by omega, show a + (x - a) = x by omega] at hsplit
      exact (hsplit.1 hserves).2
  rcases Nat.lt_or_ge k (n - (x - a)) with hmore | hall
  · have hsplit := h.split (a := x) hk (show 0 < n - (x - a) - k by omega)
    rw [show k + (n - (x - a) - k) = n - (x - a) by omega] at hsplit
    exact (hsplit.1 hback).1
  · rwa [show n - (x - a) = k by omega] at hback

theorem byte {x : Nat} (h : Serving serves) (hserves : serves a n) (hle : a ≤ x) (hlt : x < a + n) :
    serves x 1 :=
  h.part hserves hle Nat.one_pos hlt

/-- Where the hull of a transfer is served, its pieces cover its bytes. -/
theorem cut_of_hull (h : Serving serves) (hhull : serves (alignDown g.align addr.toNat)
      (alignUp g.align (addr.toNat + len) - alignDown g.align addr.toNat)) :
    Grain.Cut g addr.toNat (g.pieces addr len) (addr.toNat + len) := by
  have hend := h.le_size hhull
  have hdown := alignDown_le g.align addr.toNat
  have hup := le_alignUp g.align_pos (addr.toNat + len)
  exact Grain.cut_pieces (by omega)

theorem of_mem_pieces {p : Piece} (h : Serving serves)
    (hhull : 0 < len → serves (alignDown g.align addr.toNat)
      (alignUp g.align (addr.toNat + len) - alignDown g.align addr.toNat))
    (hp : p ∈ g.pieces addr len) : serves p.start.toNat (p.extent g) := by
  rcases Nat.eq_zero_or_pos len with rfl | hlen
  · rw [Grain.pieces_zero] at hp
    cases hp
  · obtain ⟨hle, hend⟩ := (h.cut_of_hull (hhull hlen)).mem_hull hp
    have hdown := alignDown_le g.align addr.toNat
    have hup := le_alignUp g.align_pos (addr.toNat + len)
    exact h.part (hhull hlen) hle (Grain.proper_of_mem_pieces hp).extent_pos (by omega)

end Serving

namespace EndsApart

variable {serves : Nat → Nat → Prop} {g : Grain} {addr : TargetAddr} {a n k len y : Nat}

/-- Ranges that follow one another, around the end of the address space if need be, are served
exactly if the range that they make up is. -/
theorem join (h : EndsApart serves) (hn : 0 < n) (hk : 0 < k) (hy : y = (a + n) % UInt64.size) :
    serves a n ∧ serves y k ↔ serves a (n + k) := by
  rcases Nat.lt_or_ge (a + n) UInt64.size with hlt | hge
  · rw [hy, Nat.mod_eq_of_lt hlt, h.split hn hk]
  · -- Both sides are false: no range goes past the end, and after one that ends there nothing is
    -- served at zero.
    constructor
    · rintro ⟨hfront, hback⟩
      have hle := h.le_size hfront
      have hzero : y = 0 := by
        rw [hy, Nat.le_antisymm hle hge]
        exact Nat.mod_self _
      rw [hzero] at hback
      have hlt := h.ends hfront hback
      omega
    · intro hall
      have hle := h.le_size hall
      omega

theorem alignedPieces_iff (h : EndsApart serves) (hlen : 0 < len) :
    (∀ p ∈ g.alignedPieces addr len, serves p.start.toNat (p.extent g)) ↔
      serves addr.toNat (alignUp g.align len) := by
  induction addr, len using Grain.alignedPieces.induct g with
  | case1 addr hlt => omega
  | case2 addr len hlt hne =>
    rw [Grain.alignedPieces, if_pos hlt, if_neg hne, List.forall_mem_singleton,
      alignUp_eq (Nat.dvd_refl _) (by omega) (by omega)]
    rfl
  | case3 addr len hlt ih =>
    have hpos : 0 < g.bodyLen len := Grain.bodyLen_pos (by omega)
    have hle := g.bodyLen_le len
    rw [Grain.alignedPieces, if_neg hlt, List.forall_mem_cons]
    by_cases hfull : g.bodyLen len = len
    · have hup := alignUp_of_dvd g.align_pos (g.dvd_bodyLen len)
      rw [hfull] at hup
      rw [hfull, Nat.sub_self, Grain.alignedPieces_zero, hup]
      simp [Piece.start, Piece.extent]
    · have hup := alignUp_add g.align_pos (g.dvd_bodyLen len) (len - g.bodyLen len)
      rw [Nat.add_sub_cancel' hle] at hup
      rw [ih (by omega), hup]
      exact h.join hpos (alignUp_pos g.align_pos (by omega)) (TargetAddr.toNat_add _ _)

/-- The pieces of a transfer are served exactly if its hull is. -/
theorem pieces_iff (h : EndsApart serves) (hlen : 0 < len) :
    (∀ p ∈ g.pieces addr len, serves p.start.toNat (p.extent g)) ↔
      serves (alignDown g.align addr.toNat)
        (alignUp g.align (addr.toNat + len) - alignDown g.align addr.toNat) := by
  have hpos := g.align_pos
  have hdown := g.alignedBase_toNat addr
  have hbase := g.alignedBase_add_skew addr
  have haligned := g.dvd_alignedBase addr
  rcases g.pieces_cases addr hlen with ⟨haddr, hpieces⟩ | ⟨hskew, hfits, hpieces⟩ |
    ⟨head, hskew, hfull, hhead, hlt, hpieces⟩
  · rw [hpieces, h.alignedPieces_iff hlen, alignDown_of_dvd hpos haddr, alignUp_add hpos haddr,
      Nat.add_sub_cancel_left]
  · have hup := alignUp_eq (Nat.dvd_add haligned (Nat.dvd_refl g.align))
      (show addr.toNat + len ≤ _ by omega) (by omega)
    rw [hpieces, List.forall_mem_singleton, hup, hdown, Nat.add_sub_cancel_left, ← hdown]
    rfl
  · have hup : alignUp g.align (addr.toNat + len) =
        (g.alignedBase addr).toNat + g.align + alignUp g.align (len - head) := by
      rw [← alignUp_add hpos (Nat.dvd_add haligned (Nat.dvd_refl g.align))]
      congr 1
      omega
    rw [hpieces, List.forall_mem_cons, h.alignedPieces_iff (by omega), hup, ← hdown,
      Nat.add_assoc, Nat.add_sub_cancel_left]
    change serves (g.alignedBase addr).toNat g.align ∧ _ ↔ _
    refine h.join hpos (alignUp_pos hpos (by omega)) ?_
    rw [TargetAddr.toNat_add]
    congr 1
    omega

end EndsApart

end TargetLink
