import TargetLink.Proofs.Transfer.Serving

/-!
# The front of a transfer

A transfer that stops early has done the pieces at its front. Wherever the transfer would have gone on,
even around the end of the address space, the pieces that a memory served before lie in a row, and all of
them reach the end of their chunks.
-/

namespace TargetLink

namespace Piece

theorem totalLen_append (ps qs : List Piece) : totalLen (ps ++ qs) = totalLen ps + totalLen qs := by
  induction ps with
  | nil => exact (Nat.zero_add _).symm
  | cons p ps ih =>
    rw [List.cons_append, totalLen, totalLen, ih]
    omega

/-- Behind the bytes of the pieces in front there are enough left for the piece. -/
theorem length_part {front : List Piece} {p : Piece} {bytes : List UInt8}
    (h : totalLen front + p.len ≤ bytes.length) :
    ((bytes.drop (totalLen front)).take p.len).length = p.len := by
  rw [List.length_take, List.length_drop]
  omega

/-- The piece reaches the end of the chunks that its request covers. -/
def Full (g : Grain) (p : Piece) : Prop :=
  p.start.toNat + p.extent g = p.first + p.len

end Piece

namespace Grain

variable {g : Grain} {addr : TargetAddr} {len lo hi x : Nat} {p q : Piece}
  {front back ps : List Piece}

theorem start_of_alignedPieces (h : g.alignedPieces addr len = p :: back) : p.start = addr := by
  rw [alignedPieces] at h
  split at h
  · split at h
    · cases h
    · cases h
      rfl
  · cases h
    rfl

theorem len_pos_of_mem_alignedPieces (h : p ∈ g.alignedPieces addr len) : 0 < p.len := by
  induction addr, len using alignedPieces.induct g with
  | case1 addr hlt =>
    rw [alignedPieces, if_pos hlt, if_pos rfl] at h
    cases h
  | case2 addr len hlt hne =>
    rw [alignedPieces, if_pos hlt, if_neg hne, List.mem_singleton] at h
    rw [h]
    exact Nat.pos_of_ne_zero hne
  | case3 addr len hlt ih =>
    rw [alignedPieces, if_neg hlt, List.mem_cons] at h
    rcases h with rfl | h
    · exact bodyLen_pos (by omega)
    · exact ih h

theorem len_pos_of_mem_pieces (h : p ∈ g.pieces addr len) : 0 < p.len := by
  rcases Nat.eq_zero_or_pos len with rfl | hlen
  · rw [pieces_zero] at h
    cases h
  · rcases g.pieces_cases addr hlen with ⟨-, hpieces⟩ | ⟨-, -, hpieces⟩ | ⟨head, -, -, hhead, -, hpieces⟩
    · rw [hpieces] at h
      exact len_pos_of_mem_alignedPieces h
    · rw [hpieces, List.mem_singleton] at h
      rw [h]
      exact hlen
    · rw [hpieces, List.mem_cons] at h
      rcases h with rfl | h
      · exact hhead
      · exact len_pos_of_mem_alignedPieces h

theorem proper_of_split (h : g.pieces addr len = front ++ p :: back) :
    (∀ q ∈ front, q.Proper g) ∧ p.Proper g := by
  have hproper : ∀ q ∈ front ++ p :: back, q.Proper g := by
    rw [← h]
    exact fun _ => proper_of_mem_pieces
  rw [List.forall_mem_append, List.forall_mem_cons] at hproper
  exact ⟨hproper.1, hproper.2.1⟩

theorem totalLen_split (h : g.pieces addr len = front ++ p :: back) :
    Piece.totalLen front + p.len ≤ len := by
  have hsum := g.totalLen_pieces addr len
  rw [h, Piece.totalLen_append, Piece.totalLen] at hsum
  omega

theorem totalLen_front_lt (h : g.pieces addr len = front ++ p :: back) :
    Piece.totalLen front < len := by
  have hsplit := totalLen_split h
  have hp : p ∈ g.pieces addr len := by
    rw [h]
    exact List.mem_append_right _ List.mem_cons_self
  have hpos := len_pos_of_mem_pieces hp
  omega

/-! ## Full pieces -/

theorem full_of_alignedPieces (h : g.alignedPieces addr len = front ++ p :: back) (hq : q ∈ front) :
    q.Full g := by
  induction addr, len using alignedPieces.induct g generalizing front with
  | case1 addr hlt =>
    rw [alignedPieces, if_pos hlt, if_pos rfl] at h
    cases front <;> cases h
  | case2 addr len hlt hne =>
    -- The edge at the end is not followed by a piece.
    rw [alignedPieces, if_pos hlt, if_neg hne] at h
    rcases front with _ | ⟨r, _ | ⟨r', front⟩⟩
    · cases hq
    · cases h
    · cases h
  | case3 addr len hlt ih =>
    rw [alignedPieces, if_neg hlt] at h
    cases front with
    | nil => cases hq
    | cons r front =>
      obtain ⟨rfl, hrest⟩ := List.cons.inj h
      rcases List.mem_cons.1 hq with rfl | hq
      · rfl
      · exact ih hrest hq

/-- A piece that is followed by another one reaches the end of its chunks. -/
theorem full_of_pieces (h : g.pieces addr len = front ++ p :: back) (hq : q ∈ front) : q.Full g := by
  rcases Nat.eq_zero_or_pos len with rfl | hlen
  · rw [pieces_zero] at h
    cases front <;> cases h
  · rcases g.pieces_cases addr hlen with ⟨-, hpieces⟩ | ⟨-, -, hpieces⟩ | ⟨head, -, hfull, -, -, hpieces⟩
    · exact full_of_alignedPieces (hpieces.symm.trans h) hq
    · rw [hpieces] at h
      rcases front with _ | ⟨r, _ | ⟨r', front⟩⟩
      · cases hq
      · cases h
      · cases h
    · rw [hpieces] at h
      cases front with
      | nil => cases hq
      | cons r front =>
        obtain ⟨rfl, hrest⟩ := List.cons.inj h
        rcases List.mem_cons.1 hq with rfl | hq
        · change (g.alignedBase addr).toNat + g.align = (g.alignedBase addr).toNat + g.skew addr + head
          omega
        · exact full_of_alignedPieces hrest hq

/-- Full pieces in a row cover, from their first byte on, just the bytes up to their last one. -/
theorem Cut.lt_iff_covered (h : Cut g lo ps hi) (hfull : ∀ p ∈ ps, p.Full g) (hx : lo ≤ x) :
    x < hi ↔ ∃ p ∈ ps, p.start.toNat ≤ x ∧ x < p.start.toNat + p.extent g := by
  induction ps generalizing lo with
  | nil =>
    rw [h.eq_of_nil]
    constructor
    · intro hlt
      omega
    · rintro ⟨p, hp, -⟩
      cases hp
  | cons p ps ih =>
    obtain ⟨-, rfl, hrest⟩ := h.uncons
    rw [List.forall_mem_cons] at hfull
    have hle := hrest.le
    have hend : p.start.toNat + p.extent g = p.first + p.len := hfull.1
    have hstart : p.start.toNat ≤ p.first := by
      cases p with
      | edge base skip len => exact Nat.le_add_right _ _
      | whole addr len => exact Nat.le_refl _
    by_cases hin : x < p.first + p.len
    · constructor
      · intro _
        exact ⟨p, List.mem_cons_self, by omega, by omega⟩
      · intro _
        omega
    · rw [ih hrest hfull.2 (by omega)]
      constructor
      · rintro ⟨q, hq, hcover⟩
        exact ⟨q, List.mem_cons_of_mem _ hq, hcover⟩
      · rintro ⟨q, hq, hcover⟩
        rcases List.mem_cons.1 hq with rfl | hq
        · omega
        · exact ⟨q, hq, hcover⟩

end Grain

/-! ## Served pieces -/

namespace EndsApart

open Grain

variable {serves : Nat → Nat → Prop} {g : Grain} {addr : TargetAddr} {a n k len y : Nat}
  {front back : List Piece}

/-- What is served behind a served range is not around the end of the address space. -/
theorem eq_add_of_next (h : EndsApart serves) (hfront : serves a n) (hback : serves y k)
    (hy : y = (a + n) % UInt64.size) : y = a + n := by
  have hle := h.le_size hfront
  rcases Nat.lt_or_eq_of_le hle with hlt | hend
  · rw [hy, Nat.mod_eq_of_lt hlt]
  · have hzero : y = 0 := by rw [hy, hend, Nat.mod_self]
    rw [hzero] at hback
    have hlt := h.ends hfront hback
    omega

/-- Behind a served range the pieces go on in a row, if they do from an aligned address on. -/
theorem cut_behind (h : EndsApart serves) (hrange : serves a n)
    (hnext : addr.toNat = (a + n) % UInt64.size) (hdvd : g.align ∣ a + n)
    (heq : g.alignedPieces addr len = front ++ back)
    (hserves : ∀ p ∈ front, serves p.start.toNat (p.extent g))
    (hcut : g.align ∣ addr.toNat → Cut g addr.toNat front (addr.toNat + Piece.totalLen front)) :
    Cut g (a + n) front (a + n + Piece.totalLen front) := by
  cases front with
  | nil => exact .done _
  | cons q front =>
    -- A piece follows and is served where it starts, so its address has not gone around.
    have hq := (List.forall_mem_cons.1 hserves).1
    rw [start_of_alignedPieces heq] at hq
    have haddr : addr.toNat = a + n := h.eq_add_of_next hrange hq hnext
    rw [haddr] at hcut
    exact hcut hdvd

theorem cut_of_alignedPieces (h : EndsApart serves) (hdvd : g.align ∣ addr.toNat)
    (heq : g.alignedPieces addr len = front ++ back)
    (hserves : ∀ p ∈ front, serves p.start.toNat (p.extent g)) :
    Cut g addr.toNat front (addr.toNat + Piece.totalLen front) := by
  induction addr, len using alignedPieces.induct g generalizing front with
  | case1 addr hlt =>
    rw [alignedPieces, if_pos hlt, if_pos rfl] at heq
    obtain ⟨rfl, -⟩ := List.append_eq_nil_iff.1 heq.symm
    exact .done _
  | case2 addr len hlt hne =>
    rw [alignedPieces, if_pos hlt, if_neg hne] at heq
    cases front with
    | nil => exact .done _
    | cons p front =>
      obtain ⟨rfl, hrest⟩ := List.cons.inj heq
      obtain ⟨rfl, -⟩ := List.append_eq_nil_iff.1 hrest.symm
      have hedge : Cut g (addr.toNat + 0) [.edge addr 0 len] (addr.toNat + 0 + len) :=
        .edge hdvd (by omega) (by omega) hlt (.inl rfl) (.done _)
      exact hedge
  | case3 addr len hlt ih =>
    rw [alignedPieces, if_neg hlt] at heq
    cases front with
    | nil => exact .done _
    | cons p front =>
      obtain ⟨rfl, hrest⟩ := List.cons.inj heq
      rw [List.forall_mem_cons] at hserves
      obtain ⟨hwhole, hserves⟩ := hserves
      rw [Piece.totalLen, ← Nat.add_assoc]
      refine .whole hdvd (g.dvd_bodyLen len) (bodyLen_pos (by omega)) (Nat.min_le_right _ _) ?_
      have hbehind : g.align ∣ addr.toNat + g.bodyLen len := Nat.dvd_add hdvd (g.dvd_bodyLen len)
      exact h.cut_behind hwhole (TargetAddr.toNat_add _ _) hbehind hrest hserves
        fun hdvd' => ih hdvd' hrest hserves

/-- The pieces at the front of a transfer, as far as they are served, cover its first bytes. -/
theorem cut_of_pieces (h : EndsApart serves) (heq : g.pieces addr len = front ++ back)
    (hserves : ∀ p ∈ front, serves p.start.toNat (p.extent g)) :
    Cut g addr.toNat front (addr.toNat + Piece.totalLen front) := by
  have hbase := g.alignedBase_add_skew addr
  have haligned := g.dvd_alignedBase addr
  rcases Nat.eq_zero_or_pos len with rfl | hlen
  · rw [pieces_zero] at heq
    obtain ⟨rfl, -⟩ := List.append_eq_nil_iff.1 heq.symm
    exact .done _
  · rcases g.pieces_cases addr hlen with ⟨hdvd, hpieces⟩ | ⟨hskew, hfits, hpieces⟩ |
      ⟨head, hskew, hfull, hhead, -, hpieces⟩
    · exact h.cut_of_alignedPieces hdvd (hpieces.symm.trans heq) hserves
    · rw [hpieces] at heq
      cases front with
      | nil => exact .done _
      | cons p front =>
        obtain ⟨rfl, hrest⟩ := List.cons.inj heq
        obtain ⟨rfl, -⟩ := List.append_eq_nil_iff.1 hrest.symm
        rw [← hbase]
        exact .edge haligned hlen hfits (by omega) (.inl rfl) (.done _)
    · rw [hpieces] at heq
      cases front with
      | nil => exact .done _
      | cons p front =>
        obtain ⟨rfl, hrest⟩ := List.cons.inj heq
        rw [List.forall_mem_cons] at hserves
        obtain ⟨hedge, hserves⟩ := hserves
        rw [Piece.totalLen, ← hbase, ← Nat.add_assoc]
        refine .edge haligned hhead (by omega) (by omega) (.inr hfull) ?_
        have hsum : (g.alignedBase addr).toNat + g.align = addr.toNat + head := by omega
        have hbehind : g.align ∣ (g.alignedBase addr).toNat + g.align :=
          Nat.dvd_add haligned (Nat.dvd_refl _)
        have hnext : (addr + head).toNat =
            ((g.alignedBase addr).toNat + g.align) % UInt64.size := by
          rw [hsum, TargetAddr.toNat_add]
        have hcut : Cut g ((g.alignedBase addr).toNat + g.align) front
            ((g.alignedBase addr).toNat + g.align + Piece.totalLen front) :=
          h.cut_behind hedge hnext hbehind hrest hserves
            fun hdvd' => h.cut_of_alignedPieces hdvd' hrest hserves
        rwa [hsum, ← hbase] at hcut

end EndsApart

/-- As far as a transfer is served its pieces cover its bytes in a row: they do not go around the end of the
address space. -/
def ServedInRow (serves : Nat → Nat → Prop) (g : Grain) (addr : TargetAddr) (len : Nat) : Prop :=
  ∀ ⦃front back⦄, g.pieces addr len = front ++ back →
    (∀ p ∈ front, serves p.start.toNat (p.extent g)) →
      Grain.Cut g addr.toNat front (addr.toNat + Piece.totalLen front)

section ServedInRow

variable {serves : Nat → Nat → Prop} {g : Grain} {addr : TargetAddr} {len : Nat}

theorem EndsApart.servedInRow (h : EndsApart serves) : ServedInRow serves g addr len :=
  fun _ _ => h.cut_of_pieces

theorem servedInRow_of_le (hend : addr.toNat + len ≤ UInt64.size) : ServedInRow serves g addr len := by
  intro front back heq _
  have hcut : Grain.Cut g addr.toNat (g.pieces addr len) _ := Grain.cut_pieces hend
  rw [heq] at hcut
  exact hcut.front

theorem servedInRow_within {base size : Nat} (hend : base + size ≤ UInt64.size)
    (hlast : size < UInt64.size ∨ addr.toNat + len ≤ UInt64.size) :
    ServedInRow (Within base size) g addr len :=
  hlast.elim (fun hsize => (endsApart_within hend hsize).servedInRow) servedInRow_of_le

end ServedInRow

end TargetLink
