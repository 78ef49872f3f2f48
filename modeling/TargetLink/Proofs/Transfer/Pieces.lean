import TargetLink.Proofs.Action
import TargetLink.Proofs.Alignment
import TargetLink.Transfer

/-!
# The pieces of a transfer

The pieces of a transfer as a list, and where they lie. As long as the hull of a transfer stays inside
the address space, its pieces follow one another from the first byte to the last without a gap (`Cut`),
and each of them is one chunk request or part of one chunk.
-/

namespace TargetLink

/-- A part of a transfer that one chunk request covers. -/
inductive Piece where
  /-- The `len` bytes of the aligned chunk at `base`, `skip` bytes into it. -/
  | edge (base : TargetAddr) (skip len : Nat)
  /-- A run of `len` bytes made of aligned chunks. -/
  | whole (addr : TargetAddr) (len : Nat)
  deriving DecidableEq, Repr

namespace Piece

/-- Bytes of the transfer in the piece. -/
def len : Piece → Nat
  | .edge _ _ len => len
  | .whole _ len => len

/-- The address of the chunk request for the piece. -/
def start : Piece → TargetAddr
  | .edge base _ _ => base
  | .whole addr _ => addr

/-- The length of the chunk request for the piece. -/
def extent (g : Grain) : Piece → Nat
  | .edge .. => g.align
  | .whole _ len => len

/-- The address of the first byte of the piece. -/
def first : Piece → Nat
  | .edge base skip _ => base.toNat + skip
  | .whole addr _ => addr.toNat

/-- The number of bytes in some pieces. -/
def totalLen : List Piece → Nat
  | [] => 0
  | p :: ps => p.len + totalLen ps

/-- The piece lies in the chunks that its request covers, and these are not none. -/
def Proper (g : Grain) : Piece → Prop
  | .edge _ skip len => skip + len ≤ g.align
  | .whole _ len => 0 < len

theorem Proper.extent_pos {g : Grain} {p : Piece} (h : p.Proper g) : 0 < p.extent g := by
  cases p with
  | edge => exact g.align_pos
  | whole => exact h

end Piece

namespace Grain

/-- The length of the whole piece that the next `len` bytes begin with. -/
def bodyLen (g : Grain) (len : Nat) : Nat :=
  min (len - len % g.align) g.bodyMax

section Body

variable {g : Grain} {len : Nat}

theorem dvd_bodyMax (g : Grain) : g.align ∣ g.bodyMax := by
  unfold bodyMax
  rcases Nat.le_total (g.maxSize - g.maxSize % g.align) g.align with h | h
  · exact ⟨1, by omega⟩
  · rw [Nat.max_eq_left h]
    exact Nat.dvd_sub_mod _

/-- Where a request may be as long as a chunk, no whole piece is too long for a request. -/
theorem bodyMax_le (h : g.align ≤ g.maxSize) : g.bodyMax ≤ g.maxSize := by
  unfold bodyMax
  omega

theorem dvd_bodyLen (g : Grain) (len : Nat) : g.align ∣ g.bodyLen len := by
  unfold bodyLen
  rcases Nat.le_total (len - len % g.align) g.bodyMax with h | h
  · rw [Nat.min_eq_left h]
    exact Nat.dvd_sub_mod _
  · rw [Nat.min_eq_right h]
    exact g.dvd_bodyMax

theorem bodyLen_le (g : Grain) (len : Nat) : g.bodyLen len ≤ len := by
  unfold bodyLen
  omega

theorem bodyLen_pos (h : g.align ≤ len) : 0 < g.bodyLen len := by
  have hmax := g.bodyMax_pos
  have hpos := g.align_pos
  have hmod := Nat.mod_lt len g.align_pos
  unfold bodyLen
  omega

end Body

/-- The pieces from an aligned address on. -/
def alignedPieces (g : Grain) (addr : TargetAddr) (len : Nat) : List Piece :=
  if len < g.align then
    if len = 0 then [] else [.edge addr 0 len]
  else
    .whole addr (g.bodyLen len) :: g.alignedPieces (addr + g.bodyLen len) (len - g.bodyLen len)
termination_by len
decreasing_by
  have hpos : 0 < g.bodyLen len := bodyLen_pos (by omega)
  have hle := g.bodyLen_le len
  omega

/-- The edge in front of the first aligned address, if there is one. -/
def headPieces (g : Grain) (addr : TargetAddr) (len : Nat) : List Piece :=
  if g.headLen addr len = 0 then []
  else [.edge (g.alignedBase addr) (g.skew addr) (g.headLen addr len)]

theorem headLen_le (g : Grain) (addr : TargetAddr) (len : Nat) : g.headLen addr len ≤ len := by
  unfold headLen
  split <;> omega

/-- The pieces of a transfer. -/
def pieces (g : Grain) (addr : TargetAddr) (len : Nat) : List Piece :=
  g.headPieces addr len ++
    g.alignedPieces (addr + g.headLen addr len) (len - g.headLen addr len)

/-- The pieces cover the bytes from `lo` to `hi` in order. A piece that covers only part of its chunk
and is not the last one reaches the end of the chunk. -/
inductive Cut (g : Grain) : Nat → List Piece → Nat → Prop where
  | done (lo : Nat) : Cut g lo [] lo
  | edge {base : TargetAddr} {skip len hi : Nat} {ps : List Piece}
      (aligned : g.align ∣ base.toNat) (pos : 0 < len) (fits : skip + len ≤ g.align)
      (partly : len < g.align) (last : ps = [] ∨ skip + len = g.align)
      (rest : Cut g (base.toNat + skip + len) ps hi) :
      Cut g (base.toNat + skip) (.edge base skip len :: ps) hi
  | whole {addr : TargetAddr} {len hi : Nat} {ps : List Piece}
      (aligned : g.align ∣ addr.toNat) (chunks : g.align ∣ len) (pos : 0 < len)
      (short : len ≤ g.bodyMax) (rest : Cut g (addr.toNat + len) ps hi) :
      Cut g addr.toNat (.whole addr len :: ps) hi

section Cut

variable {g : Grain} {addr : TargetAddr} {len lo hi : Nat} {p : Piece} {ps : List Piece}

theorem Cut.uncons (h : Cut g lo (p :: ps) hi) :
    p.Proper g ∧ lo = p.first ∧ Cut g (p.first + p.len) ps hi := by
  cases h with
  | edge _ _ fits _ _ rest => exact ⟨fits, rfl, rest⟩
  | whole _ _ pos _ rest => exact ⟨pos, rfl, rest⟩

theorem Cut.eq_of_nil (h : Cut g lo [] hi) : hi = lo := by
  cases h
  rfl

theorem Cut.le (h : Cut g lo ps hi) : lo ≤ hi := by
  induction h with
  | done => exact Nat.le_refl _
  | edge => omega
  | whole => omega

theorem Cut.add_totalLen (h : Cut g lo ps hi) : lo + Piece.totalLen ps = hi := by
  induction h with
  | done => rfl
  | edge => rwa [Piece.totalLen, Piece.len, ← Nat.add_assoc]
  | whole => rwa [Piece.totalLen, Piece.len, ← Nat.add_assoc]

/-- The chunks of the first piece begin with the hull, and if there are more pieces they end where these
begin. -/
theorem Cut.chunks (h : Cut g lo (p :: ps) hi) : lo = p.first ∧ p.start.toNat = alignDown g.align lo ∧
    p.start.toNat + p.extent g = alignUp g.align (p.first + p.len) ∧
    (ps = [] ∨ p.start.toNat + p.extent g = p.first + p.len) ∧ 0 < p.len := by
  cases h with
  | @edge base skip len _ _ aligned pos fits partly last rest =>
    have hend : g.align ∣ base.toNat + g.align := Nat.dvd_add aligned (Nat.dvd_refl _)
    refine ⟨rfl, (alignDown_eq aligned (by omega) (by omega)).symm, ?_, ?_, pos⟩
    · change base.toNat + g.align = alignUp g.align (base.toNat + skip + len)
      exact (alignUp_eq hend (by omega) (by omega)).symm
    · refine last.imp_right fun hfull => ?_
      change base.toNat + g.align = base.toNat + skip + len
      omega
  | @whole addr len _ _ aligned chunks pos short rest =>
    refine ⟨rfl, (alignDown_of_dvd g.align_pos aligned).symm, ?_, .inr rfl, pos⟩
    exact (alignUp_of_dvd g.align_pos (Nat.dvd_add aligned chunks)).symm

/-- Behind a piece that is not the last one the next chunks begin. -/
theorem Cut.alignDown_next (h : Cut g lo (p :: ps) hi) (hne : ps ≠ []) :
    alignDown g.align (p.first + p.len) = p.start.toNat + p.extent g := by
  obtain ⟨-, -, hend, hfull, -⟩ := h.chunks
  have hlast := hfull.resolve_left hne
  have hdvd : g.align ∣ p.first + p.len := by
    rw [← hlast, hend]
    exact dvd_alignUp _ _
  rw [alignDown_of_dvd g.align_pos hdvd, hlast]

/-- The chunks of every piece lie in the hull. -/
theorem Cut.mem_hull {q : Piece} (h : Cut g lo ps hi) (hq : q ∈ ps) :
    alignDown g.align lo ≤ q.start.toNat ∧ q.start.toNat + q.extent g ≤ alignUp g.align hi := by
  induction ps generalizing lo with
  | nil => cases hq
  | cons p ps ih =>
    obtain ⟨rfl, hstart, hend, -, -⟩ := h.chunks
    obtain ⟨-, -, hrest⟩ := h.uncons
    have hup : alignUp g.align (p.first + p.len) ≤ alignUp g.align hi := alignUp_mono hrest.le
    rcases List.mem_cons.1 hq with rfl | hq
    · omega
    · have hnext := h.alignDown_next (List.ne_nil_of_mem hq)
      obtain ⟨hle, hge⟩ := ih hrest hq
      omega

theorem alignedPieces_zero (g : Grain) (addr : TargetAddr) : g.alignedPieces addr 0 = [] := by
  rw [alignedPieces, if_pos g.align_pos, if_pos rfl]

theorem toNat_add_of_lt {n : Nat} (h : addr.toNat + n < UInt64.size) :
    (addr + n).toNat = addr.toNat + n := by
  rw [TargetAddr.toNat_add, Nat.mod_eq_of_lt h]

/-- Pieces in front of others cover the bytes up to these. -/
theorem Cut.front {front back : List Piece} (h : Cut g lo (front ++ back) hi) :
    Cut g lo front (lo + Piece.totalLen front) := by
  induction front generalizing lo with
  | nil => exact .done lo
  | cons p front ih =>
    rw [Piece.totalLen, ← Nat.add_assoc]
    cases h with
    | edge aligned pos fits partly last rest =>
      exact .edge aligned pos fits partly (last.imp_left fun h => (List.append_eq_nil_iff.1 h).1) (ih rest)
    | whole aligned chunks pos short rest => exact .whole aligned chunks pos short (ih rest)

/-- The pieces from an aligned address on cover their bytes as long as these do not go past the last
address. -/
theorem cut_alignedPieces (haddr : g.align ∣ addr.toNat) (hend : addr.toNat + len ≤ UInt64.size) :
    Cut g addr.toNat (g.alignedPieces addr len) (addr.toNat + len) := by
  induction addr, len using alignedPieces.induct g with
  | case1 addr hlt =>
    rw [alignedPieces, if_pos hlt, if_pos rfl]
    exact .done _
  | case2 addr len hlt hne =>
    rw [alignedPieces, if_pos hlt, if_neg hne]
    have hedge : Cut g (addr.toNat + 0) [.edge addr 0 len] (addr.toNat + 0 + len) :=
      .edge haddr (by omega) (by omega) hlt (.inl rfl) (.done _)
    exact hedge
  | case3 addr len hlt ih =>
    rw [alignedPieces, if_neg hlt]
    have hle := g.bodyLen_le len
    refine .whole haddr (g.dvd_bodyLen len) (g.bodyLen_pos (by omega)) (Nat.min_le_right _ _) ?_
    by_cases hfull : g.bodyLen len = len
    · rw [hfull, Nat.sub_self, alignedPieces_zero]
      exact .done _
    · -- Only where bytes are left does the next piece need an address.
      have hnext : (addr + g.bodyLen len).toNat = addr.toNat + g.bodyLen len :=
        toNat_add_of_lt (by omega)
      have hrest := ih (by rw [hnext]; exact Nat.dvd_add haddr (g.dvd_bodyLen len)) (by omega)
      rwa [hnext, show addr.toNat + g.bodyLen len + (len - g.bodyLen len) = addr.toNat + len by
        omega] at hrest

theorem add_zero (addr : TargetAddr) : addr + 0 = addr := by
  cases addr with
  | mk val => exact congrArg TargetAddr.mk (UInt64.add_zero val)

theorem alignedBase_toNat (g : Grain) (addr : TargetAddr) :
    (g.alignedBase addr).toNat = alignDown g.align addr.toNat := by
  have hle : g.skew addr ≤ addr.toNat := Nat.mod_le _ _
  have hlt : addr.toNat < UInt64.size := addr.val.toNat_lt
  have hword : (UInt64.ofNat (g.skew addr)).toNat = g.skew addr :=
    UInt64.toNat_ofNat_of_lt' (by omega)
  have hsub : UInt64.ofNat (g.skew addr) ≤ addr.val := by
    rw [UInt64.le_iff_toNat_le, hword]
    exact hle
  exact (UInt64.toNat_sub_of_le _ _ hsub).trans (by rw [hword]; rfl)

theorem alignedBase_add_skew (g : Grain) (addr : TargetAddr) :
    (g.alignedBase addr).toNat + g.skew addr = addr.toNat := by
  rw [alignedBase_toNat]
  exact Nat.sub_add_cancel (Nat.mod_le _ _)

theorem dvd_alignedBase (g : Grain) (addr : TargetAddr) :
    g.align ∣ (g.alignedBase addr).toNat := by
  rw [alignedBase_toNat]
  exact dvd_alignDown _ _

theorem pieces_zero (g : Grain) (addr : TargetAddr) : g.pieces addr 0 = [] := by
  have hhead : g.headLen addr 0 = 0 := by
    unfold headLen
    split
    · rfl
    · exact Nat.min_zero _
  rw [pieces, headPieces, hhead, if_pos rfl, Nat.sub_zero, alignedPieces_zero]
  rfl

/-- A transfer begins at an aligned address, or it lies in one chunk, or its first piece reaches the
end of the chunk and the rest begins at the next one. -/
theorem pieces_cases (g : Grain) (addr : TargetAddr) (hlen : 0 < len) :
    (g.align ∣ addr.toNat ∧ g.pieces addr len = g.alignedPieces addr len) ∨
    (0 < g.skew addr ∧ g.skew addr + len ≤ g.align ∧
      g.pieces addr len = [.edge (g.alignedBase addr) (g.skew addr) len]) ∨
    ∃ head, 0 < g.skew addr ∧ g.skew addr + head = g.align ∧ 0 < head ∧ head < len ∧
      g.pieces addr len = .edge (g.alignedBase addr) (g.skew addr) head ::
        g.alignedPieces (addr + head) (len - head) := by
  have hlt : g.skew addr < g.align := Nat.mod_lt _ g.align_pos
  by_cases hskew : g.skew addr = 0
  · have hhead : g.headLen addr len = 0 := by rw [headLen, if_pos hskew]
    refine .inl ⟨Nat.dvd_of_mod_eq_zero hskew, ?_⟩
    rw [pieces, headPieces, hhead, if_pos rfl, List.nil_append, Nat.sub_zero, add_zero]
  · have hhead : g.headLen addr len = min (g.align - g.skew addr) len := by
      rw [headLen, if_neg hskew]
    have hpieces : g.pieces addr len =
        .edge (g.alignedBase addr) (g.skew addr) (g.headLen addr len) ::
          g.alignedPieces (addr + g.headLen addr len) (len - g.headLen addr len) := by
      rw [pieces, headPieces, if_neg (by omega), List.singleton_append]
    by_cases hfits : g.skew addr + len ≤ g.align
    · refine .inr (.inl ⟨by omega, hfits, ?_⟩)
      rw [hpieces, show g.headLen addr len = len by omega, Nat.sub_self, alignedPieces_zero]
    · exact .inr (.inr ⟨_, by omega, by omega, by omega, by omega, hpieces⟩)

theorem proper_of_mem_alignedPieces (h : p ∈ g.alignedPieces addr len) :
    p.Proper g := by
  induction addr, len using alignedPieces.induct g with
  | case1 addr hlt =>
    rw [alignedPieces, if_pos hlt, if_pos rfl] at h
    cases h
  | case2 addr len hlt hne =>
    rw [alignedPieces, if_pos hlt, if_neg hne, List.mem_singleton] at h
    rw [h, Piece.Proper]
    omega
  | case3 addr len hlt ih =>
    rw [alignedPieces, if_neg hlt, List.mem_cons] at h
    rcases h with rfl | h
    · exact bodyLen_pos (by omega)
    · exact ih h

theorem proper_of_mem_pieces (h : p ∈ g.pieces addr len) : p.Proper g := by
  rcases Nat.eq_zero_or_pos len with rfl | hlen
  · rw [pieces_zero] at h
    cases h
  · rcases g.pieces_cases addr hlen with ⟨-, hpieces⟩ | ⟨-, hfits, hpieces⟩ |
      ⟨head, -, hfull, -, -, hpieces⟩
    · rw [hpieces] at h
      exact proper_of_mem_alignedPieces h
    · rw [hpieces, List.mem_singleton] at h
      rw [h]
      exact hfits
    · rw [hpieces, List.mem_cons] at h
      rcases h with rfl | h
      · exact Nat.le_of_eq hfull
      · exact proper_of_mem_alignedPieces h

theorem totalLen_alignedPieces (g : Grain) (addr : TargetAddr) (len : Nat) :
    Piece.totalLen (g.alignedPieces addr len) = len := by
  induction addr, len using alignedPieces.induct g with
  | case1 addr hlt =>
    rw [alignedPieces, if_pos hlt, if_pos rfl]
    rfl
  | case2 addr len hlt hne =>
    rw [alignedPieces, if_pos hlt, if_neg hne]
    rfl
  | case3 addr len hlt ih =>
    have hle := g.bodyLen_le len
    rw [alignedPieces, if_neg hlt, Piece.totalLen, ih, Piece.len]
    omega

/-- The pieces of a transfer have as many bytes as the transfer. -/
theorem totalLen_pieces (g : Grain) (addr : TargetAddr) (len : Nat) :
    Piece.totalLen (g.pieces addr len) = len := by
  rcases Nat.eq_zero_or_pos len with rfl | hlen
  · rw [pieces_zero]
    rfl
  · rcases g.pieces_cases addr hlen with ⟨-, hpieces⟩ | ⟨-, -, hpieces⟩ |
      ⟨head, -, -, -, hlt, hpieces⟩
    · rw [hpieces, totalLen_alignedPieces]
    · rw [hpieces]
      rfl
    · rw [hpieces, Piece.totalLen, totalLen_alignedPieces, Piece.len]
      omega

/-- The pieces of a transfer that does not go past the last address cover its bytes. -/
theorem cut_pieces (hend : addr.toNat + len ≤ UInt64.size) :
    Cut g addr.toNat (g.pieces addr len) (addr.toNat + len) := by
  have hbase := g.alignedBase_add_skew addr
  have haligned := g.dvd_alignedBase addr
  rcases Nat.eq_zero_or_pos len with rfl | hlen
  · rw [pieces_zero]
    exact .done _
  · rcases g.pieces_cases addr hlen with ⟨haddr, hpieces⟩ | ⟨hskew, hfits, hpieces⟩ |
      ⟨head, hskew, hfull, hhead, hlt, hpieces⟩
    · rw [hpieces]
      exact cut_alignedPieces haddr hend
    · rw [hpieces, ← hbase]
      exact .edge haligned hlen hfits (by omega) (.inl rfl) (.done _)
    · have hnext : (addr + head).toNat = addr.toNat + head := toNat_add_of_lt (by omega)
      have hdvd : g.align ∣ (addr + head).toNat := by
        rw [hnext, ← hbase, Nat.add_assoc, hfull]
        exact Nat.dvd_add haligned (Nat.dvd_refl _)
      have hrest : Cut g _ (g.alignedPieces _ (len - head)) _ := cut_alignedPieces hdvd (by omega)
      rw [hpieces, ← hbase]
      refine .edge haligned hhead (by omega) (by omega) (.inr hfull) ?_
      rwa [hnext, show addr.toNat + head + (len - head) = addr.toNat + len by omega,
        ← hbase] at hrest

end Cut

end Grain

end TargetLink
