import TargetLink.Proofs.Transfer.Exact

/-!
# Transfers around the end of the address space

A memory of all addresses serves both ends of the address space, so a transfer may run past the last address
and go on at zero. It does so if no request crosses the end: its pieces then fall into those up to the last
address and those from zero on, and each of the two parts covers its bytes.
-/

namespace TargetLink

namespace Grain

variable {g : Grain} {addr : TargetAddr} {len k : Nat}

/-- The transfer runs past the last address, and one of its requests ends there: the edge that it begins with,
a whole piece of full length, or the last whole piece. -/
def GoesAround (g : Grain) (addr : TargetAddr) (len : Nat) : Prop :=
  UInt64.size < addr.toNat + len ∧ alignUp g.align addr.toNat ≤ UInt64.size ∧
    (g.bodyMax ∣ UInt64.size - alignUp g.align addr.toNat ∨
      alignDown g.align (addr.toNat + len) = UInt64.size)

instance (g : Grain) (addr : TargetAddr) (len : Nat) : Decidable (g.GoesAround addr len) :=
  inferInstanceAs (Decidable (_ ∧ _ ∧ (_ ∨ _)))

/-- The request for the piece ends at the last address or in front of it. -/
def Fits (g : Grain) (p : Piece) : Prop :=
  p.start.toNat + p.extent g ≤ UInt64.size

theorem add_eq_zero {n : Nat} (h : addr.toNat + n = UInt64.size) : addr + n = ⟨0⟩ := by
  have hzero : (addr + n).toNat = 0 := by rw [TargetAddr.toNat_add, h, Nat.mod_self]
  exact congrArg TargetAddr.mk (UInt64.toNat_inj.1 hzero)

theorem alignUp_sub_bodyLen (g : Grain) (len : Nat) :
    g.bodyLen len + alignUp g.align (len - g.bodyLen len) = alignUp g.align len := by
  rw [← alignUp_add g.align_pos (g.dvd_bodyLen len), Nat.add_sub_of_le (g.bodyLen_le len)]

/-- Behind a whole piece that is not of full length less than a chunk is left. -/
theorem lt_bodyMax_of_short (h : g.bodyLen len ≠ g.bodyMax) :
    g.bodyLen len = alignDown g.align len ∧ len < g.bodyMax := by
  have hbody : g.bodyLen len = min (alignDown g.align len) g.bodyMax := rfl
  have hdown : g.bodyLen len = alignDown g.align len := by omega
  have hnear := lt_alignDown_add g.align_pos len
  have hgap : g.align ≤ g.bodyMax - alignDown g.align len :=
    Nat.le_of_dvd (by omega) (Nat.dvd_sub g.dvd_bodyMax (dvd_alignDown _ _))
  exact ⟨hdown, by omega⟩

/-- As long as more than `k` bytes are left, full pieces end `k` bytes from here or do not, whether they are
counted from here or from behind the next piece. -/
theorem dvd_sub_bodyLen_iff (hlt : k < len) (hnext : g.bodyLen len < k) :
    g.bodyMax ∣ k - g.bodyLen len ↔ g.bodyMax ∣ k := by
  by_cases hfull : g.bodyLen len = g.bodyMax
  · rw [hfull] at hnext ⊢
    exact Nat.dvd_sub_iff_left (Nat.le_of_lt hnext) (Nat.dvd_refl _)
  · obtain ⟨-, hshort⟩ := lt_bodyMax_of_short hfull
    constructor
    · intro hdvd
      have hmax := Nat.le_of_dvd (by omega) hdvd
      omega
    · intro hdvd
      have hmax := Nat.le_of_dvd (by omega) hdvd
      omega

/-- From an aligned address on, all requests fit if they end in front of the last address or one of them ends
there. Behind the end there is room for what is left, up to the aligned place `y`. -/
theorem fits_alignedPieces_iff {y : Nat} (hy : g.align ∣ y) (hysize : y ≤ UInt64.size)
    (hroom : addr.toNat + len ≤ UInt64.size + y) :
    (∀ p ∈ g.alignedPieces addr len, g.Fits p) ↔
      addr.toNat + alignUp g.align len ≤ UInt64.size ∨ UInt64.size < addr.toNat + len ∧
        (g.bodyMax ∣ UInt64.size - addr.toNat ∨ addr.toNat + alignDown g.align len = UInt64.size) := by
  have haddr : addr.toNat < UInt64.size := addr.val.toNat_lt
  have hmax : g.align ≤ g.bodyMax := Nat.le_max_right _ _
  induction addr, len using alignedPieces.induct g with
  | case1 addr hlt =>
    have hup : alignUp g.align 0 = 0 := alignUp_of_dvd g.align_pos (Nat.dvd_zero _)
    rw [alignedPieces_zero, hup]
    refine iff_of_true (List.forall_mem_nil _) (.inl ?_)
    omega
  | case2 addr len hlt hne =>
    have hup : alignUp g.align len = g.align := alignUp_eq (Nat.dvd_refl _) (by omega) (by omega)
    have hdown : alignDown g.align len = 0 := Transfer.alignDown_of_lt hlt
    rw [alignedPieces, if_pos hlt, if_neg hne, List.forall_mem_singleton, hup, hdown]
    refine ⟨.inl, fun h => h.resolve_right ?_⟩
    -- Less than a chunk is left, so no whole piece ends at the end.
    rintro ⟨hover, hdvd | hend⟩
    · have hle := Nat.le_of_dvd (by omega) hdvd
      omega
    · omega
  | case3 addr len hlt ih =>
    have hpos : 0 < g.bodyLen len := bodyLen_pos (by omega)
    have hle := g.bodyLen_le len
    have hbody : g.bodyLen len ≤ alignDown g.align len := Nat.min_le_left _ _
    have hbodyMax : g.bodyLen len ≤ g.bodyMax := Nat.min_le_right _ _
    have hup := g.alignUp_sub_bodyLen len
    have hdown := Transfer.alignDown_sub_bodyLen g len
    rw [alignedPieces, if_neg hlt, List.forall_mem_cons]
    change addr.toNat + g.bodyLen len ≤ UInt64.size ∧ _ ↔ _
    rcases Nat.lt_trichotomy (addr.toNat + g.bodyLen len) UInt64.size with hfits | hend | hcross
    · have hnext : (addr + g.bodyLen len).toNat = addr.toNat + g.bodyLen len := toNat_add_of_lt hfits
      have hrest := ih (by omega) (addr + g.bodyLen len).val.toNat_lt
      rw [hnext] at hrest
      refine (and_iff_right (Nat.le_of_lt hfits)).trans (hrest.trans ?_)
      rw [hdown, Nat.sub_add_eq,
        show addr.toNat + g.bodyLen len + alignUp g.align (len - g.bodyLen len) =
          addr.toNat + alignUp g.align len by omega,
        show addr.toNat + g.bodyLen len + (len - g.bodyLen len) = addr.toNat + len by omega,
        show addr.toNat + g.bodyLen len + (alignDown g.align len - g.bodyLen len) =
          addr.toNat + alignDown g.align len by omega]
      refine or_congr_right (and_congr_right fun hover => or_congr_left ?_)
      exact dvd_sub_bodyLen_iff (by omega) (by omega)
    · -- A request ends at the last address, so the rest begins at zero, where there is room for it.
      have hzero : (addr + g.bodyLen len).toNat = 0 := by
        rw [TargetAddr.toNat_add, hend, Nat.mod_self]
      have hfirst := alignUp_le g.align_pos hy (show len - g.bodyLen len ≤ y by omega)
      have hrest := (ih (by omega) (addr + g.bodyLen len).val.toNat_lt).2 (.inl (by omega))
      refine iff_of_true ⟨Nat.le_of_eq hend, hrest⟩ ?_
      by_cases hall : g.bodyLen len = len
      · rw [hall, Nat.sub_self, alignUp_of_dvd g.align_pos (Nat.dvd_zero _)] at hup
        exact .inl (by omega)
      · refine .inr ⟨by omega, ?_⟩
        by_cases hfull : g.bodyLen len = g.bodyMax
        · exact .inl ⟨1, by omega⟩
        · exact .inr (by rw [← (lt_bodyMax_of_short hfull).1]; exact hend)
    · refine iff_of_false (fun h => by omega) ?_
      rintro (h | ⟨hover, hdvd | hend⟩)
      · have hge := le_alignUp g.align_pos len
        omega
      · have hmax := Nat.le_of_dvd (by omega) hdvd
        omega
      · omega

/-- The requests of a transfer fit exactly if its hull ends in the address space or it goes around. -/
theorem fits_pieces_iff (hpos : 0 < len) (hle : len ≤ UInt64.size) :
    (∀ p ∈ g.pieces addr len, g.Fits p) ↔
      alignUp g.align (addr.toNat + len) ≤ UInt64.size ∨ g.GoesAround addr len := by
  have haddr : addr.toNat < UInt64.size := addr.val.toNat_lt
  have halign := g.align_pos
  have hbase := g.alignedBase_add_skew addr
  have haligned := g.dvd_alignedBase addr
  have hnear := Nat.dvd_add haligned (Nat.dvd_refl g.align)
  unfold GoesAround
  rcases g.pieces_cases addr hpos with ⟨hdvd, hpieces⟩ | ⟨hskew, hfits, hpieces⟩ |
    ⟨head, hskew, hfull, hhead, hlt, hpieces⟩
  · rw [hpieces, fits_alignedPieces_iff hdvd (Nat.le_of_lt haddr) (by omega), alignUp_of_dvd halign hdvd,
      alignUp_add halign hdvd, alignDown_add halign hdvd, and_iff_right (Nat.le_of_lt haddr)]
  · have hup := alignUp_eq hnear (show addr.toNat ≤ _ by omega) (by omega)
    have hend := alignUp_eq hnear (show addr.toNat + len ≤ _ by omega) (by omega)
    rw [hpieces, List.forall_mem_singleton, hup, hend]
    refine ⟨.inl, fun h => h.resolve_right ?_⟩
    rintro ⟨hover, hfirst, -⟩
    omega
  · have hup : alignUp g.align addr.toNat = addr.toNat + head := by
      rw [alignUp_eq hnear (show addr.toNat ≤ _ by omega) (by omega)]
      omega
    have hdvd : g.align ∣ addr.toNat + head := by
      rw [← hup]
      exact dvd_alignUp _ _
    have hsum : addr.toNat + len = addr.toNat + head + (len - head) := by omega
    rw [hpieces, List.forall_mem_cons, hup, hsum, alignUp_add halign hdvd, alignDown_add halign hdvd]
    have hedge : g.Fits (.edge (g.alignedBase addr) (g.skew addr) head) ↔
        addr.toNat + head ≤ UInt64.size := by
      rw [Fits, Piece.start, Piece.extent]
      omega
    rw [hedge]
    rcases Nat.lt_trichotomy (addr.toNat + head) UInt64.size with hnext | hend | hcross
    · have htoNat : (addr + head).toNat = addr.toNat + head := toNat_add_of_lt hnext
      have hrest : (∀ p ∈ g.alignedPieces (addr + head) (len - head), g.Fits p) ↔ _ :=
        fits_alignedPieces_iff hdvd (Nat.le_of_lt hnext) (by omega)
      rw [htoNat] at hrest
      rw [and_iff_right (Nat.le_of_lt hnext), and_iff_right (Nat.le_of_lt hnext)]
      exact hrest
    · -- The edge ends at the last address, and the rest begins at zero.
      have hzero : (addr + head).toNat = 0 := by
        rw [TargetAddr.toNat_add, hend, Nat.mod_self]
      have hroom := alignUp_le halign (hend ▸ hdvd) (show len - head ≤ UInt64.size by omega)
      have hrest : ∀ p ∈ g.alignedPieces (addr + head) (len - head), g.Fits p :=
        (fits_alignedPieces_iff (hend ▸ hdvd) (Nat.le_refl _) (by omega)).2 (.inl (by omega))
      refine iff_of_true ⟨Nat.le_of_eq hend, hrest⟩ (.inr ⟨by omega, Nat.le_of_eq hend, .inl ?_⟩)
      rw [hend, Nat.sub_self]
      exact Nat.dvd_zero _
    · refine iff_of_false (fun h => by omega) ?_
      rintro (h | ⟨-, h, -⟩) <;> omega

/-- Where all requests fit, the pieces of a transfer past the end are those up to the last address, and
those from zero on. -/
theorem split_alignedPieces (haddr : g.align ∣ addr.toNat)
    (hfits : ∀ p ∈ g.alignedPieces addr len, g.Fits p) (hover : UInt64.size < addr.toNat + len) :
    ∃ front, g.alignedPieces addr len =
        front ++ g.alignedPieces ⟨0⟩ (addr.toNat + len - UInt64.size) ∧
      Cut g addr.toNat front UInt64.size := by
  have hlast : addr.toNat < UInt64.size := addr.val.toNat_lt
  induction addr, len using alignedPieces.induct g with
  | case1 addr hlt => omega
  | case2 addr len hlt hne =>
    rw [alignedPieces, if_pos hlt, if_neg hne, List.forall_mem_singleton] at hfits
    have hedge : addr.toNat + g.align ≤ UInt64.size := hfits
    omega
  | case3 addr len hlt ih =>
    have hle := g.bodyLen_le len
    have hpos : 0 < g.bodyLen len := bodyLen_pos (by omega)
    rw [alignedPieces, if_neg hlt, List.forall_mem_cons] at hfits
    rw [alignedPieces, if_neg hlt]
    have hfirst : addr.toNat + g.bodyLen len ≤ UInt64.size := hfits.1
    rcases Nat.lt_or_eq_of_le hfirst with hnext | hend
    · have htoNat : (addr + g.bodyLen len).toNat = addr.toNat + g.bodyLen len := toNat_add_of_lt hnext
      obtain ⟨front, hsplit, hcut⟩ := ih (by rw [htoNat]; exact Nat.dvd_add haddr (g.dvd_bodyLen len))
        hfits.2 (by omega) (addr + g.bodyLen len).val.toNat_lt
      rw [htoNat, show addr.toNat + g.bodyLen len + (len - g.bodyLen len) = addr.toNat + len by
        omega] at hsplit
      rw [htoNat] at hcut
      exact ⟨_ :: front, congrArg (List.cons _) hsplit,
        .whole haddr (g.dvd_bodyLen len) hpos (Nat.min_le_right _ _) hcut⟩
    · have hzero : addr + g.bodyLen len = ⟨0⟩ := add_eq_zero hend
      refine ⟨[.whole addr (g.bodyLen len)], ?_,
        .whole haddr (g.dvd_bodyLen len) hpos (Nat.min_le_right _ _) (hend ▸ .done _)⟩
      rw [hzero, show addr.toNat + len - UInt64.size = len - g.bodyLen len by omega]
      rfl

theorem split_pieces (hfits : ∀ p ∈ g.pieces addr len, g.Fits p)
    (hover : UInt64.size < addr.toNat + len) :
    ∃ front, g.pieces addr len = front ++ g.alignedPieces ⟨0⟩ (addr.toNat + len - UInt64.size) ∧
      Cut g addr.toNat front UInt64.size := by
  have hlast : addr.toNat < UInt64.size := addr.val.toNat_lt
  have hbase := g.alignedBase_add_skew addr
  have haligned := g.dvd_alignedBase addr
  rcases g.pieces_cases addr (show 0 < len by omega) with ⟨hdvd, hpieces⟩ | ⟨-, hshort, hpieces⟩ |
    ⟨head, hskew, hfull, hhead, hlt, hpieces⟩
  · rw [hpieces] at hfits ⊢
    exact split_alignedPieces hdvd hfits hover
  · rw [hpieces, List.forall_mem_singleton] at hfits
    have hedge : (g.alignedBase addr).toNat + g.align ≤ UInt64.size := hfits
    omega
  · rw [hpieces, List.forall_mem_cons] at hfits
    rw [hpieces]
    have hedge : (g.alignedBase addr).toNat + g.align ≤ UInt64.size := hfits.1
    have hdvd : g.align ∣ addr.toNat + head := by
      rw [← hbase, Nat.add_assoc, hfull]
      exact Nat.dvd_add haligned (Nat.dvd_refl _)
    have hfirst : ∀ {ps hi}, Cut g (addr.toNat + head) ps hi →
        Cut g addr.toNat (.edge (g.alignedBase addr) (g.skew addr) head :: ps) hi := by
      intro ps hi hcut
      rw [← hbase] at hcut ⊢
      exact .edge haligned hhead (Nat.le_of_eq hfull) (by omega) (.inr hfull) hcut
    rcases Nat.lt_or_eq_of_le (show addr.toNat + head ≤ UInt64.size by omega) with hnext | hend
    · have htoNat : (addr + head).toNat = addr.toNat + head := toNat_add_of_lt hnext
      obtain ⟨front, hsplit, hcut⟩ := split_alignedPieces (by rwa [htoNat]) hfits.2 (by omega)
      rw [htoNat, show addr.toNat + head + (len - head) = addr.toNat + len by omega] at hsplit
      rw [htoNat] at hcut
      exact ⟨_ :: front, congrArg (List.cons _) hsplit, hfirst hcut⟩
    · have hzero : addr + head = ⟨0⟩ := add_eq_zero hend
      refine ⟨[.edge (g.alignedBase addr) (g.skew addr) head], ?_, hfirst (hend ▸ .done _)⟩
      rw [hzero, show addr.toNat + len - UInt64.size = len - head by omega]
      rfl

/-- The pieces of a transfer that goes around cover its bytes in two parts. -/
theorem cut_pieces_around (hround : g.GoesAround addr len) (hle : len ≤ UInt64.size) :
    ∃ front back, g.pieces addr len = front ++ back ∧ Cut g addr.toNat front UInt64.size ∧
      Cut g 0 back (addr.toNat + len - UInt64.size) := by
  have hover := hround.1
  have haddr : addr.toNat < UInt64.size := addr.val.toNat_lt
  have hzero : (⟨0⟩ : TargetAddr).toNat = 0 := rfl
  obtain ⟨front, hsplit, hcut⟩ :=
    split_pieces ((fits_pieces_iff (by omega) hle).2 (.inr hround)) hover
  have hback : Cut g (⟨0⟩ : TargetAddr).toNat (g.alignedPieces ⟨0⟩ _)
      ((⟨0⟩ : TargetAddr).toNat + (addr.toNat + len - UInt64.size)) :=
    cut_alignedPieces (Nat.dvd_zero _) (by omega)
  rw [hzero, Nat.zero_add] at hback
  exact ⟨front, _, hsplit, hcut, hback⟩

end Grain

namespace Contents

variable {c : Contents} {start len i b : Nat} {bytes : List UInt8}

/-- The `len` bytes from an address on, with those from zero on behind the last address. -/
def readAround (c : Contents) (start len : Nat) : List UInt8 :=
  c.read start (min len (UInt64.size - start)) ++ c.read 0 (len - (UInt64.size - start))

/-- The contents with bytes stored from an address on, and from zero on behind the last address. -/
def writeAround (c : Contents) (start : Nat) (bytes : List UInt8) : Contents :=
  (c.write start (bytes.take (UInt64.size - start))).write 0 (bytes.drop (UInt64.size - start))

theorem readAround_eq_read (h : start + len ≤ UInt64.size) :
    c.readAround start len = c.read start len := by
  rw [readAround, Nat.min_eq_left (by omega), show len - (UInt64.size - start) = 0 by omega]
  exact List.append_nil _

theorem writeAround_eq_write (h : start + bytes.length ≤ UInt64.size) :
    c.writeAround start bytes = c.write start bytes := by
  rw [writeAround, List.take_of_length_le (by omega), List.drop_eq_nil_of_le (by omega), write_nil]

theorem writeAround_nil (c : Contents) (start : Nat) : c.writeAround start [] = c := by
  rw [writeAround, List.take_nil, List.drop_nil, write_nil, write_nil]

theorem length_readAround (c : Contents) (start len : Nat) : (c.readAround start len).length = len := by
  rw [readAround, List.length_append, length_read, length_read]
  omega

/-- The place of a byte, counted around the end of the address space. -/
theorem mod_size (hstart : start < UInt64.size) (hi : i < UInt64.size) :
    (start + i) % UInt64.size =
      if i < UInt64.size - start then start + i else i - (UInt64.size - start) := by
  split
  · exact Nat.mod_eq_of_lt (by omega)
  · rw [Nat.mod_eq_sub_mod (by omega), Nat.mod_eq_of_lt (by omega)]
    omega

theorem getElem?_readAround (hstart : start < UInt64.size) (hlen : len ≤ UInt64.size) (hi : i < len) :
    (c.readAround start len)[i]? = some (c ((start + i) % UInt64.size)) := by
  rw [readAround, mod_size hstart (by omega)]
  split
  · rw [List.getElem?_append_left (by rw [length_read]; omega), getElem?_read, if_pos (by omega)]
  · rw [List.getElem?_append_right (by rw [length_read]; omega), length_read, getElem?_read,
      if_pos (by omega), Nat.min_eq_right (by omega), Nat.zero_add]

theorem writeAround_mod (hstart : start < UInt64.size) (hlen : bytes.length ≤ UInt64.size)
    (hi : i < bytes.length) : c.writeAround start bytes ((start + i) % UInt64.size) = bytes[i] := by
  rw [writeAround, mod_size hstart (by omega)]
  split
  · rw [write_of_not_mem (by rw [List.length_drop]; omega),
      write_add (by rw [List.length_take]; omega), List.getElem_take]
  · rw [write_zero (by rw [List.length_drop]; omega), List.getElem_drop]
    congr 1
    omega

theorem writeAround_of_forall_ne (hstart : start < UInt64.size) (hlen : bytes.length ≤ UInt64.size)
    (hb : ∀ i < bytes.length, b ≠ (start + i) % UInt64.size) : c.writeAround start bytes b = c b := by
  rw [writeAround, write_of_not_mem, write_of_not_mem]
  · rintro ⟨hle, hlt⟩
    rw [List.length_take] at hlt
    refine hb (b - start) (by omega) ?_
    rw [mod_size hstart (by omega), if_pos (by omega)]
    omega
  · rintro ⟨-, hlt⟩
    rw [List.length_drop] at hlt
    refine hb (b + (UInt64.size - start)) (by omega) ?_
    rw [mod_size hstart (by omega), if_neg (by omega)]
    omega

/-- What is stored around the end of the address space is what is read there. -/
theorem readAround_writeAround (hstart : start < UInt64.size) (hlen : bytes.length ≤ UInt64.size) :
    (c.writeAround start bytes).readAround start bytes.length = bytes := by
  refine List.ext_getElem? fun i => ?_
  by_cases hi : i < bytes.length
  · rw [getElem?_readAround hstart hlen hi, writeAround_mod hstart hlen hi, List.getElem?_eq_getElem hi]
  · rw [List.getElem?_eq_none (by rw [length_readAround]; omega), List.getElem?_eq_none (by omega)]

end Contents

namespace View

variable {σ : Type} {v : View σ} {stuck : StuckAt} {serves : Nat → Nat → Prop} {g : Grain} {s t : Logged σ}
  {addr : TargetAddr} {len : Nat} {bytes : List UInt8}
  {store : Piece → List UInt8 → Action LinkError σ Unit} {ok : UInt8 → Prop}

/-- Pieces that go around store the front of the bytes up to the last address and the rest from zero on. -/
theorem Stores.around (h : v.Stores stuck serves g store ok)
    (hshown : ∀ {state}, v.sound state → (v.contents state).shown stuck = v.contents state)
    (hround : g.GoesAround addr bytes.length) (hle : bytes.length ≤ UInt64.size)
    (hserves : ∀ p ∈ g.pieces addr bytes.length, serves p.start.toNat (p.extent g))
    (hok : ∀ b ∈ bytes, ok b) (hsound : v.sound s.state) :
    v.Returns (Transfer.storePieces store (g.pieces addr bytes.length) bytes) s ()
      (((v.contents s.state).writeAround addr.toNat bytes).shown stuck) := by
  have hover := hround.1
  have haddr : addr.toNat < UInt64.size := addr.val.toNat_lt
  obtain ⟨front, back, hsplit, hfront, hback⟩ := Grain.cut_pieces_around hround hle
  have htotal := hfront.add_totalLen
  rw [hsplit, List.forall_mem_append] at hserves
  rw [hsplit, Transfer.storePieces_append, ← Transfer.storePieces_take,
    show Piece.totalLen front = UInt64.size - addr.toNat by omega]
  refine (h.pieces hshown hfront hserves.1 (by rw [List.length_take]; omega)
    (fun b hb => hok b (List.mem_of_mem_take hb)) hsound).bind fun s' hsound' hcontents => ?_
  have hdrop : 0 + (bytes.drop (UInt64.size - addr.toNat)).length =
      addr.toNat + bytes.length - UInt64.size := by
    rw [List.length_drop]
    omega
  have hrest := h.pieces hshown hback hserves.2 hdrop
    (fun b hb => hok b (List.mem_of_mem_drop hb)) hsound'
  rwa [hcontents, Contents.shown_write_shown] at hrest

variable [ChunkMemory σ]

theorem FaithfulBut.readAround (h : v.FaithfulBut stuck serves) (hround : g.GoesAround addr len)
    (hle : len ≤ UInt64.size)
    (hserves : ∀ p ∈ g.pieces addr len, serves p.start.toNat (p.extent g)) (hsound : v.sound s.state) :
    v.Returns (Transfer.readPieces g (g.pieces addr len)) s
      ((v.contents s.state).readAround addr.toNat len) (v.contents s.state) := by
  have hover := hround.1
  have haddr : addr.toNat < UInt64.size := addr.val.toNat_lt
  obtain ⟨front, back, hsplit, hfront, hback⟩ := Grain.cut_pieces_around hround hle
  rw [hsplit, List.forall_mem_append] at hserves
  rw [hsplit, Transfer.readPieces_append]
  refine (h.readPieces hfront hserves.1 hsound).bind fun s' hsound' hcontents => ?_
  refine (h.readPieces hback hserves.2 hsound').bind fun t hsound'' hcontents' => ?_
  rw [hcontents] at hcontents' ⊢
  rw [Contents.readAround, Nat.min_eq_right (by omega),
    show len - (UInt64.size - addr.toNat) = addr.toNat + len - UInt64.size - 0 by omega, ← hcontents']
  exact returns_pure hsound'' _

/-! ## Intervals of any size -/

/-- The transfer lies in the interval with its hull, or the interval has all addresses and the transfer
goes around. -/
def InReach (v : View σ) (base size : Nat) (state : σ) (addr : TargetAddr) (len : Nat) : Prop :=
  v.HullServed (Within base size) addr len ∨
    size = UInt64.size ∧ (Grain.ofMemory state).GoesAround addr len

omit [ChunkMemory σ] in
theorem add_le_of_hullServed (hserving : Serving serves) (hhull : v.HullServed serves addr len) :
    addr.toNat + len ≤ UInt64.size := by
  have hlast := hserving.le_size hhull
  have hdown := alignDown_le (max v.align 1) addr.toNat
  have hup := le_alignUp (show 0 < max v.align 1 by omega) (addr.toNat + len)
  omega

/-- The requests of a transfer are served exactly if it is in reach. -/
theorem inReach_iff_pieces {base size : Nat} (hend : base + size ≤ UInt64.size)
    (halign : ChunkMemory.chunkAlign s.state = v.align) (hpos : 0 < len) (hle : len ≤ UInt64.size) :
    v.InReach base size s.state addr len ↔ ∀ p ∈ (Grain.ofMemory s.state).pieces addr len,
      Within base size p.start.toNat (p.extent (Grain.ofMemory s.state)) := by
  unfold InReach
  rcases Nat.lt_or_eq_of_le (show size ≤ UInt64.size by omega) with hsize | hall
  · rw [hullServed_iff_pieces halign (endsApart_within hend hsize) hpos]
    exact or_iff_left fun hround => Nat.ne_of_lt hsize hround.1
  · obtain rfl : base = 0 := by omega
    have hfits : ∀ p, Within 0 size p.start.toNat (p.extent (Grain.ofMemory s.state)) ↔
        (Grain.ofMemory s.state).Fits p := by
      intro p
      rw [Within, Grain.Fits, hall]
      omega
    have hup := le_alignUp (Grain.ofMemory s.state).align_pos (addr.toNat + len)
    have hdown := alignDown_le (Grain.ofMemory s.state).align addr.toNat
    simp only [hfits]
    rw [Grain.fits_pieces_iff hpos hle, and_iff_right hall, hullServed_iff_serves halign, Within, hall]
    exact or_congr_left (by omega)

section Interval

variable {base size : Nat} (hend : base + size ≤ UInt64.size) (h : v.Faithful (Within base size))
  (hsound : v.sound s.state)

include hend h hsound

variable [SteadyGrain σ]

theorem read_returns_of_inReach (hpos : 0 < len) (hle : len ≤ UInt64.size)
    (hreach : v.InReach base size s.state addr len) :
    v.Returns (Transfer.read addr len) s ((v.contents s.state).readAround addr.toNat len)
      (v.contents s.state) := by
  have hserves := (inReach_iff_pieces hend (h.chunkAlign_eq hsound) hpos hle).1 hreach
  rcases hreach with hhull | ⟨-, hround⟩
  · rw [Contents.readAround_eq_read (add_le_of_hullServed (serving_within hend) hhull)]
    exact read_returns (serving_within hend) h hsound hhull
  · obtain ⟨s', hrun, hrest⟩ := h.but.readAround hround hle hserves hsound
    exact ⟨s', Transfer.read_eq.trans hrun, hrest⟩

theorem write_returns_of_inReach (hpos : 0 < bytes.length) (hle : bytes.length ≤ UInt64.size)
    (hreach : v.InReach base size s.state addr bytes.length) :
    v.Returns (Transfer.write addr bytes) s ()
      ((v.contents s.state).writeAround addr.toNat bytes) := by
  have hserves := (inReach_iff_pieces hend (h.chunkAlign_eq hsound) hpos hle).1 hreach
  rcases hreach with hhull | ⟨-, hround⟩
  · rw [Contents.writeAround_eq_write (add_le_of_hullServed (serving_within hend) hhull)]
    exact write_returns (serving_within hend) h hsound hhull
  · obtain ⟨s', hrun, hrest⟩ := (h.but.stores_writePart _).around h.but.shown_eq hround hle hserves
      (fun _ _ => trivial) hsound
    exact ⟨s', Transfer.write_eq.trans hrun, hrest⟩

theorem clear_returns_of_inReach (hpos : 0 < len) (hle : len ≤ UInt64.size)
    (hreach : v.InReach base size s.state addr len) :
    v.Returns (Transfer.clear addr len) s ()
      ((v.contents s.state).writeAround addr.toNat (List.replicate len 0)) := by
  have hserves := (inReach_iff_pieces hend (h.chunkAlign_eq hsound) hpos hle).1 hreach
  have hlen : (List.replicate len (0 : UInt8)).length = len := List.length_replicate
  rcases hreach with hhull | ⟨-, hround⟩
  · have hlast := add_le_of_hullServed (serving_within hend) hhull
    rw [Contents.writeAround_eq_write (by rwa [hlen])]
    exact clear_returns (serving_within hend) h hsound hhull
  · rw [← hlen] at hround hle hserves
    obtain ⟨s', hrun, hrest⟩ := (h.but.stores_clearPiece _).around h.but.shown_eq hround hle hserves
      (fun _ => List.eq_of_mem_replicate) hsound
    rw [hlen] at hrun
    exact ⟨s', (Transfer.clear_eq _).trans hrun, hrest⟩

theorem read_fails_of_not_inReach (hpos : 0 < len) (hle : len ≤ UInt64.size)
    (hreach : ¬ v.InReach base size s.state addr len) : v.Fails (Transfer.read addr len) s := by
  rw [inReach_iff_pieces hend (h.chunkAlign_eq hsound) hpos hle] at hreach
  exact h.refusesOutside.transferRead h.but hsound hreach

theorem write_fails_of_not_inReach (hpos : 0 < bytes.length) (hle : bytes.length ≤ UInt64.size)
    (hreach : ¬ v.InReach base size s.state addr bytes.length) :
    v.Fails (Transfer.write addr bytes) s := by
  rw [inReach_iff_pieces hend (h.chunkAlign_eq hsound) hpos hle] at hreach
  exact h.refusesOutside.transferWrite h.but hsound hreach

theorem clear_fails_of_not_inReach (hpos : 0 < len) (hle : len ≤ UInt64.size)
    (hreach : ¬ v.InReach base size s.state addr len) : v.Fails (Transfer.clear addr len) s := by
  rw [inReach_iff_pieces hend (h.chunkAlign_eq hsound) hpos hle] at hreach
  exact h.refusesOutside.transferClear h.but hsound hreach

/-! ## What succeeded -/

/-- A read that succeeds has read the bytes at its places and changed nothing. -/
theorem read_of_ok_within (hle : len ≤ UInt64.size) (hok : Transfer.read addr len s = .ok bytes t) :
    bytes = (v.contents s.state).readAround addr.toNat len ∧ v.sound t.state ∧
      v.contents t.state = v.contents s.state := by
  rcases Nat.eq_zero_or_pos len with rfl | hpos
  · rw [Transfer.read_zero] at hok
    cases hok
    exact ⟨(List.eq_nil_of_length_eq_zero (Contents.length_readAround _ _ _)).symm, hsound, rfl⟩
  · exact of_ok (read_returns_of_inReach hend h hsound hpos hle)
      (read_fails_of_not_inReach hend h hsound hpos hle) hok

/-- A write that succeeds has stored its bytes and changed no others. -/
theorem write_of_ok_within (hle : bytes.length ≤ UInt64.size)
    (hok : Transfer.write addr bytes s = .ok () t) :
    v.sound t.state ∧ v.contents t.state = (v.contents s.state).writeAround addr.toNat bytes := by
  rcases Nat.eq_zero_or_pos bytes.length with hnil | hpos
  · obtain rfl := List.eq_nil_of_length_eq_zero hnil
    rw [Transfer.write_nil] at hok
    cases hok
    exact ⟨hsound, (Contents.writeAround_nil _ _).symm⟩
  · exact (of_ok (write_returns_of_inReach hend h hsound hpos hle)
      (write_fails_of_not_inReach hend h hsound hpos hle) hok).2

/-- A clear that succeeds has stored zeros and changed no other bytes. -/
theorem clear_of_ok_within (hle : len ≤ UInt64.size) (hok : Transfer.clear addr len s = .ok () t) :
    v.sound t.state ∧
      v.contents t.state = (v.contents s.state).writeAround addr.toNat (List.replicate len 0) := by
  rcases Nat.eq_zero_or_pos len with rfl | hpos
  · rw [Transfer.clear_zero] at hok
    cases hok
    exact ⟨hsound, (Contents.writeAround_nil _ _).symm⟩
  · exact (of_ok (clear_returns_of_inReach hend h hsound hpos hle)
      (clear_fails_of_not_inReach hend h hsound hpos hle) hok).2

/-- What was written reads back. -/
theorem read_of_write_ok (hle : bytes.length ≤ UInt64.size)
    (hok : Transfer.write addr bytes s = .ok () t) :
    ∃ u, Transfer.read addr bytes.length t = .ok bytes u := by
  rcases Nat.eq_zero_or_pos bytes.length with hnil | hpos
  · obtain rfl := List.eq_nil_of_length_eq_zero hnil
    exact ⟨t, Transfer.read_zero⟩
  · have haddr : addr.toNat < UInt64.size := addr.val.toNat_lt
    obtain ⟨hsound', hcontents⟩ := write_of_ok_within hend h hsound hle hok
    have hgrain := (Transfer.leavesGrain_write addr bytes).ofMemory_eq hok
    have hreach := (ok_iff (write_returns_of_inReach hend h hsound hpos hle)
      (write_fails_of_not_inReach hend h hsound hpos hle)).1 ⟨(), t, hok⟩
    rw [InReach, ← hgrain] at hreach
    obtain ⟨u, hread, -⟩ := read_returns_of_inReach hend h hsound' hpos hle hreach
    rw [hcontents, Contents.readAround_writeAround haddr hle] at hread
    exact ⟨u, hread⟩

end Interval

end View

end TargetLink
