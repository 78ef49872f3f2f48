import TargetLink.Proofs.ChunkMemory.Guarded
import TargetLink.Proofs.Transfer.Exact
import TargetLink.Proofs.Transfer.Front

/-!
# Transfers with a guarded memory

With a guarded chunk memory each piece of a transfer is done as a whole or not at all, also where it
takes two requests: a chunk that was read and cannot be written back has not changed. So a transfer that
fails has done the pieces in front of one that failed, and no others.
-/

namespace TargetLink

namespace Transfer

variable {σ : Type} {g : Grain} {ps : List Piece} {bytes : List UInt8} {s t : Logged σ}
  {e : LinkError}

/-! ## Where a transfer failed -/

theorem storePieces_of_error {store : Piece → List UInt8 → Action LinkError σ Unit}
    (h : storePieces store ps bytes s = .error e t) :
    ∃ front p back u, ps = front ++ p :: back ∧ storePieces store front bytes s = .ok () u ∧
      store p ((bytes.drop (Piece.totalLen front)).take p.len) u = .error e t := by
  induction ps generalizing s bytes with
  | nil => cases h
  | cons p ps ih =>
    rcases Action.bind_eq_error h with hp | ⟨u, s', hp, hps⟩
    · exact ⟨[], p, ps, s, rfl, rfl, hp⟩
    · obtain ⟨front, q, back, u', rfl, hfront, hq⟩ := ih hps
      refine ⟨p :: front, q, back, u', rfl, ?_, ?_⟩
      · rw [storePieces, Action.bind_apply, hp]
        exact hfront
      · rw [Piece.totalLen, ← List.drop_drop]
        exact hq

end Transfer

namespace View

variable {σ : Type} {v : View σ} {serves : Nat → Nat → Prop} {g : Grain} {s t u : Logged σ}
  {e : LinkError} {p : Piece} {ps front back : List Piece} {addr base : TargetAddr}
  {skip len lo hi : Nat} {bytes xs : List UInt8}
  {store : Piece → List UInt8 → Action LinkError σ Unit} {ok : UInt8 → Prop}

/-! ## Storing in pieces -/

/-- `store` stores bytes at the place of a piece, provided that `ok` holds of each of them, or it fails
and changes nothing. -/
def Storing (v : View σ) (serves : Nat → Nat → Prop) (g : Grain)
    (store : Piece → List UInt8 → Action LinkError σ Unit) (ok : UInt8 → Prop) : Prop :=
  ∀ {s : Logged σ} {p : Piece} {bytes : List UInt8}, v.sound s.state → p.Proper g →
    bytes.length = p.len → (∀ b ∈ bytes, ok b) → v.Attempts (serves p.start.toNat (p.extent g))
      (store p bytes) s () ((v.contents s.state).write p.first bytes)

/-- Pieces that were stored are served, and bytes stored in pieces that lie in a row are stored there. -/
theorem Storing.of_ok (h : v.Storing serves g store ok) (hproper : ∀ p ∈ ps, p.Proper g)
    (hlen : bytes.length = Piece.totalLen ps) (hok : ∀ b ∈ bytes, ok b) (hsound : v.sound s.state)
    (hrun : Transfer.storePieces store ps bytes s = .ok () t) :
    (∀ p ∈ ps, serves p.start.toNat (p.extent g)) ∧ v.sound t.state ∧
      ∀ lo hi, Grain.Cut g lo ps hi → v.contents t.state = (v.contents s.state).write lo bytes := by
  induction ps generalizing s bytes with
  | nil =>
    cases hrun
    obtain rfl : bytes = [] := List.eq_nil_of_length_eq_zero hlen
    refine ⟨List.forall_mem_nil _, hsound, ?_⟩
    intro lo hi _
    rw [Contents.write_nil]
  | cons p ps ih =>
    rw [List.forall_mem_cons] at hproper
    rw [Piece.totalLen] at hlen
    have htake : (bytes.take p.len).length = p.len := List.length_take_of_le (by omega)
    have hdrop : (bytes.drop p.len).length = Piece.totalLen ps := by
      rw [List.length_drop]
      omega
    obtain ⟨u, s', hp, hrun⟩ := Action.bind_eq_ok hrun
    obtain ⟨hserves, -, hsound', hcontents⟩ :=
      (h hsound hproper.1 htake fun b hb => hok b (List.mem_of_mem_take hb)).of_ok hp
    obtain ⟨hserves', hsound'', hrest⟩ :=
      ih hproper.2 hdrop (fun b hb => hok b (List.mem_of_mem_drop hb)) hsound' hrun
    refine ⟨List.forall_mem_cons.2 ⟨hserves, hserves'⟩, hsound'', ?_⟩
    intro lo hi hcut
    obtain ⟨-, rfl, hcut'⟩ := hcut.uncons
    -- The first piece stores the front of the bytes, the others store the rest right behind it.
    have happend := Contents.write_append (v.contents s.state) p.first (bytes.take p.len)
      (bytes.drop p.len)
    rw [htake, List.take_append_drop] at happend
    rw [hrest _ _ hcut', hcontents, happend]

/-- Where storing the pieces of a transfer stopped, those in front are served and stored, and the one
that failed has changed nothing. -/
theorem Storing.of_error (h : v.Storing serves g store ok) (hrow : ServedInRow serves g addr len)
    (hpieces : g.pieces addr len = front ++ p :: back) (hlen : bytes.length = len)
    (hok : ∀ b ∈ bytes, ok b) (hsound : v.sound s.state)
    (hfront : Transfer.storePieces store front bytes s = .ok () u)
    (hp : store p ((bytes.drop (Piece.totalLen front)).take p.len) u = .error e t) :
    (∀ q ∈ front, serves q.start.toNat (q.extent g)) ∧ v.sound u.state ∧ v.sound t.state ∧
      v.contents t.state =
        (v.contents s.state).write addr.toNat (bytes.take (Piece.totalLen front)) := by
  obtain ⟨hproper, hproper'⟩ := Grain.proper_of_split hpieces
  have hsplit := Grain.totalLen_split hpieces
  rw [← Transfer.storePieces_take] at hfront
  obtain ⟨hserves, hsound', hcontents⟩ := h.of_ok hproper (List.length_take_of_le (by omega))
    (fun b hb => hok b (List.mem_of_mem_take hb)) hsound hfront
  have hpart : ((bytes.drop (Piece.totalLen front)).take p.len).length = p.len :=
    Piece.length_part (by omega)
  obtain ⟨hsound'', hsame⟩ := (h hsound' hproper' hpart fun b hb =>
    hok b (List.mem_of_mem_drop (List.mem_of_mem_take hb))).of_error hp
  refine ⟨hserves, hsound', hsound'', ?_⟩
  rw [hsame]
  exact hcontents _ _ (hrow hpieces hserves)

/-! ## With a guarded memory -/

variable [ChunkMemory σ]

theorem merge_attempts (h : v.Guarded serves) (hsound : v.sound s.state)
    (hfits : skip + bytes.length ≤ g.align) : v.Attempts (serves base.toNat g.align)
      (Transfer.mergeChunk g.align base skip bytes) s ()
      ((v.contents s.state).write (base.toNat + skip) bytes) := by
  refine (h.read hsound g.align_pos).bind ?_
  intro s' hsound' hcontents
  rw [← hcontents, ← Contents.write_overlay hfits]
  have hlen : (overlay ((v.contents s'.state).read base.toNat g.align) skip bytes).length =
      g.align := by
    rw [length_overlay (by rwa [Contents.length_read]), Contents.length_read]
  exact (h.write hsound' (by rw [hlen]; exact g.align_pos)).mono fun _ => trivial

theorem storing_writePart (h : v.Guarded serves) (g : Grain) :
    v.Storing serves g (Transfer.writePart g) fun _ => True := by
  intro s p bytes hsound hp hlen _
  cases p with
  | edge base skip len =>
    have hfits : skip + bytes.length ≤ g.align := by rw [hlen]; exact hp
    exact merge_attempts h hsound hfits
  | whole addr len =>
    cases hlen
    exact h.write hsound hp

theorem storing_clearPiece (h : v.Guarded serves) (g : Grain) :
    v.Storing serves g (fun p _ => Transfer.clearPiece g p) (· = 0) := by
  intro s p bytes hsound hp hlen hzero
  obtain rfl : bytes = List.replicate p.len 0 := List.eq_replicate_iff.2 ⟨hlen, hzero⟩
  cases p with
  | edge base skip len =>
    have hfits : skip + (List.replicate len (0 : UInt8)).length ≤ g.align := by
      rw [List.length_replicate]
      exact hp
    exact merge_attempts h hsound hfits
  | whole addr len => exact h.clear hsound hp

theorem readPart_attempts (h : v.Guarded serves) (hsound : v.sound s.state) (hp : p.Proper g) :
    v.Attempts (serves p.start.toNat (p.extent g)) (Transfer.readPart g p) s
      ((v.contents s.state).read p.first p.len) (v.contents s.state) := by
  cases p with
  | edge base skip len =>
    refine (h.read hsound g.align_pos).bind ?_
    intro s' hsound' hcontents
    have hpart : (((v.contents s.state).read base.toNat g.align).drop skip).take len =
        (v.contents s.state).read (base.toNat + skip) len := Contents.take_drop_read hp
    rw [Piece.first, Piece.len, ← hpart, ← hcontents]
    exact attempts_pure hsound' _
  | whole addr len => exact h.read hsound hp

/-- Pieces that were read are served, and reading them changed nothing. What was read in pieces that lie
in a row are the bytes there. -/
theorem readPieces_of_ok (h : v.Guarded serves) (hproper : ∀ p ∈ ps, p.Proper g)
    (hsound : v.sound s.state) (hrun : Transfer.readPieces g ps s = .ok xs t) :
    (∀ p ∈ ps, serves p.start.toNat (p.extent g)) ∧ v.sound t.state ∧
      v.contents t.state = v.contents s.state ∧
      ∀ lo hi, Grain.Cut g lo ps hi → xs = (v.contents s.state).read lo (Piece.totalLen ps) := by
  induction ps generalizing s xs with
  | nil =>
    cases hrun
    refine ⟨List.forall_mem_nil _, hsound, rfl, ?_⟩
    intro lo hi _
    rfl
  | cons p ps ih =>
    rw [List.forall_mem_cons] at hproper
    obtain ⟨ys, s', hp, hrun⟩ := Action.bind_eq_ok hrun
    obtain ⟨zs, t', hps, hpure⟩ := Action.bind_eq_ok hrun
    cases hpure
    obtain ⟨hserves, rfl, hsound', hcontents⟩ := (readPart_attempts h hsound hproper.1).of_ok hp
    obtain ⟨hserves', hsound'', hcontents', hrest⟩ := ih hproper.2 hsound' hps
    refine ⟨List.forall_mem_cons.2 ⟨hserves, hserves'⟩, hsound'', hcontents'.trans hcontents, ?_⟩
    intro lo hi hcut
    obtain ⟨-, rfl, hcut'⟩ := hcut.uncons
    rw [hrest _ _ hcut', hcontents, Contents.read_append]
    rfl

/-! ## With a faithful memory -/

/-- A write that failed stopped at the first piece that is not served. -/
theorem write_of_error [SteadyGrain σ] (happart : EndsApart serves) (h : v.Faithful serves)
    (hsound : v.sound s.state) (herr : Transfer.write addr bytes s = .error e t) :
    ∃ front p back, (Grain.ofMemory s.state).pieces addr bytes.length = front ++ p :: back ∧
      (∀ q ∈ front, serves q.start.toNat (q.extent (Grain.ofMemory s.state))) ∧
      ¬ serves p.start.toNat (p.extent (Grain.ofMemory s.state)) ∧ v.sound t.state ∧
      v.contents t.state =
        (v.contents s.state).write addr.toNat (bytes.take (Piece.totalLen front)) := by
  obtain ⟨front, p, back, u, hpieces, hfront, hp⟩ :=
    Transfer.storePieces_of_error (Transfer.write_eq.symm.trans herr)
  obtain ⟨hserves, hsound', hsound'', hcontents⟩ :=
    Storing.of_error (storing_writePart h.guarded _) happart.servedInRow hpieces rfl
      (fun _ _ => trivial) hsound hfront hp
  refine ⟨front, p, back, hpieces, hserves, ?_, hsound'', hcontents⟩
  intro hserved
  have hsplit := Grain.totalLen_split hpieces
  have hpart : ((bytes.drop (Piece.totalLen front)).take p.len).length = p.len :=
    Piece.length_part (by omega)
  obtain ⟨t', hok, -⟩ := h.but.stores_writePart _ hsound' (Grain.proper_of_split hpieces).2
    hpart (fun _ _ => trivial) hserved
  rw [hp] at hok
  cases hok

end View

end TargetLink
