import TargetLink.Proofs.ChunkMemory.Interleaved
import TargetLink.Proofs.Transfer.Failure

/-!
# Transfers with the target's stores between them

A write or a clear whose requests alternate with stores of the target. A byte that the transfer is for ends
as the transfer stored it, unless the target stored it later. A byte that is only next to these, in a chunk
which the transfer covers in part, is written back as it was read, so a store of the target that comes
between the two is lost; every other store of the target is kept.
-/

namespace TargetLink

/-! ## The piece that touches a byte -/

/-- The byte at `x` lies in the chunks that the request for the piece covers. -/
def Piece.Touches (g : Grain) (p : Piece) (x : Nat) : Prop :=
  p.start.toNat ≤ x ∧ x < p.start.toNat + p.extent g

namespace Grain

variable {g : Grain} {lo hi x : Nat} {p : Piece} {ps : List Piece}

theorem Cut.not_touched (h : Cut g lo ps hi) (hout : x < alignDown g.align lo ∨ alignUp g.align hi ≤ x) :
    ∀ p ∈ ps, ¬ p.Touches g x := by
  induction ps generalizing lo with
  | nil => exact List.forall_mem_nil _
  | cons p ps ih =>
    obtain ⟨-, hstart, hend, -, -⟩ := h.chunks
    obtain ⟨-, -, hrest⟩ := h.uncons
    have hup : alignUp g.align (p.first + p.len) ≤ alignUp g.align hi := alignUp_mono hrest.le
    rw [List.forall_mem_cons]
    refine ⟨fun htouch => ?_, ?_⟩
    · obtain ⟨hle, hlt⟩ := htouch
      omega
    · by_cases hnil : ps = []
      · rw [hnil]
        exact List.forall_mem_nil _
      · have hnext := h.alignDown_next hnil
        exact ih hrest (by omega)

/-- Each byte of the hull is touched by one piece only, and that piece is for the byte if the transfer
is. -/
theorem Cut.touched (h : Cut g lo ps hi) (hne : ps ≠ []) (hlo : alignDown g.align lo ≤ x)
    (hhi : x < alignUp g.align hi) : ∃ front p back, ps = front ++ p :: back ∧ p.Touches g x ∧
      (∀ q ∈ front, ¬ q.Touches g x) ∧ (∀ q ∈ back, ¬ q.Touches g x) ∧
      p.first = lo + Piece.totalLen front ∧
      (lo ≤ x ∧ x < hi ↔ p.first ≤ x ∧ x < p.first + p.len) := by
  induction ps generalizing lo with
  | nil => exact absurd rfl hne
  | cons p ps ih =>
    obtain ⟨rfl, hstart, hend, hfull, hpos⟩ := h.chunks
    obtain ⟨-, -, hrest⟩ := h.uncons
    have hle := hrest.le
    by_cases hin : x < p.start.toNat + p.extent g
    · refine ⟨[], p, ps, rfl, ⟨by omega, hin⟩, List.forall_mem_nil _, ?_, rfl, ?_⟩
      · by_cases hnil : ps = []
        · rw [hnil]
          exact List.forall_mem_nil _
        · have hnext := h.alignDown_next hnil
          exact hrest.not_touched (.inl (by omega))
      · rcases hfull with rfl | hfull
        · rw [hrest.eq_of_nil]
        · omega
    · have hmore : ps ≠ [] := by
        rintro rfl
        rw [hrest.eq_of_nil] at hhi
        omega
      have hnext := h.alignDown_next hmore
      have hlast := hfull.resolve_left hmore
      obtain ⟨front, q, back, rfl, htouch, hfront, hback, hfirst, hiff⟩ := ih hrest hmore (by omega)
      refine ⟨p :: front, q, back, rfl, htouch, ?_, hback, ?_, ?_⟩
      · rw [List.forall_mem_cons]
        refine ⟨fun htouch' => ?_, hfront⟩
        exact hin htouch'.2
      · rw [hfirst, Piece.totalLen, Nat.add_assoc]
      · rw [← hiff]
        omega

end Grain

/-! ## The moves of a transfer -/

open Move

/-- The moves that store bytes in a piece, `before` being the moves until then. An edge is laid over what these
had made of its chunk by the time that the host read it. -/
inductive Piece.Made (g : Grain) (c : Contents) (before : List Move) :
    Piece → List UInt8 → List Move → Prop where
  | whole {addr : TargetAddr} {len : Nat} {bytes : List UInt8} {pokes : List Move}
      (only : OnlyPokes pokes) (full : bytes.length = len) :
      Made g c before (.whole addr len) bytes (pokes ++ [.store addr bytes])
  | edge {base : TargetAddr} {skip len : Nat} {bytes : List UInt8} {pokes mid : List Move}
      (only : OnlyPokes pokes) (between : OnlyPokes mid) (full : bytes.length = len)
      (fits : skip + len ≤ g.align) :
      Made g c before (.edge base skip len) bytes (pokes ++ .read base g.align :: (mid ++ [.store base
        (overlay ((outcome c (before ++ pokes)).read base.toNat g.align) skip bytes)]))

/-- The moves that store bytes in pieces one after the other. -/
inductive Transfer.Made (g : Grain) (c : Contents) :
    List Move → List Piece → List UInt8 → List Move → Prop where
  | done (before : List Move) (bytes : List UInt8) : Made g c before [] bytes []
  | next {before moves rest : List Move} {p : Piece} {ps : List Piece} {bytes : List UInt8}
      (first : p.Made g c before (bytes.take p.len) moves)
      (others : Made g c (before ++ moves) ps (bytes.drop p.len) rest) :
      Made g c before (p :: ps) bytes (moves ++ rest)

section Moves

variable {g : Grain} {c : Contents} {before moves front back : List Move} {p : Piece}
  {ps qs : List Piece} {bytes : List UInt8} {addr : TargetAddr} {x i : Nat}

theorem Piece.Made.spares (h : p.Made g c before bytes moves) (hx : ¬ p.Touches g x) :
    Spares x moves := by
  have hlast {addr : TargetAddr} {bytes : List UInt8}
      (hout : ¬ (addr.toNat ≤ x ∧ x < addr.toNat + bytes.length)) : Spares x [.store addr bytes] := by
    intro addr' bytes' hmem
    cases List.mem_singleton.1 hmem
    exact hout
  cases h with
  | @whole addr len _ pokes only full =>
    refine (only.spares x).append (hlast ?_)
    rw [full]
    exact hx
  | @edge base skip len _ pokes mid only between full fits =>
    have hread : Spares x [.read base g.align] := by
      intro addr bytes hmem
      cases List.mem_singleton.1 hmem
    have hlen : (overlay ((outcome c (before ++ pokes)).read base.toNat g.align) skip
        bytes).length = g.align := by
      rw [length_overlay (by rwa [Contents.length_read, full]), Contents.length_read]
    refine (only.spares x).append (hread.append ((between.spares x).append (hlast ?_)))
    rw [hlen]
    exact hx

theorem Transfer.Made.spares (h : Transfer.Made g c before ps bytes moves)
    (hx : ∀ p ∈ ps, ¬ p.Touches g x) : Spares x moves := by
  induction h with
  | done => exact fun _ _ hmem => nomatch hmem
  | next first others ih =>
    rw [List.forall_mem_cons] at hx
    exact (first.spares hx.1).append (ih hx.2)

/-- The moves for some pieces are those in front of a piece, those for the piece and those behind it. -/
theorem Transfer.Made.split (h : Transfer.Made g c before (ps ++ p :: qs) bytes moves) :
    ∃ front own back, moves = front ++ own ++ back ∧ Transfer.Made g c before ps bytes front ∧
      p.Made g c (before ++ front) ((bytes.drop (Piece.totalLen ps)).take p.len) own ∧
      Transfer.Made g c (before ++ front ++ own) qs (bytes.drop (Piece.totalLen ps + p.len)) back := by
  induction ps generalizing before bytes moves with
  | nil =>
    cases h with
    | @next _ own back _ _ _ first others =>
      refine ⟨[], own, back, rfl, .done _ _, ?_, ?_⟩
      · rwa [List.append_nil]
      · rwa [List.append_nil, Piece.totalLen, Nat.zero_add]
  | cons q ps ih =>
    cases h with
    | @next _ moves rest _ _ _ first others =>
      obtain ⟨front, own, back, rfl, hfront, hown, hback⟩ := ih others
      refine ⟨moves ++ front, own, back, by simp only [List.append_assoc], .next first hfront, ?_, ?_⟩
      · rwa [Piece.totalLen, ← List.drop_drop, ← List.append_assoc]
      · rwa [Piece.totalLen, Nat.add_assoc, ← List.drop_drop, ← List.append_assoc]

/-- For a byte of the hull all that counts are the moves for one piece: before them and after them the host
spares the byte. -/
theorem Transfer.Made.touched {lo hi : Nat} (h : Transfer.Made g c [] ps bytes moves)
    (hcut : Grain.Cut g lo ps hi) (hne : ps ≠ []) (hlo : alignDown g.align lo ≤ x)
    (hhi : x < alignUp g.align hi) : ∃ p ∈ ps, ∃ front own back n, moves = front ++ own ++ back ∧
      Spares x front ∧ Spares x back ∧ p.Made g c front ((bytes.drop n).take p.len) own ∧
      p.Touches g x ∧ p.first = lo + n ∧
      (lo ≤ x ∧ x < hi ↔ p.first ≤ x ∧ x < p.first + p.len) := by
  obtain ⟨front, p, back, rfl, htouch, hfront, hback, hfirst, hiff⟩ := hcut.touched hne hlo hhi
  obtain ⟨m, own, m', rfl, hm, hown, hm'⟩ := h.split
  have hp : p ∈ front ++ p :: back := List.mem_append_right _ List.mem_cons_self
  exact ⟨p, hp, m, own, m', _, rfl, hm.spares hfront, hm'.spares hback, hown, htouch, hfirst, hiff⟩

/-- After the host's last store for a byte, the target's stores are all that counts. -/
theorem outcome_of_store (hback : Spares x back) :
    outcome c (front ++ .store addr bytes :: back) x =
      (lastPoked x back).getD ((outcome c front).write addr.toNat bytes x) := by
  have happend : front ++ .store addr bytes :: back = front ++ [.store addr bytes] ++ back := by simp
  rw [happend, outcome_append, outcome_of_spares hback, outcome_append, outcome_store]

/-- A merge ends with its store. -/
theorem append_merge (front pokes mid back : List Move) (read store : Move) :
    front ++ (pokes ++ read :: (mid ++ [store])) ++ back =
      (front ++ pokes ++ read :: mid) ++ store :: back := by
  simp only [List.append_assoc, List.cons_append, List.nil_append]

/-- A byte that the piece is for ends as it was stored, unless the target stored it after that. -/
theorem Piece.Made.stored {own : List Move} {b : UInt8} (h : p.Made g c front bytes own)
    (hback : Spares x back) (hle : p.first ≤ x) (hb : bytes[x - p.first]? = some b) :
    ∃ before addr bytes' after, front ++ own ++ back = before ++ .store addr bytes' :: after ∧
      addr.toNat ≤ x ∧ x < addr.toNat + bytes'.length ∧ Spares x after ∧
      outcome c (front ++ own ++ back) x = (lastPoked x after).getD b := by
  obtain ⟨hlt, -⟩ := List.getElem?_eq_some_iff.1 hb
  cases h with
  | @whole addr len _ pokes only full =>
    have hmoves : front ++ (pokes ++ [.store addr bytes]) ++ back =
        (front ++ pokes) ++ .store addr bytes :: back := by simp
    change addr.toNat ≤ x at hle
    change x - addr.toNat < bytes.length at hlt
    refine ⟨_, addr, bytes, back, hmoves, hle, by omega, hback, ?_⟩
    rw [hmoves, outcome_of_store hback, Contents.write, if_pos hle]
    rw [show bytes[x - addr.toNat]? = some b from hb, Option.getD_some]
  | @edge base skip len _ pokes mid only between full fits =>
    generalize hchunk : (outcome c (front ++ pokes)).read base.toNat g.align = chunk
    have hfits : skip + bytes.length ≤ chunk.length := by
      rw [← hchunk, Contents.length_read, full]
      exact fits
    have hmoves := append_merge front pokes mid back (.read base g.align)
      (.store base (overlay chunk skip bytes))
    have hlen := length_overlay hfits
    change base.toNat + skip ≤ x at hle
    change x - (base.toNat + skip) < bytes.length at hlt
    have hget : (overlay chunk skip bytes)[x - base.toNat]? = some b := by
      rw [getElem?_overlay hfits, if_pos (by omega), Nat.sub_sub]
      exact hb
    refine ⟨_, base, _, back, hmoves, by omega, by omega, hback, ?_⟩
    rw [hmoves, outcome_of_store hback, Contents.write, if_pos (by omega), hget, Option.getD_some]

/-- A byte that only shares a chunk with those that the piece is for is read and written back. What the
target stored in between is lost, and nothing else that it stored. -/
theorem Piece.Made.merged {own : List Move} (h : p.Made g c front bytes own) (hfront : Spares x front)
    (hback : Spares x back) (htouch : p.Touches g x) (hout : ¬ (p.first ≤ x ∧ x < p.first + p.len)) :
    ∃ before base mid chunk after, front ++ own ++ back =
        before ++ .read base g.align :: (mid ++ .store base chunk :: after) ∧
      OnlyPokes mid ∧ base.toNat ≤ x ∧ x < base.toNat + g.align ∧
      outcome c (front ++ own ++ back) x =
        ((lastPoked x after).or (lastPoked x before)).getD (c x) := by
  obtain ⟨hle, hlt⟩ := htouch
  cases h with
  | whole only full => exact absurd ⟨hle, hlt⟩ hout
  | @edge base skip len _ pokes mid only between full fits =>
    generalize hchunk : (outcome c (front ++ pokes)).read base.toNat g.align = chunk
    have hread : chunk.length = g.align := by rw [← hchunk, Contents.length_read]
    have hfits : skip + bytes.length ≤ chunk.length := by omega
    have hmoves := append_merge front pokes mid back (.read base g.align)
      (.store base (overlay chunk skip bytes))
    change base.toNat ≤ x at hle
    change x < base.toNat + g.align at hlt
    change ¬ (base.toNat + skip ≤ x ∧ x < base.toNat + skip + len) at hout
    -- The byte of the chunk is the one that was read.
    have hget : (overlay chunk skip bytes)[x - base.toNat]? =
        some ((lastPoked x (front ++ pokes)).getD (c x)) := by
      rw [getElem?_overlay hfits, if_neg (by omega), ← hchunk, Contents.getElem?_read,
        if_pos (by omega), Nat.add_sub_cancel' hle,
        outcome_of_spares (hfront.append (only.spares x))]
    refine ⟨front ++ pokes, base, mid, overlay chunk skip bytes, back, ?_, between, hle, hlt, ?_⟩
    · rw [hmoves]
      simp only [List.append_assoc, List.cons_append]
    · rw [hmoves, outcome_of_store hback, Contents.write, if_pos hle, hget, Option.getD_some]
      cases lastPoked x back <;> rfl

end Moves

/-! ## Transfers make these moves -/

section Run

variable {σ : Type} [ChunkMemory σ] [SharedMemory σ] {v : View σ} {serves : Nat → Nat → Prop}
  {g : Grain} {c : Contents} {s t : Logged (Interleaved σ)} {job : Job} {p : Piece} {ps : List Piece}
  {bytes : List UInt8} {base : TargetAddr} {skip len : Nat} (hserving : Serving serves)
  (hguarded : v.Guarded serves) (hshared : v.Shared serves)

open Interleaved

include hserving hguarded hshared

theorem merge_made (h : Explained v serves c s.state) (hfull : bytes.length = len)
    (hfits : skip + len ≤ g.align) (hok : Transfer.mergeChunk g.align base skip bytes s = .ok () t) :
    serves base.toNat g.align ∧ Explained v serves c t.state ∧
      ∃ moves, t.state.moves = s.state.moves ++ moves ∧
        (Piece.edge base skip len).Made g c s.state.moves bytes moves := by
  obtain ⟨chunk, u, hread, hwrite⟩ := Action.bind_eq_ok hok
  obtain ⟨hserves, hu, pokes, hpokes, hmoves, rfl⟩ :=
    h.readChunk_ok hserving hguarded hshared g.align_pos hread
  have hlen : (overlay ((outcome c (s.state.moves ++ pokes)).read base.toNat g.align) skip
      bytes).length = g.align := by
    rw [length_overlay (by rwa [Contents.length_read, hfull]), Contents.length_read]
  have hpos := g.align_pos
  rw [← hlen] at hpos
  obtain ⟨-, ht, mid, hmid, hmoves'⟩ :=
    hu.store_ok hshared (fun hsound => hguarded.write hsound hpos) hwrite
  refine ⟨hserves, ht, _, ?_, .edge hpokes hmid hfull hfits⟩
  rw [hmoves', hmoves]
  simp only [List.append_assoc, List.cons_append, List.nil_append]

theorem store_made (hread : job.isRead = false) (h : Explained v serves c s.state)
    (hp : p.Proper g) (hlen : bytes.length = p.len) (hbytes : ∀ b ∈ bytes, b ∈ job.stored)
    (hok : job.store g p bytes s = .ok () t) :
    serves p.start.toNat (p.extent g) ∧ Explained v serves c t.state ∧
      ∃ moves, t.state.moves = s.state.moves ++ moves ∧ p.Made g c s.state.moves bytes moves := by
  have hwhole {addr : TargetAddr} {n : Nat} {x : Action LinkError σ Unit} (hn : bytes.length = n)
      (hx : ∀ {u : Logged σ}, v.sound u.state → v.Attempts (serves addr.toNat bytes.length) x u ()
        ((v.contents u.state).write addr.toNat bytes))
      (hrun : request (some (.store addr bytes)) x s = .ok () t) :
      serves addr.toNat n ∧ Explained v serves c t.state ∧
        ∃ moves, t.state.moves = s.state.moves ++ moves ∧
          (Piece.whole addr n).Made g c s.state.moves bytes moves := by
    obtain ⟨hserves, ht, pokes, hpokes, hmoves⟩ := h.store_ok hshared hx hrun
    rw [List.append_assoc] at hmoves
    rw [hn] at hserves
    exact ⟨hserves, ht, _, hmoves, .whole hpokes hn⟩
  cases job with
  | read => cases hread
  | write addr' bytes' =>
    cases p with
    | edge base skip len => exact merge_made hserving hguarded hshared h hlen hp hok
    | whole addr len =>
      have hpos : 0 < bytes.length := by
        rw [hlen]
        exact hp
      exact hwhole hlen (fun hsound => hguarded.write hsound hpos) hok
  | clear addr' len' =>
    have hzeros : bytes = List.replicate p.len 0 :=
      List.eq_replicate_iff.2 ⟨hlen, fun b hb => List.eq_of_mem_replicate (hbytes b hb)⟩
    cases p with
    | edge base skip len =>
      rw [hzeros] at hlen ⊢
      exact merge_made hserving hguarded hshared h hlen hp hok
    | whole addr len =>
      refine hwhole hlen (x := ChunkMemory.clearChunk addr len) ?_ ?_
      · intro u hsound
        rw [hzeros, List.length_replicate]
        exact hguarded.clear hsound hp
      · rw [hzeros]
        exact hok

theorem storePieces_made (hread : job.isRead = false) (h : Explained v serves c s.state)
    (hproper : ∀ p ∈ ps, p.Proper g) (hlen : bytes.length = Piece.totalLen ps)
    (hbytes : ∀ b ∈ bytes, b ∈ job.stored)
    (hok : Transfer.storePieces (job.store g) ps bytes s = .ok () t) :
    (∀ p ∈ ps, serves p.start.toNat (p.extent g)) ∧ Explained v serves c t.state ∧
      ∃ moves, t.state.moves = s.state.moves ++ moves ∧
        Transfer.Made g c s.state.moves ps bytes moves := by
  induction ps generalizing s bytes with
  | nil =>
    cases hok
    exact ⟨List.forall_mem_nil _, h, [], (List.append_nil _).symm, .done _ _⟩
  | cons p ps ih =>
    rw [List.forall_mem_cons] at hproper
    rw [Piece.totalLen] at hlen
    have htake : (bytes.take p.len).length = p.len := List.length_take_of_le (by omega)
    have hdrop : (bytes.drop p.len).length = Piece.totalLen ps := by
      rw [List.length_drop]
      omega
    obtain ⟨_, u, hp, hps⟩ := Action.bind_eq_ok hok
    obtain ⟨hserves, hu, moves, hmoves, hmade⟩ := store_made hserving hguarded hshared hread h
      hproper.1 htake (fun b hb => hbytes b (List.mem_of_mem_take hb)) hp
    obtain ⟨hserves', ht, rest, hrest, hmade'⟩ := ih hu hproper.2 hdrop
      (fun b hb => hbytes b (List.mem_of_mem_drop hb)) hps
    refine ⟨List.forall_mem_cons.2 ⟨hserves, hserves'⟩, ht, moves ++ rest, ?_, ?_⟩
    · rw [hrest, hmoves, List.append_assoc]
    · rw [hmoves] at hmade'
      exact .next hmade hmade'

end Run

/-! ## What becomes of each byte -/

namespace Job

/-- What a transfer made of the bytes `c` in chunks of `a` bytes, if `moves` are its requests with what the target
stored before each of them. -/
structure Interleaves (job : Job) (serves : Nat → Nat → Prop) (a : Nat) (moves : List Move)
    (c c' : Contents) : Prop where
  /-- A byte outside the hull is as the target left it. -/
  outside : ∀ x, serves x 1 →
    x < alignDown a job.addr.toNat ∨ alignUp a (job.addr.toNat + job.len) ≤ x →
      c' x = (lastPoked x moves).getD (c x)
  /-- So is a byte of the hull that the transfer is not for, unless the target stored it between the read and
  the write of its chunk. -/
  merged : ∀ x, alignDown a job.addr.toNat ≤ x → x < alignUp a (job.addr.toNat + job.len) →
    ¬ (job.addr.toNat ≤ x ∧ x < job.addr.toNat + job.len) →
      c' x = (lastPoked x moves).getD (c x) ∨
      ∃ before base mid chunk after,
        moves = before ++ .read base a :: (mid ++ .store base chunk :: after) ∧ OnlyPokes mid ∧
        base.toNat ≤ x ∧ x < base.toNat + a ∧ lastPoked x mid ≠ none ∧
        c' x = ((lastPoked x after).or (lastPoked x before)).getD (c x)
  /-- A byte that the transfer is for is as it was stored, unless the target stored it after that. -/
  stored : ∀ i (hi : i < job.stored.length), ∃ before addr bytes after,
    moves = before ++ .store addr bytes :: after ∧ addr.toNat ≤ job.addr.toNat + i ∧
    job.addr.toNat + i < addr.toNat + bytes.length ∧ Spares (job.addr.toNat + i) after ∧
    c' (job.addr.toNat + i) = (lastPoked (job.addr.toNat + i) after).getD job.stored[i]
  /-- An aligned transfer loses nothing that the target stored next to it. -/
  aligned : a ∣ job.addr.toNat → a ∣ job.len → ∀ x, serves x 1 →
    x < job.addr.toNat ∨ job.addr.toNat + job.len ≤ x → c' x = (lastPoked x moves).getD (c x)

theorem store_of_perform {σ : Type} [ChunkMemory σ] [SteadyGrain σ] {job : Job} {s t : Logged σ}
    {bytes : List UInt8} (hread : job.isRead = false) (hok : job.perform s = .ok bytes t) :
    Transfer.storePieces (job.store (Grain.ofMemory s.state))
      ((Grain.ofMemory s.state).pieces job.addr job.len) job.stored s = .ok () t := by
  cases job with
  | read => cases hread
  | write addr bytes' =>
    obtain ⟨_, u, hrun, hpure⟩ := Action.bind_eq_ok hok
    cases hpure
    rw [Transfer.write_eq] at hrun
    exact hrun
  | clear addr len =>
    obtain ⟨_, u, hrun, hpure⟩ := Action.bind_eq_ok hok
    cases hpure
    rw [Transfer.clear_eq (List.replicate len 0)] at hrun
    exact hrun

section Law

variable {σ : Type} [ChunkMemory σ] [SteadyGrain σ] [SharedMemory σ] {v : View σ}
  {serves : Nat → Nat → Prop} {s : Logged σ} {t : Logged (Interleaved σ)} {job : Job}
  {turns : List (List (TargetAddr × UInt8))} {bytes : List UInt8} (hserving : Serving serves) (hguarded : v.Guarded serves)
  (hshared : v.Shared serves)

include hserving hguarded hshared

theorem interleaves_of_ok (hrow : ServedInRow serves (Grain.ofMemory s.state) job.addr job.len)
    (hread : job.isRead = false) (hsound : v.sound s.state)
    (hok : job.perform (Interleaved.start s turns) = .ok bytes t) :
    job.Interleaves serves (max (ChunkMemory.chunkAlign s.state) 1) t.state.moves
      (v.contents s.state) (v.contents t.state.inner) := by
  have hrun := store_of_perform hread hok
  change Transfer.storePieces (job.store (Grain.ofMemory s.state))
    ((Grain.ofMemory s.state).pieces job.addr job.len) job.stored _ = _ at hrun
  have halign : (Grain.ofMemory s.state).align = max (ChunkMemory.chunkAlign s.state) 1 := rfl
  rw [← halign]
  generalize Grain.ofMemory s.state = g at hrun hrow
  have hlen := length_stored hread
  have hsum := g.totalLen_pieces job.addr job.len
  obtain ⟨hserves, hexplained, moves, hmoves, hmade⟩ := storePieces_made hserving hguarded hshared hread
    (Interleaved.explained_start hsound turns) (fun _ => Grain.proper_of_mem_pieces)
    (hlen.trans hsum.symm) (fun _ hb => hb) hrun
  have hcut := hrow (List.append_nil _).symm hserves
  rw [hsum] at hcut
  cases (show t.state.moves = moves from hmoves)
  have hdown := alignDown_le g.align job.addr.toNat
  have hup := le_alignUp g.align_pos (job.addr.toNat + job.len)
  have houtside : ∀ x, serves x 1 →
      x < alignDown g.align job.addr.toNat ∨ alignUp g.align (job.addr.toNat + job.len) ≤ x →
        v.contents t.state.inner x = (lastPoked x t.state.moves).getD (v.contents s.state x) := by
    intro x hx hout
    rw [hexplained.contents x hx]
    exact outcome_of_spares (hmade.spares (hcut.not_touched hout))
  refine ⟨houtside, ?_, ?_, ?_⟩
  · intro x hlo hhi hout
    by_cases hnone : g.pieces job.addr job.len = []
    · rw [hnone] at hrun
      cases hrun
      exact .inl rfl
    · obtain ⟨p, hp, front, own, back, n, happend, hfront, hback, hown, htouch, -, hiff⟩ :=
        hmade.touched hcut hnone hlo hhi
      have hx := hserving.byte (hserves p hp) htouch.1 htouch.2
      obtain ⟨before, base, mid, chunk, after, hsplit, honly, hle, hlt, houtcome⟩ :=
        hown.merged hfront hback htouch fun hin => hout (hiff.2 hin)
      rw [← happend] at hsplit houtcome
      rw [← hexplained.contents x hx] at houtcome
      cases hmid : lastPoked x mid with
      | some value =>
        refine .inr ⟨before, base, mid, chunk, after, hsplit, honly, hle, hlt, ?_, houtcome⟩
        rw [hmid]
        exact Option.some_ne_none value
      | none =>
        refine .inl ?_
        rw [hsplit, lastPoked_append, lastPoked_read, lastPoked_append, lastPoked_store, hmid,
          Option.or_none]
        exact houtcome
  · intro i hi
    rw [hlen] at hi
    have hnone : g.pieces job.addr job.len ≠ [] := by
      intro hnone
      rw [hnone] at hsum
      exact absurd hsum (by rw [Piece.totalLen]; omega)
    obtain ⟨p, hp, front, own, back, n, happend, -, hback, hown, htouch, hfirst, hiff⟩ :=
      hmade.touched hcut hnone (show _ ≤ job.addr.toNat + i by omega) (by omega)
    have hx := hserving.byte (hserves p hp) htouch.1 htouch.2
    obtain ⟨hle, hlt⟩ := hiff.1 ⟨by omega, by omega⟩
    have hget : ((job.stored.drop n).take p.len)[job.addr.toNat + i - p.first]? =
        some job.stored[i] := by
      rw [List.getElem?_take_of_lt (by omega), List.getElem?_drop,
        show n + (job.addr.toNat + i - p.first) = i by omega]
      exact List.getElem?_eq_getElem _
    have hstored := hown.stored hback hle hget
    rwa [← happend, ← hexplained.contents _ hx] at hstored
  · intro haddr hdvd x hx hout
    refine houtside x hx ?_
    rw [alignDown_of_dvd g.align_pos haddr, alignUp_of_dvd g.align_pos (Nat.dvd_add haddr hdvd)]
    exact hout

end Law

end Job

end TargetLink
