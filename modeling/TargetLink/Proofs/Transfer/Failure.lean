import TargetLink.Proofs.ChunkMemory.Flat
import TargetLink.Proofs.Transfer.Stopped

/-!
# What a failed transfer leaves

A transfer that fails ends with the error of its first request that failed, which was its last one. It
has stored, or brought into the buffer, a front of its bytes: those that the requests before were for.
-/

namespace TargetLink

namespace Request

/-- The byte at an address is among those that the request is for. -/
def Covers (r : Request) (x : Nat) : Prop :=
  ∃ addr len, r.range? = some (addr, len) ∧ addr.toNat ≤ x ∧ x < addr.toNat + len

theorem covers_iff {r : Request} {addr : TargetAddr} {len x : Nat} (h : r.range? = some (addr, len)) :
    r.Covers x ↔ addr.toNat ≤ x ∧ x < addr.toNat + len := by
  constructor
  · rintro ⟨addr', len', hrange, hcovers⟩
    rw [h] at hrange
    cases hrange
    exact hcovers
  · intro hcovers
    exact ⟨addr, len, h, hcovers⟩

end Request

section Buffer

variable {σ τ : Type} [ChunkMemory σ] [ChunkMemory τ] {R : Logged σ → Logged τ → Prop}
  {E : LinkError → LinkError → Logged σ → Logged τ → Prop}

open Transfer

/-- The two reads are in coupled memories, and have buffers with the same bytes. -/
def SameBuffer (R : Logged σ → Logged τ → Prop) (q : Reading σ) (r : Reading τ) : Prop :=
  q.filled = r.filled ∧ q.rest = r.rest ∧ R q.memory r.memory

theorem AnswerCoupled.fillPieces (h : AnswerCoupled R E) (g : Grain) (ps : List Piece) :
    Coupled (SameBuffer R) (fun e e' => SameBuffer (E e e')) (Transfer.fillPieces g ps)
      (Transfer.fillPieces g ps) := by
  induction ps with
  | nil => exact coupled_pure _
  | cons p ps ih =>
    rintro ⟨filled, rest, s⟩ ⟨_, _, t⟩ ⟨rfl, rfl, hst⟩
    simp only [fillPieces_cons, request]
    rcases h.readPart g p s t hst with ⟨bytes, s', t', hs, ht, hst'⟩ | ⟨e, e', s', t', hs, ht, hE⟩
    · rw [hs, ht]
      exact ih _ _ ⟨rfl, rfl, hst'⟩
    · rw [hs, ht]
      exact .inr ⟨e, e', _, _, rfl, rfl, rfl, rfl, hE⟩

/-- Coupled memories leave the same bytes in the buffer of a read, also where it fails. -/
theorem AnswerCoupled.readInto [SteadyGrain σ] [SteadyGrain τ] (h : AnswerCoupled R E)
    (addr : TargetAddr) (buffer : List UInt8) :
    Coupled R (fun e e' s t => E e.1 e'.1 s t ∧ e.2 = e'.2) (Transfer.readInto addr buffer)
      (Transfer.readInto addr buffer) := by
  intro s t hst
  unfold Transfer.readInto
  simp only [readAll_eq, h.ofMemory_eq hst]
  rcases h.fillPieces (Grain.ofMemory t.state) _ ⟨#[], buffer, s⟩ ⟨#[], buffer, t⟩ ⟨rfl, rfl, hst⟩ with
    ⟨_, q, r, hs, ht, hfilled, hrest, hst'⟩ | ⟨e, e', q, r, hs, ht, hfilled, hrest, hE⟩
  · rw [hs, ht]
    refine .inl ⟨_, _, _, rfl, ?_, hst'⟩
    rw [hfilled, hrest]
  · rw [hs, ht]
    refine .inr ⟨_, _, _, _, rfl, rfl, hE, ?_⟩
    rw [hfilled, hrest]

end Buffer

/-! ## Transfers that store -/

namespace Job

variable {σ : Type} [ChunkMemory σ] {job : Job} {g : Grain} {s t : Logged σ} {e : LinkError}

/-- Stores the bytes of a piece. -/
def store (g : Grain) : Job → Piece → List UInt8 → Action LinkError σ Unit
  | .clear .. => fun p _ => Transfer.clearPiece g p
  | _ => Transfer.writePart g

/-- A transfer that stores fails where storing its pieces does. -/
theorem perform_eq_error_iff [SteadyGrain σ] (hread : job.isRead = false) :
    job.perform s = .error e t ↔
      Transfer.storePieces (job.store (Grain.ofMemory s.state))
        ((Grain.ofMemory s.state).pieces job.addr job.len) job.stored s = .error e t := by
  have hdone (x : Action LinkError σ Unit) :
      (x >>= fun _ => pure ([] : List UInt8)) s = .error e t ↔ x s = .error e t := by
    rw [Action.bind_apply]
    cases x s <;> simp
  cases job with
  | read => cases hread
  | write addr bytes =>
    refine (hdone _).trans ?_
    rw [Transfer.write_eq]
    rfl
  | clear addr len =>
    refine (hdone _).trans ?_
    rw [Transfer.clear_eq (List.replicate len 0)]
    rfl

theorem follows_store (hfull : ReadsInFull σ) (job : Job) (p : Piece) (bytes : List UInt8)
    (s : Logged (Recorded σ)) (hp : p.Proper g) (hlen : bytes.length = p.len) :
    Recorded.Follows (job.store g p bytes) (job.store g p bytes) (p.storeRequests job.whole g) s := by
  cases job with
  | read => exact Recorded.follows_writePart hfull hp hlen
  | write => exact Recorded.follows_writePart hfull hp hlen
  | clear => exact Recorded.follows_clearPiece hfull hp

theorem alike_store (before : List Request) (job : Job) (p : Piece) (bytes : List UInt8) :
    Alike (σ := Logged (Recorded σ)) (τ := Logged (Traced σ)) (Traced.SameSoFar before)
      (Traced.SameUpTo before) (job.store g p bytes) (job.store g p bytes) := by
  cases job with
  | read => exact (Traced.answerAlike before).writePart g p bytes
  | write => exact (Traced.answerAlike before).writePart g p bytes
  | clear => exact (Traced.answerAlike before).clearPiece g p

theorem storing_store {v : View σ} {serves : Nat → Nat → Prop} (h : v.Guarded serves) (g : Grain)
    (job : Job) : v.Storing serves g (job.store g) (· ∈ job.stored) := by
  intro s p bytes hsound hp hlen hmem
  cases job with
  | read => exact View.storing_writePart h g hsound hp hlen fun _ _ => trivial
  | write => exact View.storing_writePart h g hsound hp hlen fun _ _ => trivial
  | clear addr len =>
    refine View.storing_clearPiece h g hsound hp hlen ?_
    intro b hb
    exact List.eq_of_mem_replicate (hmem b hb)

end Job

/-! ## The front that was done -/

section Front

variable {serves : Nat → Nat → Prop} {g : Grain} {p : Piece} {front back : List Piece}
  {addr : TargetAddr} {len i : Nat} {request : Piece → Request} {completed : List Request} {b : Bool}

/-- The requests that carried the pieces at the front of a transfer cover its first bytes. -/
theorem ServedInRow.lt_totalLen_iff_covered (h : ServedInRow serves g addr len)
    (hpieces : g.pieces addr len = front ++ p :: back)
    (hserves : ∀ p ∈ front, serves p.start.toNat (p.extent g))
    (hrange : ∀ p, (request p).range? = some (p.start, p.extent g))
    (hcompleted : completed.filter (fun r => r.isRead = b) = front.map request) :
    i < Piece.totalLen front ↔ ∃ r ∈ completed, r.isRead = b ∧ r.Covers (addr.toNat + i) := by
  have hcut := h hpieces hserves
  have hcovered := hcut.lt_iff_covered (fun q hq => Grain.full_of_pieces hpieces hq)
    (Nat.le_add_right addr.toNat i)
  have hmem (r : Request) : r ∈ completed ∧ r.isRead = b ↔ ∃ q ∈ front, request q = r := by
    rw [← List.mem_map, ← hcompleted, List.mem_filter, decide_eq_true_iff]
  rw [Nat.add_lt_add_iff_left] at hcovered
  rw [hcovered]
  constructor
  · rintro ⟨q, hq, hin⟩
    obtain ⟨hr, hread⟩ := (hmem _).2 ⟨q, hq, rfl⟩
    exact ⟨request q, hr, hread, (Request.covers_iff (hrange q)).2 hin⟩
  · rintro ⟨r, hr, hread, hin⟩
    obtain ⟨q, hq, rfl⟩ := (hmem r).1 ⟨hr, hread⟩
    exact ⟨q, hq, (Request.covers_iff (hrange q)).1 hin⟩

/-- Before the last request for a piece only its chunk was read, if anything. -/
theorem Piece.filter_of_prefix {whole : TargetAddr → Nat → Request} {failed : Request}
    (h : completed ++ [failed] <+: p.storeRequests whole g) :
    completed.filter (fun r => r.isRead = false) = [] := by
  have hlen := h.length_le
  rw [List.length_append, List.length_singleton] at hlen
  cases p with
  | edge base skip len =>
    change completed.length + 1 ≤ 2 at hlen
    match completed, hlen with
    | [], _ => rfl
    | [r], _ =>
      obtain ⟨rest, hrest⟩ := h
      cases hrest
      rfl
    | _ :: _ :: _, hlen => simp at hlen
  | whole addr len =>
    change completed.length + 1 ≤ 1 at hlen
    rw [List.eq_nil_of_length_eq_zero (show completed.length = 0 by omega)]
    rfl

end Front

section Failed

variable {σ : Type} [ChunkMemory σ] [SteadyGrain σ] {v : View σ} {serves : Nat → Nat → Prop}
  {s t : Logged σ} {e : LinkError} {job : Job}
  (hrow : ServedInRow serves (Grain.ofMemory s.state) job.addr job.len) (h : v.Guarded serves)
  (hsound : v.sound s.state)

include hrow h hsound

/-- A write or a clear that failed has stored the bytes that its completed requests were for. -/
theorem Job.stores_front_of_error (hfull : ReadsInFull σ) (hread : job.isRead = false)
    (herr : job.perform s = .error e t) :
    ∃ completed failed k, job.perform (Traced.attach s []) =
        .error e (Traced.attach t (Traced.succeeded completed ++ [(failed, some e)])) ∧ k < job.len ∧
      (∀ i, i < k ↔ ∃ r ∈ completed, r.isRead = false ∧ r.Covers (job.addr.toNat + i)) ∧
      v.contents t.state = (v.contents s.state).write job.addr.toNat (job.stored.take k) := by
  have hlen := length_stored hread
  have hsum := (Grain.ofMemory s.state).totalLen_pieces job.addr job.len
  obtain ⟨front, p, back, u, completed, failed, hpieces, hfront, hp, hbegins, htraced⟩ :=
    Transfer.storePieces_stops (follows_store hfull job) (fun before => alike_store before job)
      (fun _ => Grain.proper_of_mem_pieces) (hlen.trans hsum.symm)
      ((perform_eq_error_iff hread).1 herr)
  have hk := Grain.totalLen_front_lt hpieces
  obtain ⟨hserves, -, -, hcontents⟩ := View.Storing.of_error (storing_store h _ job) hrow
    hpieces hlen (fun _ hb => hb) hsound hfront hp
  have hcompleted : ((front.flatMap (Piece.storeRequests job.whole (Grain.ofMemory s.state))) ++
      completed).filter (fun r => r.isRead = false) =
        front.map (Piece.storeRequest job.whole (Grain.ofMemory s.state)) := by
    rw [List.filter_append, Piece.filter_storeRequests job.whole_isRead,
      Piece.filter_of_prefix hbegins, List.append_nil]
  refine ⟨_, failed, Piece.totalLen front, (perform_eq_error_iff hread).2 htraced, hk, ?_, ?_⟩
  · intro i
    exact hrow.lt_totalLen_iff_covered hpieces hserves
      (Piece.range?_storeRequest job.whole_range?) hcompleted
  · exact hcontents

/-- A read that failed has changed nothing, and the bytes that its completed requests were for are at
the front of the buffer. -/
theorem Job.reads_front_of_error (hread : job.isRead = true) (herr : job.perform s = .error e t) :
    ∃ completed failed k, job.perform (Traced.attach s []) =
        .error e (Traced.attach t (Traced.succeeded completed ++ [(failed, some e)])) ∧ k < job.len ∧
      (∀ i, i < k ↔ ∃ r ∈ completed, r.isRead = true ∧ r.Covers (job.addr.toNat + i)) ∧
      v.contents t.state = v.contents s.state ∧
      ∀ buffer : List UInt8, buffer.length = job.len → Transfer.readInto job.addr buffer s =
        .error (e, (v.contents s.state).read job.addr.toNat k ++ buffer.drop k) t := by
  obtain ⟨addr, len, rfl⟩ : ∃ addr len, job = .read addr len := by
    cases job with
    | read addr len => exact ⟨addr, len, rfl⟩
    | write => cases hread
    | clear => cases hread
  have hrun : Transfer.readPieces (Grain.ofMemory s.state)
      ((Grain.ofMemory s.state).pieces addr len) s = .error e t := Transfer.read_eq.symm.trans herr
  obtain ⟨front, p, back, xs, u, hpieces, hfront, hp, htraced⟩ := Transfer.readPieces_stops hrun
  obtain ⟨hproper, hproper'⟩ := Grain.proper_of_split hpieces
  obtain ⟨hserves, hsound', hcontents, hbytes⟩ := View.readPieces_of_ok h hproper hsound hfront
  obtain ⟨-, hsame⟩ := (View.readPart_attempts h hsound' hproper').of_error hp
  have hxs := hbytes _ _ (hrow hpieces hserves)
  have hcompleted : (front.map (Piece.readRequest (Grain.ofMemory s.state))).filter
      (fun r => r.isRead = true) = front.map (Piece.readRequest (Grain.ofMemory s.state)) := by
    rw [List.filter_eq_self]
    intro r hr
    obtain ⟨q, -, rfl⟩ := List.mem_map.1 hr
    rfl
  refine ⟨_, _, Piece.totalLen front, Transfer.read_eq.trans htraced,
    Grain.totalLen_front_lt hpieces, ?_, hsame.trans hcontents, ?_⟩
  · intro i
    exact hrow.lt_totalLen_iff_covered hpieces hserves (fun _ => rfl) hcompleted
  · intro buffer hlen
    cases (show len = buffer.length from hlen.symm)
    have hinto := Transfer.readInto_of_error hpieces hfront hp
    rwa [hxs] at hinto

end Failed

/-- Transfers with a memory over an interval that may refuse any request without effect. One that fails
ends with the error of the first request that failed, and that was its last one. Some of its bytes, fewer
than all, were covered by requests of its own kind that succeeded before, and these are the first ones: a
write or a clear has stored them and no others, a read has brought them to the front of the buffer and
left the rest of it alone. Only in a memory of all addresses a transfer that runs past the last one would go
on at zero; there it is to end in front of it. -/
theorem Job.front_of_error {σ : Type} [ChunkMemory σ] [SteadyGrain σ] {v : View σ} {base : TargetAddr}
    {size : Nat} (hend : base.toNat + size ≤ UInt64.size) (hfull : ReadsInFull σ)
    (h : v.Guarded (Within base.toNat size)) {s t : Logged σ} {e : LinkError} (hsound : v.sound s.state)
    (job : Job) (hlast : size < UInt64.size ∨ job.addr.toNat + job.len ≤ UInt64.size)
    (herr : job.perform s = .error e t) :
    let lo := job.addr.toNat
    let c := v.contents s.state
    ∃ completed failed k,
      job.perform (Traced.attach s []) =
        .error e (Traced.attach t (Traced.succeeded completed ++ [(failed, some e)])) ∧
      k < job.len ∧
      (∀ i < job.len, i < k ↔ ∃ r ∈ completed, r.isRead = job.isRead ∧ r.Covers (lo + i)) ∧
      (job.isRead = false →
        (∀ i (hi : i < job.stored.length), i < k → v.contents t.state (lo + i) = job.stored[i]) ∧
        ∀ b, ¬ (lo ≤ b ∧ b < lo + k) → v.contents t.state b = c b) ∧
      (job.isRead = true → v.contents t.state = c ∧
        ∀ buffer : List UInt8, buffer.length = job.len →
          Transfer.readInto job.addr buffer s = .error (e, c.read lo k ++ buffer.drop k) t) := by
  intro lo c
  have hrow : ServedInRow (Within base.toNat size) (Grain.ofMemory s.state) job.addr job.len :=
    servedInRow_within hend hlast
  cases hread : job.isRead with
  | true =>
    obtain ⟨completed, failed, k, htraced, hk, hcovered, hcontents, hbuffer⟩ :=
      Job.reads_front_of_error hrow h hsound hread herr
    refine ⟨completed, failed, k, htraced, hk, fun i _ => hcovered i, ?_, fun _ => ⟨hcontents, hbuffer⟩⟩
    intro hno
    cases hno
  | false =>
    obtain ⟨completed, failed, k, htraced, hk, hcovered, hcontents⟩ :=
      Job.stores_front_of_error hrow h hsound hfull hread herr
    have hlen := Job.length_stored hread
    have htake : (job.stored.take k).length = k := List.length_take_of_le (by omega)
    refine ⟨completed, failed, k, htraced, hk, fun i _ => hcovered i, fun _ => ⟨?_, ?_⟩, ?_⟩
    · intro i hi hlt
      rw [hcontents, Contents.write_add (by rwa [htake]), List.getElem_take]
    · intro b hb
      rw [hcontents, Contents.write_of_not_mem (by rwa [htake])]
    · intro hno
      cases hno

/-- Two bytes are to be written across the border of two chunks, and the fourth access, which is to
write the second chunk, fails: the first byte is stored and the second is not. -/
theorem Job.write_stops_at_border : ∃ (s t : Logged FlatMemory) (e : LinkError),
    (Job.write ⟨0x1007⟩ [1, 2]).perform s = .error e t ∧
    (t.state.memory.byteAt 7 = 1 ∧ t.state.memory.byteAt 8 = 0) ∧
    ∃ completed failed k, (Job.write ⟨0x1007⟩ [1, 2]).perform (Traced.attach s []) =
      .error e (Traced.attach t (Traced.succeeded completed ++ [(failed, some e)])) ∧ k < 2 ∧
      ∀ b, ¬ (0x1007 ≤ b ∧ b < 0x1007 + k) →
        (FlatMemory.faultyView ⟨0x1000⟩ 16 8).contents t.state b = 0 := by
  have hend : (TargetAddr.mk 0x1000).toNat + 16 ≤ UInt64.size := by decide
  let s : Logged FlatMemory := .start ⟨⟨0x1000⟩, 16, 8, 8, .empty, some 3, [], #[], 0, false⟩
  have hfails : ((Job.write ⟨0x1007⟩ [1, 2]).perform.result s).1.toBool = false := by decide +kernel
  have hbytes : ((Job.write ⟨0x1007⟩ [1, 2]).perform.result s).2.state.memory.byteAt 7 = 1 ∧
      ((Job.write ⟨0x1007⟩ [1, 2]).perform.result s).2.state.memory.byteAt 8 = 0 := by decide +kernel
  cases hrun : (Job.write ⟨0x1007⟩ [1, 2]).perform s with
  | ok bytes t =>
    rw [Action.result_of_ok hrun] at hfails
    cases hfails
  | error e t =>
    rw [Action.result_of_error hrun] at hbytes
    obtain ⟨completed, failed, k, htraced, hk, -, hstored, -⟩ := Job.front_of_error hend
      FlatMemory.readsInFull (FlatMemory.guarded_faultyView ⟨0x1000⟩ 16 8 hend)
      (s := s) ⟨rfl, rfl, rfl⟩ _ (.inl (by decide)) hrun
    refine ⟨s, t, e, hrun, hbytes, completed, failed, k, htraced, hk, ?_⟩
    intro b hb
    refine ((hstored rfl).2 b hb).trans ?_
    change (if 0x1000 ≤ b then Memory.empty.byteAt (b - 0x1000) else 0) = 0
    simp

end TargetLink
