import TargetLink.Proofs.Transfer.Recorded

/-!
# The requests of a transfer

A transfer asks a chunk memory only for what the memory wants to be asked for, and for nothing twice:
its requests are whole chunks and follow one another from one end of its hull to the other. A chunk is
read before it is written only where the transfer starts or ends inside it.
-/

namespace TargetLink

namespace Request

/-- The request asks for bytes and stores none. -/
def isRead : Request → Bool
  | .read .. => true
  | _ => false

/-- The bytes that a request is for: the address of the first one and how many. -/
def range? : Request → Option (TargetAddr × Nat)
  | .read addr len => some (addr, len)
  | .write addr len => some (addr, len)
  | .clear addr len => some (addr, len)
  | .reset => none

/-- A chunk memory that asks for the alignment `a` and requests no longer than `max` takes the
request. -/
def Honours (a max : Nat) (r : Request) : Prop :=
  ∃ addr len, r.range? = some (addr, len) ∧ a ∣ addr.toNat ∧ a ∣ len ∧ 0 < len ∧ len ≤ max

end Request

/-- The requests are for the bytes from `lo` to `hi`, one after the other. -/
inductive Tiles : Nat → List Request → Nat → Prop where
  | done (lo : Nat) : Tiles lo [] lo
  | next {r : Request} {addr : TargetAddr} {len hi : Nat} {rs : List Request}
      (range : r.range? = some (addr, len)) (pos : 0 < len) (rest : Tiles (addr.toNat + len) rs hi) :
      Tiles addr.toNat (r :: rs) hi

/-! ## The chunks of the pieces -/

namespace Piece

/-- The piece is part of a chunk. -/
def isEdge : Piece → Bool
  | .edge .. => true
  | .whole .. => false

/-- The request that stores a piece at last. -/
def storeRequest (whole : TargetAddr → Nat → Request) (g : Grain) : Piece → Request
  | .edge base _ _ => .write base g.align
  | .whole addr len => whole addr len

end Piece

namespace Grain

variable {g : Grain} {lo hi skip len : Nat} {base : TargetAddr} {p : Piece} {ps : List Piece}

theorem Cut.extent_of_mem (h : Cut g lo ps hi) (hp : p ∈ ps) :
    g.align ∣ p.start.toNat ∧ g.align ∣ p.extent g ∧ 0 < p.extent g ∧ p.extent g ≤ g.bodyMax := by
  induction h with
  | done => cases hp
  | edge aligned _ _ _ _ _ ih =>
    rcases List.mem_cons.1 hp with rfl | hp
    · exact ⟨aligned, Nat.dvd_refl _, g.align_pos, Nat.le_max_right _ _⟩
    · exact ih hp
  | whole aligned chunks pos short _ ih =>
    rcases List.mem_cons.1 hp with rfl | hp
    · exact ⟨aligned, chunks, pos, short⟩
    · exact ih hp

/-- The chunks of the pieces follow one another from one end of the hull to the other. -/
theorem Cut.tiles {r : Piece → Request} (hr : ∀ p, (r p).range? = some (p.start, p.extent g))
    (h : Cut g lo ps hi) (hne : ps ≠ []) :
    Tiles (alignDown g.align lo) (ps.map r) (alignUp g.align hi) := by
  have hpos := g.align_pos
  induction h with
  | done => exact absurd rfl hne
  | @edge base skip len hi ps aligned pos fits partly last rest ih =>
    have hend : g.align ∣ base.toNat + g.align := Nat.dvd_add aligned (Nat.dvd_refl _)
    rw [alignDown_eq aligned (by omega) (by omega), List.map_cons]
    refine .next (hr _) hpos ?_
    change Tiles (base.toNat + g.align) _ _
    cases ps with
    | nil =>
      rw [rest.eq_of_nil, alignUp_eq hend (by omega) (by omega)]
      exact .done _
    | cons p ps =>
      have hfull : skip + len = g.align := last.resolve_left (List.cons_ne_nil _ _)
      have htiles := ih (List.cons_ne_nil _ _)
      rwa [show base.toNat + skip + len = base.toNat + g.align by omega,
        alignDown_of_dvd hpos hend] at htiles
  | @whole addr len hi ps aligned chunks pos short rest ih =>
    have hend : g.align ∣ addr.toNat + len := Nat.dvd_add aligned chunks
    rw [alignDown_of_dvd hpos aligned, List.map_cons]
    refine .next (hr _) pos ?_
    change Tiles (addr.toNat + len) _ _
    cases ps with
    | nil =>
      rw [rest.eq_of_nil, alignUp_of_dvd hpos hend]
      exact .done _
    | cons p ps =>
      have htiles := ih (List.cons_ne_nil _ _)
      rwa [alignDown_of_dvd hpos hend] at htiles

/-- A place inside a chunk is not a multiple of the alignment. -/
theorem not_dvd_of_inside {n : Nat} (hbase : g.align ∣ base.toNat)
    (h : base.toNat < n ∧ n < base.toNat + g.align) : ¬ g.align ∣ n := fun hn => by
  have heq := eq_of_dvd_of_near hbase hn (by omega) h.2
  omega

theorem skip_eq_zero (hbase : g.align ∣ base.toNat) (hdvd : g.align ∣ base.toNat + skip)
    (hlt : skip < g.align) : skip = 0 :=
  Nat.eq_zero_of_dvd_of_lt ((Nat.dvd_add_right hbase).1 hdvd) hlt

/-- An edge is part of the chunk where the transfer starts or of the one where it ends, and that chunk
goes beyond the transfer. -/
theorem Cut.edge_of_mem (h : Cut g lo ps hi) (hp : .edge base skip len ∈ ps) :
    (base.toNat < lo ∧ lo < base.toNat + g.align) ∨
      (base.toNat < hi ∧ hi < base.toNat + g.align) := by
  induction h with
  | done => cases hp
  | edge aligned pos fits partly last rest ih =>
    rcases List.mem_cons.1 hp with heq | hp
    · cases heq
      rcases Nat.eq_zero_or_pos skip with rfl | hskip
      · obtain rfl := last.resolve_right (by omega)
        have hhi := rest.eq_of_nil
        omega
      · omega
    · -- The pieces behind this one begin at the end of its chunk, which is inside no other.
      have hbase := (rest.extent_of_mem hp).1
      have hfull := last.resolve_left (List.ne_nil_of_mem hp)
      refine .inr ((ih hp).resolve_left fun hinside => not_dvd_of_inside hbase hinside ?_)
      rw [Nat.add_assoc, hfull]
      exact Nat.dvd_add aligned (Nat.dvd_refl _)
  | whole aligned chunks pos short rest ih =>
    rcases List.mem_cons.1 hp with heq | hp
    · cases heq
    · have hbase := (rest.extent_of_mem hp).1
      refine .inr ((ih hp).resolve_left fun hinside => not_dvd_of_inside hbase hinside ?_)
      exact Nat.dvd_add aligned chunks

theorem Cut.edges_le_one (h : Cut g lo ps hi) (hlo : g.align ∣ lo) : ps.countP Piece.isEdge ≤ 1 := by
  induction h with
  | done => exact Nat.zero_le _
  | edge aligned pos fits partly last rest ih =>
    obtain rfl := skip_eq_zero aligned hlo (by omega)
    obtain rfl := last.resolve_right (by omega)
    exact Nat.le_refl _
  | whole aligned chunks pos short rest ih =>
    rw [List.countP_cons_of_neg (by simp [Piece.isEdge])]
    exact ih (Nat.dvd_add aligned chunks)

theorem Cut.edges_le_two (h : Cut g lo ps hi) : ps.countP Piece.isEdge ≤ 2 := by
  cases h with
  | done => exact Nat.zero_le _
  | edge aligned pos fits partly last rest =>
    rw [List.countP_cons_of_pos (by rfl)]
    rcases last with rfl | hfull
    · exact Nat.le_succ _
    · have hone := rest.edges_le_one (by
        rw [Nat.add_assoc, hfull]
        exact Nat.dvd_add aligned (Nat.dvd_refl _))
      omega
  | whole aligned chunks pos short rest =>
    rw [List.countP_cons_of_neg (by simp [Piece.isEdge])]
    exact Nat.le_succ_of_le (rest.edges_le_one (Nat.dvd_add aligned chunks))

end Grain

/-! ## The requests of the pieces -/

namespace Piece

variable {whole : TargetAddr → Nat → Request} {g : Grain} {p : Piece} {ps : List Piece}
  {addr : TargetAddr} {len : Nat} {r : Request}

theorem range?_of_mem_storeRequests
    (hrange : ∀ addr len, (whole addr len).range? = some (addr, len))
    (hr : r ∈ p.storeRequests whole g) : r.range? = some (p.start, p.extent g) := by
  cases p with
  | edge base skip len =>
    simp only [storeRequests, List.mem_cons, List.not_mem_nil, or_false] at hr
    rcases hr with rfl | rfl <;> rfl
  | whole addr len =>
    obtain rfl := List.mem_singleton.1 hr
    exact hrange addr len

theorem range?_storeRequest (hrange : ∀ addr len, (whole addr len).range? = some (addr, len))
    (p : Piece) : (p.storeRequest whole g).range? = some (p.start, p.extent g) := by
  cases p with
  | edge => rfl
  | whole => exact hrange _ _

variable (hstore : ∀ addr len, (whole addr len).isRead = false)

include hstore

theorem filter_storeRequests (g : Grain) (ps : List Piece) :
    (ps.flatMap (storeRequests whole g)).filter (fun r => r.isRead = false) =
      ps.map (storeRequest whole g) := by
  induction ps with
  | nil => rfl
  | cons p ps ih =>
    rw [List.flatMap_cons, List.filter_append, ih, List.map_cons]
    cases p with
    | edge base skip len => rfl
    | whole addr len => simp [storeRequests, storeRequest, hstore]

theorem countP_storeRequests (g : Grain) (ps : List Piece) :
    (ps.flatMap (storeRequests whole g)).countP Request.isRead = ps.countP isEdge := by
  induction ps with
  | nil => rfl
  | cons p ps ih =>
    rw [List.flatMap_cons, List.countP_append, ih]
    cases p with
    | edge base skip len =>
      rw [List.countP_cons_of_pos (by rfl), Nat.add_comm]
      rfl
    | whole addr len =>
      rw [List.countP_cons_of_neg (by simp [isEdge]), storeRequests,
        List.countP_singleton, if_neg (by simp [hstore]), Nat.zero_add]

/-- A chunk that is read is the chunk of an edge, and is written next. -/
theorem write_next_of_read {i : Nat}
    (h : (ps.flatMap (storeRequests whole g))[i]? = some (.read addr len)) :
    len = g.align ∧ (∃ skip n, .edge addr skip n ∈ ps) ∧
      (ps.flatMap (storeRequests whole g))[i + 1]? = some (.write addr len) := by
  induction ps generalizing i with
  | nil => cases h
  | cons p ps ih =>
    rw [List.flatMap_cons] at h ⊢
    cases p with
    | edge base skip n =>
      rcases i with _ | _ | i
      · cases h
        exact ⟨rfl, ⟨skip, n, List.mem_cons_self⟩, rfl⟩
      · cases h
      · obtain ⟨hlen, ⟨skip', n', hmem⟩, hnext⟩ := ih h
        exact ⟨hlen, ⟨skip', n', List.mem_cons_of_mem _ hmem⟩, hnext⟩
    | whole base n =>
      rcases i with _ | i
      · have hread := congrArg Request.isRead (Option.some.inj h)
        rw [hstore] at hread
        cases hread
      · obtain ⟨hlen, ⟨skip', n', hmem⟩, hnext⟩ := ih h
        exact ⟨hlen, ⟨skip', n', List.mem_cons_of_mem _ hmem⟩, hnext⟩

end Piece

/-! ## Whole transfers -/

/-- A transfer and its data. -/
inductive Job where
  | read (addr : TargetAddr) (len : Nat)
  | write (addr : TargetAddr) (bytes : List UInt8)
  | clear (addr : TargetAddr) (len : Nat)

namespace Job

/-- The address of the first byte. -/
def addr : Job → TargetAddr
  | .read addr _ => addr
  | .write addr _ => addr
  | .clear addr _ => addr

/-- The number of bytes. -/
def len : Job → Nat
  | .read _ len => len
  | .write _ bytes => bytes.length
  | .clear _ len => len

/-- The bytes that are stored. -/
def stored : Job → List UInt8
  | .read .. => []
  | .write _ bytes => bytes
  | .clear _ len => List.replicate len 0

/-- Bytes are read and none are stored. -/
def isRead : Job → Bool
  | .read .. => true
  | _ => false

/-- The transfer; what is read, or nothing. -/
def perform {σ : Type} [ChunkMemory σ] : Job → Action LinkError σ (List UInt8)
  | .read addr len => Transfer.read addr len
  | .write addr bytes => do
    Transfer.write addr bytes
    return []
  | .clear addr len => do
    Transfer.clear addr len
    return []

/-- The requests that the transfer makes from a state. -/
def issued {σ : Type} [ChunkMemory σ] (job : Job) (s : Logged σ) : List Request :=
  (job.perform.result (Recorded.attach s [])).2.state.requests

/-- The request for some aligned chunks. -/
def whole : Job → TargetAddr → Nat → Request
  | .clear .. => .clear
  | _ => .write

/-- The requests that the transfer calls for. -/
def plan (g : Grain) (job : Job) : List Request :=
  if job.isRead then (g.pieces job.addr job.len).map (Piece.readRequest g)
  else (g.pieces job.addr job.len).flatMap (Piece.storeRequests job.whole g)

variable {σ : Type} [ChunkMemory σ] [SteadyGrain σ] {job : Job} {s : Logged σ} {g : Grain}

theorem length_stored (hread : job.isRead = false) : job.stored.length = job.len := by
  cases job with
  | read => cases hread
  | write => rfl
  | clear => exact List.length_replicate

theorem whole_isRead (job : Job) (addr : TargetAddr) (len : Nat) :
    (job.whole addr len).isRead = false := by
  cases job <;> rfl

theorem whole_range? (job : Job) (addr : TargetAddr) (len : Nat) :
    (job.whole addr len).range? = some (addr, len) := by
  cases job <;> rfl

theorem follows_perform (hfull : ReadsInFull σ) (job : Job) (s : Logged (Recorded σ)) :
    Recorded.Follows job.perform job.perform (job.plan (Grain.ofMemory s.state.inner)) s := by
  cases job with
  | read addr len =>
    exact (Recorded.follows_readPieces _ _ _).congr Transfer.read_eq Transfer.read_eq
  | write addr bytes =>
    have hpieces := Recorded.follows_storePieces (s := s) (fun p bytes s =>
      Recorded.follows_writePart hfull) (fun _ => Grain.proper_of_mem_pieces)
      (Grain.totalLen_pieces (Grain.ofMemory s.state.inner) addr bytes.length).symm
    rw [← List.append_nil (plan _ _)]
    exact (hpieces.congr Transfer.write_eq Transfer.write_eq).bind fun _ t _ =>
      Recorded.follows_pure _ _
  | clear addr len =>
    have hzeros := (List.length_replicate (n := len) (a := (0 : UInt8))).trans
      (Grain.totalLen_pieces (Grain.ofMemory s.state.inner) addr len).symm
    have hstore (p : Piece) (bytes : List UInt8) (t : Logged (Recorded σ))
        (hp : p.Proper (Grain.ofMemory s.state.inner)) (_ : bytes.length = p.len) :
        Recorded.Follows (Transfer.clearPiece (Grain.ofMemory s.state.inner) p)
          (Transfer.clearPiece (Grain.ofMemory s.state.inner) p)
          (p.storeRequests .clear (Grain.ofMemory s.state.inner)) t :=
      Recorded.follows_clearPiece hfull hp
    have hpieces := Recorded.follows_storePieces (s := s) hstore
      (fun _ => Grain.proper_of_mem_pieces) hzeros
    rw [← List.append_nil (plan _ _)]
    exact (hpieces.congr (Transfer.clear_eq _) (Transfer.clear_eq _)).bind fun _ t _ =>
      Recorded.follows_pure _ _

/-- The transfer makes all the requests that it calls for, or the first ones up to one that fails. -/
theorem issued_cases (hfull : ReadsInFull σ) (job : Job) (s : Logged σ) :
    (∃ bytes t, job.perform s = .ok bytes t ∧ job.issued s = job.plan (Grain.ofMemory s.state)) ∨
    ∃ e t, job.perform s = .error e t ∧
      job.issued s <+: job.plan (Grain.ofMemory s.state) := by
  rcases follows_perform hfull job (Recorded.attach s []) with
    ⟨bytes, t, hok, hrun⟩ | ⟨e, t, issued, hissued, herr, hrun⟩
  · refine .inl ⟨bytes, t, hok, ?_⟩
    rw [issued, Action.result_of_ok hrun]
    rfl
  · refine .inr ⟨e, t, herr, ?_⟩
    rw [Job.issued, Action.result_of_error hrun]
    exact hissued

theorem issued_begins_plan (hfull : ReadsInFull σ) (job : Job) (s : Logged σ) :
    job.issued s <+: job.plan (Grain.ofMemory s.state) := by
  rcases issued_cases hfull job s with ⟨_, _, -, heq⟩ | ⟨_, _, -, hbegins⟩
  · exact heq ▸ List.prefix_rfl
  · exact hbegins

variable {lo hi i len : Nat} {base : TargetAddr} {r : Request}

theorem plan_of_isRead (hread : job.isRead = true) :
    job.plan g = (g.pieces job.addr job.len).map (Piece.readRequest g) := by
  rw [plan, if_pos hread]

theorem plan_of_stores (hread : job.isRead = false) :
    job.plan g = (g.pieces job.addr job.len).flatMap (Piece.storeRequests job.whole g) := by
  rw [plan, hread]
  rfl

theorem honours_of_mem_plan (hcut : Grain.Cut g lo (g.pieces job.addr job.len) hi)
    (hmax : g.align ≤ g.maxSize) (hr : r ∈ job.plan g) : r.Honours g.align g.maxSize := by
  obtain ⟨p, hp, hrange⟩ : ∃ p ∈ g.pieces job.addr job.len,
      r.range? = some (p.start, p.extent g) := by
    cases hread : job.isRead with
    | true =>
      rw [plan_of_isRead hread] at hr
      obtain ⟨p, hp, rfl⟩ := List.mem_map.1 hr
      exact ⟨p, hp, rfl⟩
    | false =>
      rw [plan_of_stores hread] at hr
      obtain ⟨p, hp, hmem⟩ := List.mem_flatMap.1 hr
      exact ⟨p, hp, Piece.range?_of_mem_storeRequests job.whole_range? hmem⟩
  obtain ⟨hstart, hextent, hpos, hle⟩ := hcut.extent_of_mem hp
  exact ⟨_, _, hrange, hstart, hextent, hpos, Nat.le_trans hle (Grain.bodyMax_le hmax)⟩

theorem tiles_plan (hcut : Grain.Cut g lo (g.pieces job.addr job.len) hi) (hlen : 0 < job.len) :
    Tiles (alignDown g.align lo) ((job.plan g).filter fun r => r.isRead = job.isRead)
      (alignUp g.align hi) := by
  have hne : g.pieces job.addr job.len ≠ [] := fun hnil => by
    have hsum := g.totalLen_pieces job.addr job.len
    rw [hnil] at hsum
    exact absurd hsum (Nat.ne_of_lt hlen)
  cases hread : job.isRead with
  | true =>
    rw [plan_of_isRead hread, List.filter_eq_self.2 ?_]
    · exact hcut.tiles (fun _ => rfl) hne
    · intro r hr
      obtain ⟨p, -, rfl⟩ := List.mem_map.1 hr
      rfl
  | false =>
    rw [plan_of_stores hread, Piece.filter_storeRequests job.whole_isRead]
    exact hcut.tiles (Piece.range?_storeRequest job.whole_range?) hne

theorem countP_plan_le (hcut : Grain.Cut g lo (g.pieces job.addr job.len) hi)
    (hread : job.isRead = false) : (job.plan g).countP Request.isRead ≤ 2 := by
  rw [plan_of_stores hread, Piece.countP_storeRequests job.whole_isRead]
  exact hcut.edges_le_two

theorem read_of_plan (hcut : Grain.Cut g lo (g.pieces job.addr job.len) hi)
    (hread : job.isRead = false) (h : (job.plan g)[i]? = some (.read base len)) :
    len = g.align ∧ ((base.toNat < lo ∧ lo < base.toNat + g.align) ∨
      (base.toNat < hi ∧ hi < base.toNat + g.align)) ∧ g.align ∣ base.toNat ∧
      (job.plan g)[i + 1]? = some (.write base len) := by
  rw [plan_of_stores hread] at h ⊢
  obtain ⟨hlen, ⟨skip, n, hmem⟩, hnext⟩ := Piece.write_next_of_read job.whole_isRead h
  exact ⟨hlen, hcut.edge_of_mem hmem, (hcut.extent_of_mem hmem).1, hnext⟩

/-- The requests of a transfer whose hull stays inside the address space, with a memory that takes
requests of at least one chunk. All of them honour what the memory asks for, and there are none if
there is nothing to transfer. If the transfer succeeds, those that carry its bytes tile the hull. A
write or a clear reads a chunk only if it starts or ends inside the chunk, at most two chunks in all,
and goes on to write that chunk unless the read failed; if it is aligned it reads none. -/
theorem issued_of_hull (hfull : ReadsInFull σ) (job : Job) (s : Logged σ)
    (halign : 1 ≤ ChunkMemory.chunkAlign s.state)
    (hmax : ChunkMemory.chunkAlign s.state ≤ ChunkMemory.chunkMaxSize s.state)
    (hend : alignUp (ChunkMemory.chunkAlign s.state) (job.addr.toNat + job.len) ≤ UInt64.size) :
    let a := ChunkMemory.chunkAlign s.state
    let lo := job.addr.toNat
    let hi := lo + job.len
    (∀ r ∈ job.issued s, r.Honours a (ChunkMemory.chunkMaxSize s.state)) ∧
    (job.len = 0 → job.issued s = []) ∧
    (0 < job.len → (∃ bytes t, job.perform s = .ok bytes t) →
      Tiles (alignDown a lo) ((job.issued s).filter fun r => r.isRead = job.isRead)
        (alignUp a hi)) ∧
    (job.isRead = false →
      (job.issued s).countP Request.isRead ≤ 2 ∧
      (∀ (i : Nat) (base : TargetAddr) (len : Nat), (job.issued s)[i]? = some (.read base len) →
        len = a ∧ ((base.toNat < lo ∧ lo < base.toNat + a) ∨
          (base.toNat < hi ∧ hi < base.toNat + a)) ∧
        ((job.issued s)[i + 1]? = some (.write base len) ∨
          (job.issued s).length = i + 1 ∧ ∃ e t, job.perform s = .error e t)) ∧
      (a ∣ lo → a ∣ job.len → ∀ r ∈ job.issued s, r.isRead = false)) := by
  intro a lo hi
  have hgrain : (Grain.ofMemory s.state).align = a := Nat.max_eq_left halign
  have hmaxSize : (Grain.ofMemory s.state).align ≤ (Grain.ofMemory s.state).maxSize := by
    rw [hgrain]
    exact hmax
  have hcut : Grain.Cut (Grain.ofMemory s.state) lo
      ((Grain.ofMemory s.state).pieces job.addr job.len) hi :=
    Grain.cut_pieces (Nat.le_trans (le_alignUp halign _) hend)
  have hbegins := issued_begins_plan hfull job s
  have hplan : ∀ {i r}, (job.issued s)[i]? = some r →
      (job.plan (Grain.ofMemory s.state))[i]? = some r := fun {i r} hi => by
    obtain ⟨hlt, rfl⟩ := List.getElem?_eq_some_iff.1 hi
    exact List.prefix_iff_getElem?.1 hbegins i hlt
  rw [← hgrain]
  refine ⟨fun r hr => honours_of_mem_plan hcut hmaxSize (hbegins.mem hr), fun hlen => ?_,
    fun hlen ⟨bytes, t, hok⟩ => ?_, fun hread => ⟨?_, fun i base len hi => ?_, ?_⟩⟩
  · have hempty : job.plan (Grain.ofMemory s.state) = [] := by
      rw [plan, hlen, Grain.pieces_zero]
      exact ite_self _
    rw [hempty] at hbegins
    exact List.prefix_nil.1 hbegins
  · rcases issued_cases hfull job s with ⟨_, _, -, hissued⟩ | ⟨e, u, herr, -⟩
    · rw [hissued]
      exact tiles_plan hcut hlen
    · rw [hok] at herr
      cases herr
  · exact Nat.le_trans hbegins.countP_le (countP_plan_le hcut hread)
  · obtain ⟨hlen, hinside, -, hnext⟩ := read_of_plan hcut hread (hplan hi)
    refine ⟨hlen, hinside, ?_⟩
    rcases issued_cases hfull job s with ⟨_, _, -, hissued⟩ | ⟨e, u, herr, -⟩
    · exact .inl (by rw [hissued]; exact hnext)
    · -- The write comes next in the plan, so it is missing only if nothing came after the read.
      obtain ⟨hlt, -⟩ := List.getElem?_eq_some_iff.1 hi
      rcases Nat.eq_or_lt_of_le (Nat.succ_le_of_lt hlt) with hlast | hmore
      · exact .inr ⟨hlast.symm, e, u, herr⟩
      · refine .inl ?_
        have hsome := List.getElem?_eq_getElem hmore
        rw [← hnext, hplan hsome]
        exact hsome
  · intro hlo hdvd r hr
    cases r with
    | read base len =>
      obtain ⟨i, hi⟩ := List.mem_iff_getElem?.1 hr
      obtain ⟨-, hinside, hbase, -⟩ := read_of_plan hcut hread (hplan hi)
      rcases hinside with hinside | hinside
      · exact absurd hlo (Grain.not_dvd_of_inside hbase hinside)
      · exact absurd (Nat.dvd_add hlo hdvd) (Grain.not_dvd_of_inside hbase hinside)
    | _ => rfl

/-- Two bytes written across the border of two chunks take four requests. -/
theorem issued_across_border : ∃ s : Logged FlatMemory,
    (write ⟨0x1007⟩ [1, 2]).issued s = [.read ⟨0x1000⟩ 8, .write ⟨0x1000⟩ 8,
      .read ⟨0x1008⟩ 8, .write ⟨0x1008⟩ 8] ∧
    ∀ r ∈ (write ⟨0x1007⟩ [1, 2]).issued s, r.Honours 8 20 := by
  refine ⟨.start ⟨⟨0x1000⟩, 16, 8, 20, .empty, none, [], #[], 0, false⟩, by decide +kernel, ?_⟩
  exact (issued_of_hull FlatMemory.readsInFull _ _ (by decide) (by decide) (by decide)).1

end Job

end TargetLink
