import TargetLink.Proofs.ChunkMemory.Flat
import TargetLink.Proofs.ChunkMemory.Steady

/-!
# Requests with the target's stores between them

The target runs while the host makes its requests, and stores bytes of its own into the memory that they
share. What both do is a list of moves. As the host's requests and the target's stores have the bytes that
they name for their effect, a byte is in the end what the last move that stored it left.
-/

namespace TargetLink

/-- A memory into which the target stores bytes on its own. -/
class SharedMemory (σ : Type) [ChunkMemory σ] where
  /-- The state after a byte was stored. Where the memory has no byte, nothing happens. -/
  poke : TargetAddr → UInt8 → σ → σ
  /-- What the target stores is nothing to the grain. -/
  sameGrain_poke : ∀ addr value m, SameGrain (poke addr value m) m

/-- What host or target do to a memory that they share. -/
inductive Move where
  /-- The host reads bytes. -/
  | read (addr : TargetAddr) (len : Nat)
  /-- The host stores bytes, which it clears if they are zeros. -/
  | store (addr : TargetAddr) (bytes : List UInt8)
  /-- The target stores a byte. -/
  | poke (addr : TargetAddr) (value : UInt8)

namespace Move

/-- What the target stores at an address. -/
def poked? (x : Nat) : Move → Option UInt8
  | .poke addr value => if addr.toNat = x then some value else none
  | _ => none

/-- What host or target stores at an address. -/
def stored? (x : Nat) : Move → Option UInt8
  | .store addr bytes => if addr.toNat ≤ x then bytes[x - addr.toNat]? else none
  | move => move.poked? x

/-- The last byte that the target stored at an address. -/
def lastPoked (x : Nat) (moves : List Move) : Option UInt8 :=
  (moves.filterMap (poked? x)).getLast?

/-- The last byte that was stored at an address. -/
def lastStored (x : Nat) (moves : List Move) : Option UInt8 :=
  (moves.filterMap (stored? x)).getLast?

/-- What the moves make of the bytes of a memory. -/
def outcome (c : Contents) (moves : List Move) : Contents := fun x =>
  (lastStored x moves).getD (c x)

/-- No store of the host is for the byte at `x`. -/
def Spares (x : Nat) (moves : List Move) : Prop :=
  ∀ addr bytes, .store addr bytes ∈ moves → ¬ (addr.toNat ≤ x ∧ x < addr.toNat + bytes.length)

/-- Only the target moves. -/
def OnlyPokes (moves : List Move) : Prop :=
  ∀ move ∈ moves, ∃ addr value, move = .poke addr value

variable {x : Nat} {moves before after : List Move} {addr : TargetAddr} {bytes : List UInt8}
  {c : Contents}

theorem lastPoked_append (x : Nat) (before after : List Move) :
    lastPoked x (before ++ after) = (lastPoked x after).or (lastPoked x before) := by
  rw [lastPoked, List.filterMap_append, List.getLast?_append]
  rfl

theorem lastPoked_read (x : Nat) (addr : TargetAddr) (len : Nat) (moves : List Move) :
    lastPoked x (.read addr len :: moves) = lastPoked x moves :=
  rfl

theorem lastPoked_store (x : Nat) (addr : TargetAddr) (bytes : List UInt8) (moves : List Move) :
    lastPoked x (.store addr bytes :: moves) = lastPoked x moves :=
  rfl

theorem lastStored_append (x : Nat) (before after : List Move) :
    lastStored x (before ++ after) = (lastStored x after).or (lastStored x before) := by
  rw [lastStored, List.filterMap_append, List.getLast?_append]
  rfl

theorem outcome_append (c : Contents) (before after : List Move) (x : Nat) :
    outcome c (before ++ after) x = outcome (outcome c before) after x := by
  rw [outcome, outcome, lastStored_append]
  cases lastStored x after <;> rfl

theorem outcome_store (c : Contents) (addr : TargetAddr) (bytes : List UInt8) :
    outcome c [.store addr bytes] = c.write addr.toNat bytes := by
  funext x
  unfold outcome lastStored Contents.write
  by_cases hle : addr.toNat ≤ x
  · rw [if_pos hle]
    cases hget : bytes[x - addr.toNat]? <;> simp [stored?, hle, hget]
  · simp [stored?, hle]

theorem outcome_poke (c : Contents) (addr : TargetAddr) (value : UInt8) (x : Nat) :
    outcome c [.poke addr value] x = if addr.toNat = x then value else c x := by
  unfold outcome lastStored
  by_cases heq : addr.toNat = x
  · simp [stored?, poked?, heq]
  · simp [stored?, poked?, heq]

theorem outcome_read (c : Contents) (addr : TargetAddr) (len : Nat) :
    outcome c [.read addr len] = c :=
  rfl

/-! ## Bytes that the host spares -/

theorem Spares.append (hbefore : Spares x before) (hafter : Spares x after) :
    Spares x (before ++ after) := by
  intro addr bytes hmem
  rcases List.mem_append.1 hmem with hmem | hmem
  · exact hbefore addr bytes hmem
  · exact hafter addr bytes hmem

theorem OnlyPokes.spares (h : OnlyPokes moves) (x : Nat) : Spares x moves := by
  intro addr bytes hmem
  obtain ⟨_, _, hpoke⟩ := h _ hmem
  cases hpoke

/-- Where the host spares a byte, the target's stores are all that counts. -/
theorem lastStored_of_spares (h : Spares x moves) : lastStored x moves = lastPoked x moves := by
  have hsame (move : Move) (hmem : move ∈ moves) : stored? x move = poked? x move := by
    cases move with
    | store addr bytes =>
      have hout := h addr bytes hmem
      simp only [stored?, poked?]
      split
      · exact List.getElem?_eq_none (by omega)
      · rfl
    | read addr len => rfl
    | poke addr value => rfl
  have hfilter : moves.filterMap (stored? x) = moves.filterMap (poked? x) := by
    clear h
    induction moves with
    | nil => rfl
    | cons move moves ih =>
      rw [List.forall_mem_cons] at hsame
      rw [List.filterMap_cons, List.filterMap_cons, hsame.1, ih hsame.2]
  rw [lastStored, hfilter, lastPoked]

theorem outcome_of_spares (h : Spares x moves) : outcome c moves x = (lastPoked x moves).getD (c x) := by
  rw [outcome, lastStored_of_spares h]

end Move

/-! ## A memory under which the target moves -/

/-- A chunk memory with what the target is going to store before each of the next requests, and with the moves
so far, the oldest first. -/
structure Interleaved (σ : Type) where
  inner : σ
  turns : List (List (TargetAddr × UInt8))
  moves : List Move

namespace Interleaved

variable {σ α : Type}

/-- A memory before the first move. -/
def start (s : Logged σ) (turns : List (List (TargetAddr × UInt8))) : Logged (Interleaved σ) :=
  ⟨⟨s.state, turns, []⟩, s.log⟩

section Instance

variable [ChunkMemory σ] [SharedMemory σ]

/-- The target takes its turn. -/
def turn (m : Interleaved σ) : Interleaved σ where
  inner := (m.turns.headD []).foldl (fun s p => SharedMemory.poke p.1 p.2 s) m.inner
  turns := m.turns.tail
  moves := m.moves ++ (m.turns.headD []).map fun p => .poke p.1 p.2

/-- The target takes its turn, and then the host makes a request, which is a move unless it fails. -/
def request (move : Option Move) (x : Action LinkError σ α) : Action LinkError (Interleaved σ) α :=
  fun s =>
    let m := s.state.turn
    match x ⟨m.inner, s.log⟩ with
    | .ok a u => .ok a ⟨{ m with inner := u.state, moves := m.moves ++ move.toList }, u.log⟩
    | .error e u => .error e ⟨{ m with inner := u.state }, u.log⟩

instance : ChunkMemory (Interleaved σ) where
  chunkAlign m := ChunkMemory.chunkAlign m.inner
  chunkMaxSize m := ChunkMemory.chunkMaxSize m.inner
  readChunk addr len := request (some (.read addr len)) (ChunkMemory.readChunk addr len)
  writeChunk addr bytes := request (some (.store addr bytes)) (ChunkMemory.writeChunk addr bytes)
  clearChunk addr len :=
    request (some (.store addr (List.replicate len 0))) (ChunkMemory.clearChunk addr len)
  reset := request none ChunkMemory.reset

theorem sameGrain_turn (m : Interleaved σ) : SameGrain m.turn.inner m.inner := by
  have hpokes (stores : List (TargetAddr × UInt8)) (inner : σ) :
      SameGrain (stores.foldl (fun s p => SharedMemory.poke p.1 p.2 s) inner) inner := by
    induction stores generalizing inner with
    | nil => exact .refl inner
    | cons p stores ih => exact (ih _).trans (SharedMemory.sameGrain_poke p.1 p.2 inner)
  exact hpokes _ _

theorem leavesGrain_request {x : Action LinkError σ α} (h : LeavesGrain x) (move : Option Move) :
    LeavesGrain (request move x) := by
  intro s
  have hsame := (h ⟨s.state.turn.inner, s.log⟩).trans (sameGrain_turn s.state)
  simp only [Action.result, request] at hsame ⊢
  cases hrun : x ⟨s.state.turn.inner, s.log⟩ <;> rw [hrun] at hsame <;>
    exact ⟨hsame.chunkAlign_eq, hsame.chunkMaxSize_eq⟩

instance [SteadyGrain σ] : SteadyGrain (Interleaved σ) where
  read addr len := leavesGrain_request (SteadyGrain.read addr len) _
  write addr bytes := leavesGrain_request (SteadyGrain.write addr bytes) _
  clear addr len := leavesGrain_request (SteadyGrain.clear addr len) _

theorem request_ok {move : Option Move} {x : Action LinkError σ α} {s t : Logged (Interleaved σ)}
    {a : α} (h : request move x s = .ok a t) : ∃ u, x ⟨s.state.turn.inner, s.log⟩ = .ok a u ∧
      t = ⟨⟨u.state, s.state.turn.turns, s.state.turn.moves ++ move.toList⟩, u.log⟩ := by
  unfold request at h
  cases hx : x ⟨s.state.turn.inner, s.log⟩ with
  | ok b u =>
    simp only [hx] at h
    cases h
    exact ⟨u, rfl, rfl⟩
  | error e u =>
    simp only [hx] at h
    cases h

end Instance

end Interleaved

/-- What the target stores is there for the host to see. -/
structure View.Shared [ChunkMemory σ] [SharedMemory σ] (v : View σ) (serves : Nat → Nat → Prop) : Prop where
  sound : ∀ {state : σ} (addr : TargetAddr) (value : UInt8), v.sound state →
    v.sound (SharedMemory.poke addr value state)
  contents : ∀ {state : σ} {x : Nat} (addr : TargetAddr) (value : UInt8), v.sound state →
    serves x 1 → v.contents (SharedMemory.poke addr value state) x =
      if addr.toNat = x then value else v.contents state x

namespace Interleaved

variable {σ α : Type} [ChunkMemory σ] [SharedMemory σ] {v : View σ} {serves : Nat → Nat → Prop} {c : Contents}
  {m : Interleaved σ} {s t : Logged (Interleaved σ)} {addr : TargetAddr} {len : Nat}
  {bytes : List UInt8}

/-- Each byte of the memory is what the moves made of the one in `c`. -/
structure Explained (v : View σ) (serves : Nat → Nat → Prop) (c : Contents) (m : Interleaved σ) :
    Prop where
  sound : v.sound m.inner
  contents : ∀ x, serves x 1 → v.contents m.inner x = Move.outcome c m.moves x

omit [ChunkMemory σ] [SharedMemory σ] in
theorem explained_start {s : Logged σ} (hsound : v.sound s.state)
    (turns : List (List (TargetAddr × UInt8))) :
    Explained v serves (v.contents s.state) (start s turns).state :=
  ⟨hsound, fun _ _ => rfl⟩

theorem Explained.poke (hshared : v.Shared serves) (h : Explained v serves c m) (addr : TargetAddr)
    (value : UInt8) : Explained v serves c
      ⟨SharedMemory.poke addr value m.inner, m.turns, m.moves ++ [.poke addr value]⟩ where
  sound := hshared.sound addr value h.sound
  contents x hx := by
    rw [hshared.contents addr value h.sound hx, h.contents x hx, Move.outcome_append,
      Move.outcome_poke]

/-- The moves explain the memory again after the target's turn. -/
theorem Explained.turn (hshared : v.Shared serves) (h : Explained v serves c m) :
    Explained v serves c m.turn ∧ ∃ pokes, Move.OnlyPokes pokes ∧ m.turn.moves = m.moves ++ pokes := by
  have hpokes {inner : σ} {moves : List Move} (turns : List (List (TargetAddr × UInt8)))
      (stores : List (TargetAddr × UInt8)) (hm : Explained v serves c ⟨inner, turns, moves⟩) :
      Explained v serves c ⟨stores.foldl (fun s p => SharedMemory.poke p.1 p.2 s) inner, turns,
        moves ++ stores.map fun p => .poke p.1 p.2⟩ := by
    induction stores generalizing inner moves with
    | nil => rwa [List.map_nil, List.append_nil]
    | cons p stores ih =>
      have hrest := ih (hm.poke hshared p.1 p.2)
      rwa [List.append_assoc] at hrest
  refine ⟨hpokes m.turns.tail (m.turns.headD []) ⟨h.sound, h.contents⟩, _, ?_, rfl⟩
  intro move hmem
  obtain ⟨p, -, rfl⟩ := List.mem_map.1 hmem
  exact ⟨p.1, p.2, rfl⟩

/-- A chunk that was read holds what the moves before had made of its bytes. -/
theorem Explained.readChunk_ok (hserving : Serving serves) (hguarded : v.Guarded serves)
    (hshared : v.Shared serves) (h : Explained v serves c s.state) (hlen : 0 < len)
    (hok : ChunkMemory.readChunk addr len s = .ok bytes t) : serves addr.toNat len ∧
      Explained v serves c t.state ∧ ∃ pokes, Move.OnlyPokes pokes ∧
        t.state.moves = s.state.moves ++ pokes ++ [.read addr len] ∧
        bytes = (Move.outcome c (s.state.moves ++ pokes)).read addr.toNat len := by
  obtain ⟨hturn, pokes, hpokes, hmoves⟩ := h.turn hshared
  obtain ⟨u, hrun, rfl⟩ := request_ok hok
  obtain ⟨hserves, rfl, hsound, hcontents⟩ := (hguarded.read hturn.sound hlen).of_ok hrun
  refine ⟨hserves, ⟨hsound, fun x hx => ?_⟩, pokes, hpokes, ?_, ?_⟩
  · rw [hcontents, Option.toList_some, Move.outcome_append, Move.outcome_read]
    exact hturn.contents x hx
  · rw [hmoves]
    rfl
  · refine List.map_congr_left fun i hi => ?_
    have hlt := List.mem_range.1 hi
    rw [← hmoves]
    exact hturn.contents _ (hserving.byte hserves (by omega) (by omega))

/-- The moves explain the memory again after the host stored bytes. -/
theorem Explained.store_ok (hshared : v.Shared serves) (h : Explained v serves c s.state)
    {x : Action LinkError σ Unit} (hx : ∀ {u : Logged σ}, v.sound u.state →
      v.Attempts (serves addr.toNat bytes.length) x u ()
        ((v.contents u.state).write addr.toNat bytes))
    (hok : request (some (.store addr bytes)) x s = .ok () t) : serves addr.toNat bytes.length ∧
      Explained v serves c t.state ∧ ∃ pokes, Move.OnlyPokes pokes ∧
        t.state.moves = s.state.moves ++ pokes ++ [.store addr bytes] := by
  obtain ⟨hturn, pokes, hpokes, hmoves⟩ := h.turn hshared
  obtain ⟨u, hrun, rfl⟩ := request_ok hok
  obtain ⟨hserves, -, hsound, hcontents⟩ := (hx hturn.sound).of_ok hrun
  refine ⟨hserves, ⟨hsound, fun y hy => ?_⟩, pokes, hpokes, ?_⟩
  · rw [hcontents, Option.toList_some, Move.outcome_append, Move.outcome_store]
    simp only [Contents.write]
    rw [hturn.contents y hy]
  · rw [hmoves]
    rfl

end Interleaved

/-! ## A flat memory -/

namespace FlatMemory

instance : SharedMemory FlatMemory where
  poke addr value m :=
    if m.index addr < m.size then { m with memory := m.memory.write (m.index addr) [value] } else m
  sameGrain_poke addr value m := by
    split <;> exact ⟨rfl, rfl⟩

theorem shared_faultyView (base : TargetAddr) (size align : Nat)
    (hend : base.toNat + size ≤ UInt64.size) :
    (faultyView base size align).Shared (Within base.toNat size) where
  sound {m} addr value hsound := by
    simp only [SharedMemory.poke]
    split <;> exact hsound
  contents {m x} addr value hsound hx := by
    obtain ⟨rfl, rfl, -⟩ := hsound
    obtain ⟨hle, hlt⟩ := hx
    have hindex := m.index_eq addr
    simp only [SharedMemory.poke, faultyView, view]
    by_cases hin : m.index addr < m.size
    · -- Below the base the index would be past the end of the memory.
      have hbase : m.base.toNat ≤ addr.toNat := by
        refine Nat.le_of_not_lt fun hbelow => ?_
        rw [if_neg (Nat.not_le_of_lt hbelow)] at hindex
        omega
      rw [if_pos hbase] at hindex
      rw [if_pos hin, if_pos hle, if_pos hle]
      by_cases heq : addr.toNat = x
      · have hbyte := Memory.byteAt_write_add m.memory (m.index addr) 0 [value] Nat.one_pos
        rw [if_pos heq, show x - m.base.toNat = m.index addr + 0 by omega, hbyte]
        rfl
      · rw [if_neg heq]
        exact Memory.byteAt_write_of_not_mem _ _ _ _ (by rw [List.length_singleton]; omega)
    · have hne : addr.toNat ≠ x := by
        rintro rfl
        rw [if_pos hle] at hindex
        omega
      rw [if_neg hin, if_neg hne]

end FlatMemory

end TargetLink
