import TargetLink.Proofs.Transfer.Requests
import TargetLink.Proofs.Transport.Chunk

/-!
# The stores of a write

What a write over a transport leaves on the record of the window: one store for each of its pieces, an
edge being written with the whole chunk around it, and one barrier behind each store.
-/

namespace TargetLink

/-- The stores copy bytes to the window offsets from `lo` to `hi`, one after the other. -/
inductive Fills : Nat → List Store → Nat → Prop where
  | done (lo : Nat) : Fills lo [] lo
  | next {store : Store} {stores : List Store} {hi : Nat} (kind : store.kind = .write)
      (pos : 0 < store.len) (rest : Fills (store.offset.toNat + store.len) stores hi) :
      Fills store.offset.toNat (store :: stores) hi

namespace RecordingWindow

/-- From `w` to `w'` the window saw these stores and no others, and one barrier right behind each. -/
structure Saw (w w' : RecordingWindow) (stores : List Store) : Prop where
  stores_eq : w'.stores.toList = w.stores.toList ++ stores
  barriersBefore_eq : ∀ i (h : i < stores.length), stores[i].barriersBefore = w.barriers + i
  barriers_eq : w'.barriers = w.barriers + stores.length

variable {w w' w'' : RecordingWindow} {xs ys : List Store}

theorem saw_nil (w : RecordingWindow) : w.Saw w [] where
  stores_eq := (List.append_nil _).symm
  barriersBefore_eq i h := absurd h (Nat.not_lt_zero i)
  barriers_eq := rfl

theorem Saw.append (h : w.Saw w' xs) (h' : w'.Saw w'' ys) : w.Saw w'' (xs ++ ys) where
  stores_eq := by rw [h'.stores_eq, h.stores_eq, List.append_assoc]
  barriersBefore_eq i hi := by
    rw [List.length_append] at hi
    by_cases hin : i < xs.length
    · rw [List.getElem_append_left hin, h.barriersBefore_eq i hin]
    · rw [List.getElem_append_right (by omega), h'.barriersBefore_eq _ (by omega), h.barriers_eq]
      omega
  barriers_eq := by
    rw [h'.barriers_eq, h.barriers_eq, List.length_append, Nat.add_assoc]

theorem saw_fenced (w : RecordingWindow) (kind : StoreKind) (o : WindowOffset) (bytes : List UInt8) :
    w.Saw (w.fenced kind o bytes) [⟨kind, o, bytes.length, w.barriers⟩] where
  stores_eq := Array.toList_push
  barriersBefore_eq i h := by
    obtain rfl : i = 0 := Nat.lt_one_iff.1 h
    rfl
  barriers_eq := rfl

end RecordingWindow

theorem Tiles.le {lo hi : Nat} {rs : List Request} (h : Tiles lo rs hi) : lo ≤ hi := by
  induction h with
  | done => exact Nat.le_refl _
  | next => omega

namespace Transport

variable {s t : Logged (Transport RecordingWindow)} {addr : TargetAddr} {len lo hi x : Nat}
  {bytes : List UInt8} {k : RegionKind} {g : Grain} {p : Piece} {ps : List Piece}

theorem readChunk_of_ok (hfits : s.state.Fits) (hrun : readChunk addr len s = .ok bytes t) :
    t.state = s.state ∧ bytes.length = len := by
  cases hres : s.state.translator.resolve addr len with
  | error e =>
    obtain ⟨log, herr⟩ := readChunk_of_refused hres
    rw [hrun] at herr
    cases herr
  | ok o =>
    obtain ⟨log, hok⟩ := readChunk_of_resolve hfits hres
    rw [hrun] at hok
    cases hok
    exact ⟨rfl, Memory.length_read _ _ _⟩

/-- A write request to a slot is a store as far into the window range of the slot. -/
theorem writeChunk_of_ok (hfits : s.state.Fits) (hlen : 0 < bytes.length)
    (hk : (s.state.regions.slot k).Covers addr.toNat bytes.length)
    (hrun : writeChunk addr bytes s = .ok () t) :
    ∃ o, t.state = s.state.withWindow (s.state.window.fenced .write o bytes) ∧
      o.toNat + (s.state.regions.slot k).target = (s.state.regions.slot k).window + addr.toNat := by
  obtain ⟨o, hres, hoff⟩ := Translator.resolve_of_covers hlen hk
  obtain ⟨log, hok⟩ := writeChunk_of_resolve hfits hres
  rw [hrun] at hok
  cases hok
  exact ⟨o, rfl, hoff⟩

/-- Writing a piece leaves one store, of all the chunks that the piece touches. -/
theorem writePart_of_ok (hfits : s.state.Fits) (hp : p.Proper g) (hlen : bytes.length = p.len)
    (hk : (s.state.regions.slot k).Covers p.start.toNat (p.extent g))
    (hrun : Transfer.writePart g p bytes s = .ok () t) :
    ∃ o chunk, chunk.length = p.extent g ∧
      t.state = s.state.withWindow (s.state.window.fenced .write o chunk) ∧
      o.toNat + (s.state.regions.slot k).target = (s.state.regions.slot k).window + p.start.toNat := by
  cases p with
  | edge base skip len =>
    obtain ⟨chunk, s', hread, hwrite⟩ := Action.bind_eq_ok hrun
    obtain ⟨hstate, hchunk⟩ := readChunk_of_ok hfits hread
    -- The read has no effect, and the write is for the whole chunk, with the bytes laid over it.
    have hfit : skip + bytes.length ≤ chunk.length := by
      rw [hlen, hchunk]
      exact hp
    have hoverlay : (overlay chunk skip bytes).length = g.align := by
      rw [length_overlay hfit, hchunk]
    obtain ⟨o, ht, hoff⟩ := writeChunk_of_ok (k := k) (s := s') (by rwa [hstate])
      (by rw [hoverlay]; exact g.align_pos) (by rw [hstate, hoverlay]; exact hk) hwrite
    rw [hstate] at ht hoff
    exact ⟨o, _, hoverlay, ht, hoff⟩
  | whole addr len =>
    cases hlen
    obtain ⟨o, ht, hoff⟩ := writeChunk_of_ok hfits hp hk hrun
    exact ⟨o, bytes, rfl, ht, hoff⟩

/-- Pieces whose chunks lie one after the other in a slot leave stores that do so in the window. -/
theorem writePieces_of_ok (hfits : s.state.Fits) (hproper : ∀ p ∈ ps, p.Proper g)
    (hlen : bytes.length = Piece.totalLen ps)
    (htiles : Tiles lo (ps.map fun p => .write p.start (p.extent g)) hi)
    (hlo : (s.state.regions.slot k).target ≤ lo)
    (hhi : hi ≤ (s.state.regions.slot k).target + (s.state.regions.slot k).len)
    (hx : x + (s.state.regions.slot k).target = (s.state.regions.slot k).window + lo)
    (hrun : Transfer.storePieces (Transfer.writePart g) ps bytes s = .ok () t) :
    ∃ stores, s.state.window.Saw t.state.window stores ∧ Fills x stores (x + (hi - lo)) ∧
      t.state.Fits ∧ t.state.translator = s.state.translator ∧
      t.state.resetIssued = s.state.resetIssued := by
  induction ps generalizing s lo bytes x with
  | nil =>
    cases hrun
    cases htiles
    rw [Nat.sub_self]
    exact ⟨[], RecordingWindow.saw_nil _, .done _, hfits, rfl, rfl⟩
  | cons p ps ih =>
    rw [List.forall_mem_cons] at hproper
    rw [Piece.totalLen] at hlen
    obtain ⟨_, s', hp, hrest⟩ := Action.bind_eq_ok hrun
    rw [List.map_cons] at htiles
    cases htiles with
    | next range pos tiles =>
      cases range
      have hle := tiles.le
      obtain ⟨o, chunk, hchunk, hstate, hoff⟩ := writePart_of_ok hfits hproper.1
        (List.length_take_of_le (by omega)) ⟨hlo, by omega⟩ hp
      obtain rfl : x = o.toNat := by omega
      have hwindow : s'.state.window = s.state.window.fenced .write o chunk := by rw [hstate]; rfl
      have hsaw := RecordingWindow.saw_fenced s.state.window .write o chunk
      rw [← hwindow] at hsaw
      have hregions : s'.state.regions = s.state.regions := by rw [hstate]; rfl
      -- The other pieces begin where the first one ends, and their stores where its store does.
      obtain ⟨stores, hstores, hfills, hfits', htranslator, hreset⟩ :=
        ih (s := s') (x := o.toNat + chunk.length) (by rw [hstate]; exact hfits) hproper.2
          (by rw [List.length_drop]; omega) tiles (by rw [hregions]; omega) (by rw [hregions]; omega)
          (by rw [hregions]; omega) hrest
      refine ⟨_, hsaw.append hstores, ?_, hfits', htranslator.trans (by rw [hstate]; rfl),
        hreset.trans (by rw [hstate]; rfl)⟩
      have hpos : 0 < chunk.length := by rwa [hchunk]
      let store : Store := ⟨.write, o, chunk.length, s.state.window.barriers⟩
      have hfirst : Fills o.toNat (store :: stores) _ := @Fills.next store _ _ rfl hpos hfills
      have hend : o.toNat + chunk.length + (hi - (p.start.toNat + p.extent g)) =
          o.toNat + (hi - p.start.toNat) := by omega
      rw [← hend]
      exact hfirst

end Transport

end TargetLink
