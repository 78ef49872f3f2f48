import TargetLink.Proofs.Operation
import TargetLink.Proofs.Transfer.Kept
import TargetLink.Proofs.Transport.Split
import TargetLink.Proofs.Transport.Stores

/-!
# Histories of a transport

What stays true of a transport whatever the host does with it, and however much of that fails. The record
of the window accounts for every request that stored something, with a barrier behind each store, and the
first reset request succeeded while all others were refused.
-/

namespace TargetLink

/-! ## Traces -/

namespace Traced

/-- The request stored bytes. -/
def stored (call : Request × Option LinkError) : Bool :=
  call.2.isNone && !call.1.isRead

/-- What became of the reset requests, the oldest first. -/
def resetAnswers (calls : List (Request × Option LinkError)) : List (Option LinkError) :=
  (calls.filter fun call => call.1 = .reset).map Prod.snd

variable {calls : List (Request × Option LinkError)} {call : Request × Option LinkError}

theorem resetAnswers_append_of_ne (h : call.1 ≠ .reset) :
    resetAnswers (calls ++ [call]) = resetAnswers calls := by
  simp [resetAnswers, h]

theorem resetAnswers_append_reset (answer : Option LinkError) :
    resetAnswers (calls ++ [(.reset, answer)]) = resetAnswers calls ++ [answer] := by
  simp [resetAnswers]

end Traced

/-! ## The account -/

namespace Transport

open Traced (stored resetAnswers)

/-- What a transport and the requests made to it since it was `t₀` have to do with each other. -/
structure Account (t₀ : Transport RecordingWindow) (m : Traced (Transport RecordingWindow)) : Prop where
  fits : m.inner.Fits
  size_eq : m.inner.window.size = t₀.window.size
  saw : ∃ stores, t₀.window.Saw m.inner.window stores ∧ stores.length = m.calls.countP stored
  resets : (m.inner.resetIssued = false ∧ resetAnswers m.calls = []) ∨
    m.inner.resetIssued = true ∧ ∃ later,
      resetAnswers m.calls = none :: List.replicate later (some .resetAlreadyIssued)

variable {w : RecordingWindow} {t₀ t : Transport RecordingWindow}
  {calls : List (Request × Option LinkError)} {call : Request × Option LinkError}
  {kind : StoreKind} {o : WindowOffset} {bytes : List UInt8}

theorem account_start (hfits : t.Fits) (hreset : t.resetIssued = false) : Account t ⟨t, []⟩ where
  fits := hfits
  size_eq := rfl
  saw := ⟨[], RecordingWindow.saw_nil _, rfl⟩
  resets := .inl ⟨hreset, rfl⟩

namespace Account

/-- A request that left the transport alone. -/
theorem pass (h : Account t₀ ⟨t, calls⟩) (hcall : stored call = false) (hreset : call.1 ≠ .reset) :
    Account t₀ ⟨t, calls ++ [call]⟩ where
  fits := h.fits
  size_eq := h.size_eq
  saw := by simpa [List.countP_append, hcall] using h.saw
  resets := by
    rw [Traced.resetAnswers_append_of_ne hreset]
    exact h.resets

theorem saw_store (h : Account t₀ ⟨t, calls⟩) (hcall : stored call = true) :
    ∃ stores, t₀.window.Saw (t.window.fenced kind o bytes) stores ∧
      stores.length = (calls ++ [call]).countP stored := by
  obtain ⟨stores, hsaw, hlen⟩ := h.saw
  have hmore := hsaw.append (RecordingWindow.saw_fenced t.window kind o bytes)
  refine ⟨_, hmore, ?_⟩
  rw [List.length_append, hlen, List.countP_append, List.countP_singleton, if_pos hcall]
  rfl

/-- A request that made one store. -/
theorem store (h : Account t₀ ⟨t, calls⟩) (hcall : stored call = true) (hreset : call.1 ≠ .reset) :
    Account t₀ ⟨t.withWindow (t.window.fenced kind o bytes), calls ++ [call]⟩ where
  fits := h.fits
  size_eq := h.size_eq
  saw := h.saw_store hcall
  resets := by
    rw [Traced.resetAnswers_append_of_ne hreset]
    exact h.resets

/-- The reset request that started the target. -/
theorem start (h : Account t₀ ⟨t, calls⟩) (hreset : t.resetIssued = false) :
    Account t₀ ⟨{ t.withWindow (t.window.fenced kind o bytes) with resetIssued := true },
      calls ++ [(.reset, none)]⟩ where
  fits := h.fits
  size_eq := h.size_eq
  saw := h.saw_store rfl
  resets := by
    rcases h.resets with ⟨-, hnone⟩ | ⟨hissued, -⟩
    · refine .inr ⟨rfl, 0, ?_⟩
      rw [Traced.resetAnswers_append_reset, hnone]
      rfl
    · exact absurd hissued (by rw [hreset]; decide)

/-- A reset request after the target was started. -/
theorem restart (h : Account t₀ ⟨t, calls⟩) (hreset : t.resetIssued = true) :
    Account t₀ ⟨t, calls ++ [(.reset, some .resetAlreadyIssued)]⟩ where
  fits := h.fits
  size_eq := h.size_eq
  saw := by simpa [List.countP_append, stored] using h.saw
  resets := by
    rcases h.resets with ⟨hissued, -⟩ | ⟨-, later, hlater⟩
    · exact absurd hissued (by rw [hreset]; decide)
    · refine .inr ⟨hreset, later + 1, ?_⟩
      rw [Traced.resetAnswers_append_reset, hlater, List.replicate_succ']
      rfl

end Account

/-! ## Every request keeps the account -/

theorem account_read (addr : TargetAddr) (len : Nat) :
    Traced.Keeps (Account t₀) (.read addr len) (readChunk addr len) := by
  intro s calls h
  cases hres : s.state.translator.resolve addr len with
  | error e =>
    obtain ⟨log, hrun⟩ := readChunk_of_refused hres
    rw [hrun]
    exact h.pass rfl nofun
  | ok o =>
    obtain ⟨log, hrun⟩ := readChunk_of_resolve h.fits hres
    rw [hrun]
    exact h.pass rfl nofun

/-- A request that stores bytes where it resolves, and does nothing elsewhere. -/
theorem account_store {request : Request} {addr : TargetAddr} {len : Nat}
    {x : Action LinkError (Transport RecordingWindow) Unit} (hread : request.isRead = false)
    (hreset : request ≠ .reset)
    (hrefused : ∀ {s e}, s.state.translator.resolve addr len = .error e →
      ∃ log, x s = .error e ⟨s.state, log⟩)
    (hresolved : ∀ {s o}, s.state.Fits → s.state.translator.resolve addr len = .ok o →
      ∃ log, x s = .ok () ⟨s.state.withWindow (s.state.window.fenced kind o bytes), log⟩) :
    Traced.Keeps (Account t₀) request x := by
  intro s calls h
  cases hres : s.state.translator.resolve addr len with
  | error e =>
    obtain ⟨log, hrun⟩ := hrefused hres
    rw [hrun]
    exact h.pass rfl hreset
  | ok o =>
    obtain ⟨log, hrun⟩ := hresolved h.fits hres
    rw [hrun]
    exact h.store (by simp [stored, hread]) hreset

theorem account_write (addr : TargetAddr) (bytes : List UInt8) :
    Traced.Keeps (Account t₀) (.write addr bytes.length) (writeChunk addr bytes) :=
  account_store rfl nofun writeChunk_of_refused writeChunk_of_resolve

theorem account_clear (addr : TargetAddr) (len : Nat) :
    Traced.Keeps (Account t₀) (.clear addr len) (clearChunk addr len) :=
  account_store rfl nofun clearChunk_of_refused clearChunk_of_resolve

theorem account_reset : Traced.Keeps (Account t₀) .reset reset := by
  intro s calls h
  cases hissued : s.state.resetIssued with
  | true =>
    rw [reset_of_issued hissued]
    exact h.restart hissued
  | false =>
    obtain ⟨o, -, hres⟩ := resolve_msip h.fits
    obtain ⟨log, hrun⟩ := reset_of_resolve h.fits hissued hres
    rw [hrun]
    exact h.start hissued

/-- The account holds after every run. -/
theorem account_run (h : IsOver w t) (log : Array Event) (ops : List Operation) :
    Account t ⟨(Operation.run ops ⟨t, log⟩).state, Operation.calls ops ⟨t, log⟩⟩ := by
  obtain ⟨hfits, -, hreset⟩ := start_of_isOver h
  have hstart : Account t ⟨(Logged.mk t log).state, []⟩ := account_start hfits hreset
  exact Traced.run_keeps account_read account_write account_clear account_reset hstart ops

/-! ## What follows -/

/-- Whatever a host does with a transport, the target is started once. Of the reset requests the first one
succeeds and all others are refused, and the transport knows if there was one. While there was none, the
word of the interrupt has a place in the window, 8 KiB before its end, and a reset request makes one store
of four bytes there, with one barrier, and changes nothing else. From then on, it changes nothing at all.
This holds of the request at the end of a load too, which finds what a transfer of the image leaves. -/
theorem reset_once (h : IsOver w t) (log : Array Event) (ops : List Operation) :
    let s := Operation.run ops ⟨t, log⟩
    let answers := resetAnswers (Operation.calls ops ⟨t, log⟩)
    (∀ k (hk : k < answers.length), answers[k] = if k = 0 then none else some .resetAlreadyIssued) ∧
    (s.state.resetIssued = true ↔ none ∈ answers) ∧
    (answers = [] → ∃ o : WindowOffset, o.toNat + 0x2000 = w.size.toNat ∧
      s.state.translator.translate ⟨Layout.msipAddr⟩ = .ok o ∧
      ∀ log', ∃ memory log'', reset ⟨s.state, log'⟩ = .ok () ⟨{ s.state with
        window := { s.state.window with
          memory
          stores := s.state.window.stores.push ⟨.write, o, 4, s.state.window.barriers⟩
          barriers := s.state.window.barriers + 1 }
        resetIssued := true }, log''⟩ ∧
        (∀ i (hi : i < 4), memory.byteAt (o.toNat + i) = ([1, 0, 0, 0] : List UInt8)[i]) ∧
        ∀ j, ¬ (o.toNat ≤ j ∧ j < o.toNat + 4) →
          memory.byteAt j = s.state.window.memory.byteAt j) ∧
    (answers ≠ [] → ∀ log', reset ⟨s.state, log'⟩ =
      .error .resetAlreadyIssued ⟨s.state, log'⟩) := by
  intro s answers
  obtain ⟨-, hwindow, -⟩ := start_of_isOver h
  obtain ⟨hfits, hsize, -, hresets⟩ := account_run h log ops
  change (s.state.resetIssued = false ∧ answers = []) ∨ s.state.resetIssued = true ∧ ∃ later,
    answers = none :: List.replicate later (some .resetAlreadyIssued) at hresets
  rcases hresets with ⟨hissued, hnone⟩ | ⟨hissued, later, hlater⟩
  · rw [hnone, hissued]
    refine ⟨fun k hk => absurd hk (Nat.not_lt_zero k), by simp, ?_, fun hne => absurd rfl hne⟩
    intro _
    obtain ⟨o, hplace, hres⟩ := resolve_msip (t := s.state) hfits
    refine ⟨o, ?_, Translator.translate_of_resolve hres, ?_⟩
    · rw [← hwindow, ← hsize]
      exact hplace
    · intro log'
      obtain ⟨log'', hrun⟩ := reset_of_resolve (s := ⟨s.state, log'⟩) hfits hissued hres
      refine ⟨_, log'', hrun, fun i hi => ?_, fun j hj => ?_⟩
      · exact Memory.byteAt_write_add _ _ _ msipRaised hi
      · exact Memory.byteAt_write_of_not_mem _ _ _ msipRaised hj
  · rw [hlater, hissued]
    refine ⟨?_, by simp, fun hnil => (List.cons_ne_nil _ _ hnil).elim, ?_⟩
    · intro k hk
      cases k with
      | zero => rfl
      | succ k => simp
    · intro _ log'
      exact reset_of_issued (s := ⟨s.state, log'⟩) hissued

/-- An image for an address that no region claims, an image across the border of two chunks, which starts
the target, and one more reset request. -/
theorem reset_once_across_loads : ∃ t, IsOver (.ofSize 0x8000) t ∧
    let ops := [.load ⟨0x10⟩ [1], .load ⟨0x80000007⟩ [1, 2], .reset]
    let s := Operation.run ops ⟨t, #[]⟩
    resetAnswers (Operation.calls ops ⟨t, #[]⟩) = [none, some .resetAlreadyIssued] ∧
      s.state.resetIssued = true ∧
      ∀ log, reset ⟨s.state, log⟩ = .error .resetAlreadyIssued ⟨s.state, log⟩ := by
  obtain ⟨t, ht⟩ : ∃ t, ofWindow (RecordingWindow.ofSize 0x8000) none .strict = .ok t := ⟨_, rfl⟩
  have hover : IsOver (.ofSize 0x8000) t := .inl ⟨_, _, ht⟩
  refine ⟨t, hover, ?_⟩
  intro ops s
  have hanswers : resetAnswers (Operation.calls ops ⟨t, #[]⟩) =
      [none, some .resetAlreadyIssued] := by
    cases ht
    decide +kernel
  obtain ⟨-, hissued, -, hlater⟩ := reset_once hover #[] ops
  rw [hanswers] at hissued hlater
  exact ⟨hanswers, hissued.2 List.mem_cons_self, hlater (List.cons_ne_nil _ _)⟩

/-! ### Stores -/

theorem keeps_readChunk (hfits : t.Fits) (addr : TargetAddr) (len : Nat) :
    Action.Keeps (fun s => s.state = t) (readChunk addr len) := by
  rintro s rfl
  cases hres : s.state.translator.resolve addr len with
  | error e =>
    obtain ⟨log, hrun⟩ := readChunk_of_refused hres
    rw [hrun]
  | ok o =>
    obtain ⟨log, hrun⟩ := readChunk_of_resolve hfits hres
    rw [hrun]
    exact ⟨trivial, rfl⟩

theorem keeps_transferRead (hfits : t.Fits) (addr : TargetAddr) (len : Nat) :
    Action.Keeps (fun s => s.state = t) (Transfer.read addr len) := by
  refine keeps_read (g := Grain.ofMemory t) ?_ ?_
  · rintro s rfl
    rfl
  · intro p _
    exact keeps_readChunk hfits _ _

theorem chunk_of_error {s s' : Logged (Transport RecordingWindow)} {job : Job} {e : LinkError}
    (hfits : s.state.Fits) (herr : job.chunk s = .error e s') : s'.state = s.state := by
  have hperform : job.access.perform = job.chunk := by cases job <;> rfl
  rw [← hperform] at herr
  exact (isFlat hfits).failed _ _ _ herr

/-- Whatever a host does with a transport over a window that nothing was done to, there is one barrier
behind each store. The stores on record are those of the requests that succeeded and were no reads: a read
leaves the transport as it was, and so does a request that fails. -/
theorem stores_fenced (h : IsOver w t) (hstores : w.stores = #[]) (hbarriers : w.barriers = 0)
    (log : Array Event) (ops : List Operation) :
    let s := Operation.run ops ⟨t, log⟩
    let window := s.state.window
    window.barriers = window.stores.size ∧
    (∀ i (hi : i < window.stores.size), window.stores[i].barriersBefore = i) ∧
    window.stores.size = (Operation.calls ops ⟨t, log⟩).countP stored ∧
    (∀ addr len log', ((readChunk addr len).result ⟨s.state, log'⟩).2.state = s.state ∧
      ((Transfer.read addr len).result ⟨s.state, log'⟩).2.state = s.state) ∧
    (∀ (job : Job) e log' s', job.chunk ⟨s.state, log'⟩ = .error e s' → s'.state = s.state) ∧
    ∀ e log' s', reset ⟨s.state, log'⟩ = .error e s' → s'.state = s.state := by
  intro s window
  obtain ⟨-, hwindow, -⟩ := start_of_isOver h
  obtain ⟨hfits, -, ⟨stores, hsaw, hlen⟩, -⟩ := account_run h log ops
  change s.state.Fits at hfits
  change t.window.Saw window stores at hsaw
  rw [hwindow] at hsaw
  have hrecord : window.stores = stores.toArray := by
    have heq := hsaw.stores_eq
    rw [hstores] at heq
    exact Array.toList_inj.1 heq
  have hbehind : window.barriers = stores.length := by
    rw [hsaw.barriers_eq, hbarriers, Nat.zero_add]
  refine ⟨by rw [hrecord]; exact hbehind, ?_, by rw [hrecord]; exact hlen, ?_, ?_, ?_⟩
  · intro i hi
    have hin : i < stores.length := by rwa [hrecord] at hi
    have hbefore := hsaw.barriersBefore_eq i hin
    rw [hbarriers, Nat.zero_add] at hbefore
    simpa only [hrecord, List.getElem_toArray] using hbefore
  · intro addr len log'
    exact ⟨(keeps_readChunk hfits addr len).result rfl, (keeps_transferRead hfits addr len).result rfl⟩
  · intro job e log' s' herr
    exact chunk_of_error (s := ⟨s.state, log'⟩) hfits herr
  · intro e log' s' herr
    rw [reset_of_error (s := ⟨s.state, log'⟩) hfits herr]

/-- A clear that does not get past the boot ROM, a write of three bytes into a chunk, and the start. -/
theorem stores_fenced_across_failure : ∃ t, IsOver (.ofSize 0x8000) t ∧
    let ops := [.transfer (.clear ⟨0x2fff⟩ 2), .transfer (.write ⟨0x80000001⟩ [1, 2, 3]), .reset]
    let window := (Operation.run ops ⟨t, #[]⟩).state.window
    window.barriers = 3 ∧ window.stores.size = 3 ∧
      ∀ i (hi : i < window.stores.size), window.stores[i].barriersBefore = i := by
  obtain ⟨t, ht⟩ : ∃ t, ofWindow (RecordingWindow.ofSize 0x8000) none .strict = .ok t := ⟨_, rfl⟩
  have hover : IsOver (.ofSize 0x8000) t := .inl ⟨_, _, ht⟩
  refine ⟨t, hover, ?_⟩
  intro ops window
  obtain ⟨hbarriers, hbefore, hsize, -⟩ := stores_fenced hover rfl rfl #[] ops
  have hcount : (Operation.calls ops ⟨t, #[]⟩).countP stored = 3 := by
    cases ht
    decide +kernel
  rw [hcount] at hsize
  exact ⟨hbarriers.trans hsize, hsize, hbefore⟩

end Transport

end TargetLink
