import TargetLink.ChunkMemory.Basic
import TargetLink.Proofs.Action
import TargetLink.Proofs.Contents

/-!
# Faithful chunk memories

A chunk memory is faithful if each of its requests reads or stores exactly the bytes that it names, or
fails and changes nothing. Which requests succeed, and what its states hold, is up to the memory.
-/

namespace TargetLink

/-- What there is to see of a chunk memory. -/
structure View (σ : Type) where
  /-- The alignment that the memory asks for. -/
  align : Nat
  /-- The states that are of interest. -/
  sound : σ → Prop
  contents : σ → Contents

namespace View

variable {σ α β : Type}

/-- From `s`, the action succeeds with `a` and leaves the contents `c`. -/
def Returns (v : View σ) (x : Action LinkError σ α) (s : Logged σ) (a : α) (c : Contents) : Prop :=
  ∃ s', x s = .ok a s' ∧ v.sound s'.state ∧ v.contents s'.state = c

/-- From `s`, the action fails. -/
def Fails (v : View σ) (x : Action LinkError σ α) (s : Logged σ) : Prop :=
  ∃ e s', x s = .error e s' ∧ v.sound s'.state

/-- From `s`, the action fails and changes nothing. -/
def Refuses (v : View σ) (x : Action LinkError σ α) (s : Logged σ) : Prop :=
  ∃ e s', x s = .error e s' ∧ v.sound s'.state ∧ v.contents s'.state = v.contents s.state

/-- A chunk memory whose requests for some bytes do exactly what they say, or fail without effect. -/
structure Faithful [ChunkMemory σ] (v : View σ) (serves : Nat → Nat → Prop) : Prop where
  chunkAlign_eq : ∀ {state : σ}, v.sound state → ChunkMemory.chunkAlign state = v.align
  read : ∀ {s : Logged σ} {addr : TargetAddr} {len : Nat}, v.sound s.state → 0 < len →
    serves addr.toNat len → v.Returns (ChunkMemory.readChunk addr len) s
      ((v.contents s.state).read addr.toNat len) (v.contents s.state)
  read_refused : ∀ {s : Logged σ} {addr : TargetAddr} {len : Nat}, v.sound s.state → 0 < len →
    ¬ serves addr.toNat len → v.Refuses (ChunkMemory.readChunk addr len) s
  write : ∀ {s : Logged σ} {addr : TargetAddr} {bytes : List UInt8}, v.sound s.state →
    0 < bytes.length → serves addr.toNat bytes.length →
      v.Returns (ChunkMemory.writeChunk addr bytes) s ()
        ((v.contents s.state).write addr.toNat bytes)
  write_refused : ∀ {s : Logged σ} {addr : TargetAddr} {bytes : List UInt8}, v.sound s.state →
    0 < bytes.length → ¬ serves addr.toNat bytes.length →
      v.Refuses (ChunkMemory.writeChunk addr bytes) s
  clear : ∀ {s : Logged σ} {addr : TargetAddr} {len : Nat}, v.sound s.state → 0 < len →
    serves addr.toNat len → v.Returns (ChunkMemory.clearChunk addr len) s ()
      ((v.contents s.state).write addr.toNat (List.replicate len 0))
  clear_refused : ∀ {s : Logged σ} {addr : TargetAddr} {len : Nat}, v.sound s.state → 0 < len →
    ¬ serves addr.toNat len → v.Refuses (ChunkMemory.clearChunk addr len) s

variable {v : View σ} {x : Action LinkError σ α} {f : α → Action LinkError σ β} {s : Logged σ}
  {a : α} {c : Contents}

/-! ## Sequences -/

theorem Refuses.fails (h : v.Refuses x s) : v.Fails x s := by
  obtain ⟨e, s', hrun, hsound, -⟩ := h
  exact ⟨e, s', hrun, hsound⟩

/-- What follows an action that returns starts from a sound state with the contents left. -/
theorem Returns.bind {b : β} {d : Contents} (h : v.Returns x s a c)
    (hf : ∀ s', v.sound s'.state → v.contents s'.state = c → v.Returns (f a) s' b d) :
    v.Returns (x >>= f) s b d := by
  obtain ⟨s', hrun, hsound, hcontents⟩ := h
  obtain ⟨t, hrun', hrest⟩ := hf s' hsound hcontents
  exact ⟨t, by rw [Action.bind_apply, hrun]; exact hrun', hrest⟩

theorem Returns.bind_fails (h : v.Returns x s a c)
    (hf : ∀ s', v.sound s'.state → v.contents s'.state = c → v.Fails (f a) s') :
    v.Fails (x >>= f) s := by
  obtain ⟨s', hrun, hsound, hcontents⟩ := h
  obtain ⟨e, t, hrun', hrest⟩ := hf s' hsound hcontents
  exact ⟨e, t, by rw [Action.bind_apply, hrun]; exact hrun', hrest⟩

theorem Fails.bind (h : v.Fails x s) : v.Fails (x >>= f) s := by
  obtain ⟨e, s', hrun, hsound⟩ := h
  exact ⟨e, s', by rw [Action.bind_apply, hrun], hsound⟩

theorem returns_pure (hsound : v.sound s.state) (a : α) :
    v.Returns (pure a) s a (v.contents s.state) :=
  ⟨s, rfl, hsound, rfl⟩

/-- An action that returns where it should and fails elsewhere succeeds exactly where it should. -/
theorem ok_iff {p : Prop} (hreturns : p → v.Returns x s a c) (hfails : ¬ p → v.Fails x s) :
    (∃ b s', x s = .ok b s') ↔ p := by
  constructor
  · rintro ⟨b, s', hok⟩
    rcases Classical.em p with hp | hno
    · exact hp
    · obtain ⟨e, t, herr, -⟩ := hfails hno
      rw [hok] at herr
      cases herr
  · intro hp
    obtain ⟨s', hok, -⟩ := hreturns hp
    exact ⟨a, s', hok⟩

/-- An action that fails elsewhere has done what it should where it succeeds. -/
theorem of_ok {p : Prop} {b : α} {s' : Logged σ} (hreturns : p → v.Returns x s a c)
    (hfails : ¬ p → v.Fails x s) (hok : x s = .ok b s') :
    b = a ∧ v.sound s'.state ∧ v.contents s'.state = c := by
  obtain ⟨t, hrun, hrest⟩ := hreturns ((ok_iff hreturns hfails).1 ⟨b, s', hok⟩)
  rw [hok] at hrun
  cases hrun
  exact ⟨rfl, hrest⟩

end View

end TargetLink
