import TargetLink.Proofs.ChunkMemory.Faithful

/-!
# Guarded chunk memories

A guarded chunk memory may refuse any request, for whatever reason, but what it refuses changes nothing.
What it takes lies where the memory has bytes, and reads or stores exactly the bytes that it names. A
faithful memory is one that refuses only requests for bytes that it does not have.
-/

namespace TargetLink

namespace View

variable {σ α β : Type}

/-- From `s`, the action succeeds with `a` and leaves the contents `c`, which it does only where `p`
holds, or it fails and changes nothing. -/
def Attempts (v : View σ) (p : Prop) (x : Action LinkError σ α) (s : Logged σ) (a : α)
    (c : Contents) : Prop :=
  (p ∧ v.Returns x s a c) ∨ v.Refuses x s

/-- A chunk memory whose requests for some bytes do exactly what they say, or fail without effect,
whatever the reason. -/
structure Guarded [ChunkMemory σ] (v : View σ) (serves : Nat → Nat → Prop) : Prop where
  read : ∀ {s : Logged σ} {addr : TargetAddr} {len : Nat}, v.sound s.state → 0 < len →
    v.Attempts (serves addr.toNat len) (ChunkMemory.readChunk addr len) s
      ((v.contents s.state).read addr.toNat len) (v.contents s.state)
  write : ∀ {s : Logged σ} {addr : TargetAddr} {bytes : List UInt8}, v.sound s.state →
    0 < bytes.length → v.Attempts (serves addr.toNat bytes.length)
      (ChunkMemory.writeChunk addr bytes) s () ((v.contents s.state).write addr.toNat bytes)
  clear : ∀ {s : Logged σ} {addr : TargetAddr} {len : Nat}, v.sound s.state → 0 < len →
    v.Attempts (serves addr.toNat len) (ChunkMemory.clearChunk addr len) s ()
      ((v.contents s.state).write addr.toNat (List.replicate len 0))

variable {v : View σ} {p : Prop} {x : Action LinkError σ α} {f : α → Action LinkError σ β}
  {s t : Logged σ} {a : α} {c : Contents}

theorem Faithful.guarded [ChunkMemory σ] {serves : Nat → Nat → Prop} (h : v.Faithful serves) :
    v.Guarded serves where
  read {s addr len} hsound hlen := by
    rcases Classical.em (serves addr.toNat len) with hin | hout
    · exact .inl ⟨hin, h.read hsound hlen hin⟩
    · exact .inr (h.read_refused hsound hlen hout)
  write {s addr bytes} hsound hlen := by
    rcases Classical.em (serves addr.toNat bytes.length) with hin | hout
    · exact .inl ⟨hin, h.write hsound hlen hin⟩
    · exact .inr (h.write_refused hsound hlen hout)
  clear {s addr len} hsound hlen := by
    rcases Classical.em (serves addr.toNat len) with hin | hout
    · exact .inl ⟨hin, h.clear hsound hlen hin⟩
    · exact .inr (h.clear_refused hsound hlen hout)

/-! ## Attempts -/

theorem Attempts.of_ok {b : α} (h : v.Attempts p x s a c) (hok : x s = .ok b t) :
    p ∧ b = a ∧ v.sound t.state ∧ v.contents t.state = c := by
  rcases h with ⟨hp, t', hrun, hrest⟩ | ⟨e, t', hrun, -⟩
  · rw [hok] at hrun
    cases hrun
    exact ⟨hp, rfl, hrest⟩
  · rw [hok] at hrun
    cases hrun

theorem Attempts.of_error {e : LinkError} (h : v.Attempts p x s a c) (herr : x s = .error e t) :
    v.sound t.state ∧ v.contents t.state = v.contents s.state := by
  rcases h with ⟨-, t', hrun, -⟩ | ⟨e', t', hrun, hrest⟩
  · rw [herr] at hrun
    cases hrun
  · rw [herr] at hrun
    cases hrun
    exact hrest

/-- An attempt that changes nothing, and another one from there on, are one attempt. -/
theorem Attempts.bind {b : β} {d : Contents} (h : v.Attempts p x s a (v.contents s.state))
    (hf : ∀ s', v.sound s'.state → v.contents s'.state = v.contents s.state →
      v.Attempts True (f a) s' b d) : v.Attempts p (x >>= f) s b d := by
  rcases h with ⟨hp, s', hrun, hsound, hcontents⟩ | ⟨e, s', hrun, hrest⟩
  · have hbind : (x >>= f) s = f a s' := by rw [Action.bind_apply, hrun]
    rcases hf s' hsound hcontents with ⟨-, t, hrun', hrest⟩ | ⟨e, t, hrun', hsound', hcontents'⟩
    · exact .inl ⟨hp, t, hbind.trans hrun', hrest⟩
    · exact .inr ⟨e, t, hbind.trans hrun', hsound', hcontents'.trans hcontents⟩
  · exact .inr ⟨e, s', by rw [Action.bind_apply, hrun], hrest⟩

theorem Attempts.mono {q : Prop} (h : v.Attempts p x s a c) (hpq : p → q) : v.Attempts q x s a c := by
  rcases h with ⟨hp, hreturns⟩ | hrefuses
  · exact .inl ⟨hpq hp, hreturns⟩
  · exact .inr hrefuses

theorem attempts_pure (hsound : v.sound s.state) (a : α) :
    v.Attempts True (pure a) s a (v.contents s.state) :=
  .inl ⟨trivial, returns_pure hsound a⟩

end View

end TargetLink
