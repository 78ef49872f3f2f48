import TargetLink.Proofs.Transfer.Stuck

/-!
# Transfers are exact

With a faithful chunk memory a transfer reads or stores exactly its own bytes, also where it rewrites a
whole chunk for a part of it, and it succeeds exactly if its hull is served. These are the transfers with a
memory in which nothing is stuck.
-/

namespace TargetLink

namespace View

variable {σ : Type} [ChunkMemory σ] {v : View σ} {serves : Nat → Nat → Prop}
  {s s' : Logged σ} {addr : TargetAddr} {len : Nat} {bytes : List UInt8}

theorem Faithful.but (h : v.Faithful serves) : v.FaithfulBut (fun _ => none) serves :=
  (faithful_iff.1 h).1

theorem Faithful.refusesOutside (h : v.Faithful serves) : v.RefusesOutside serves :=
  (faithful_iff.1 h).2

theorem hullServed_iff (happart : EndsApart serves) (h : v.Faithful serves) (hsound : v.sound s.state)
    (hlen : 0 < len) : v.HullServed serves addr len ↔
      ∀ p ∈ (Grain.ofMemory s.state).pieces addr len,
        serves p.start.toNat (p.extent (Grain.ofMemory s.state)) :=
  hullServed_iff_pieces (h.chunkAlign_eq hsound) happart hlen

variable [SteadyGrain σ]

/-! ## Where the hull is served -/

theorem read_returns (hserving : Serving serves) (h : v.Faithful serves) (hsound : v.sound s.state)
    (hhull : v.HullServed serves addr len) : v.Returns (Transfer.read addr len) s
      ((v.contents s.state).read addr.toNat len) (v.contents s.state) :=
  h.but.transferRead hserving hsound hhull

theorem write_returns (hserving : Serving serves) (h : v.Faithful serves) (hsound : v.sound s.state)
    (hhull : v.HullServed serves addr bytes.length) :
    v.Returns (Transfer.write addr bytes) s () ((v.contents s.state).write addr.toNat bytes) :=
  h.but.transferWrite hserving hsound hhull

theorem clear_returns (hserving : Serving serves) (h : v.Faithful serves) (hsound : v.sound s.state)
    (hhull : v.HullServed serves addr len) : v.Returns (Transfer.clear addr len) s ()
      ((v.contents s.state).write addr.toNat (List.replicate len 0)) :=
  h.but.transferClear hserving hsound hhull

/-! ## Where it is not -/

theorem read_fails (happart : EndsApart serves) (h : v.Faithful serves) (hsound : v.sound s.state)
    (hlen : 0 < len) (hhull : ¬ v.HullServed serves addr len) :
    v.Fails (Transfer.read addr len) s :=
  h.refusesOutside.transferRead h.but hsound fun hpieces =>
    hhull ((hullServed_iff happart h hsound hlen).2 hpieces)

theorem write_fails (happart : EndsApart serves) (h : v.Faithful serves) (hsound : v.sound s.state)
    (hlen : 0 < bytes.length) (hhull : ¬ v.HullServed serves addr bytes.length) :
    v.Fails (Transfer.write addr bytes) s :=
  h.refusesOutside.transferWrite h.but hsound fun hpieces =>
    hhull ((hullServed_iff happart h hsound hlen).2 hpieces)

theorem clear_fails (happart : EndsApart serves) (h : v.Faithful serves) (hsound : v.sound s.state)
    (hlen : 0 < len) (hhull : ¬ v.HullServed serves addr len) :
    v.Fails (Transfer.clear addr len) s :=
  h.refusesOutside.transferClear h.but hsound fun hpieces =>
    hhull ((hullServed_iff happart h hsound hlen).2 hpieces)

/-- A write that succeeds has stored its bytes and changed no others. -/
theorem write_of_ok (happart : EndsApart serves) (h : v.Faithful serves) (hsound : v.sound s.state)
    (hok : Transfer.write addr bytes s = .ok () s') :
    v.sound s'.state ∧ v.contents s'.state = (v.contents s.state).write addr.toNat bytes := by
  rcases Nat.eq_zero_or_pos bytes.length with hnil | hlen
  · obtain rfl := List.eq_nil_of_length_eq_zero hnil
    rw [Transfer.write_nil] at hok
    cases hok
    exact ⟨hsound, (Contents.write_nil _ _).symm⟩
  · exact (of_ok (write_returns happart.toServing h hsound) (write_fails happart h hsound hlen) hok).2

end View

end TargetLink
