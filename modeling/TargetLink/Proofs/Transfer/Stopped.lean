import TargetLink.Proofs.ChunkMemory.Traced
import TargetLink.Proofs.Transfer.Front
import TargetLink.Proofs.Transfer.Guarded
import TargetLink.Proofs.Transfer.Requests

/-!
# The requests of a transfer that stopped

A transfer that fails stops at the piece whose request failed. Of its requests those of the pieces in
front of that one succeeded, and of the piece itself perhaps the one that read its chunk.
-/

namespace TargetLink

/-! ## From the record to the trace -/

namespace Recorded

variable {σ α : Type} {s t : Logged σ} {x : Action LinkError (Recorded σ) α}
  {y : Action LinkError σ α} {z : Action LinkError (Traced σ) α} {plan before : List Request} {a : α}
  {e : LinkError}

theorem attach_inj {u v : Logged σ} {rs rs' : List Request} (h : attach u rs = attach v rs') :
    u = v ∧ rs = rs' :=
  ⟨congrArg forget h, congrArg (fun m => m.state.requests) h⟩

/-- With a trace, an action that succeeds makes the requests of its plan, and all succeed. -/
theorem Follows.traced_of_ok (h : Follows x y plan (attach s before))
    (halike : Alike (Traced.SameSoFar before) (Traced.SameUpTo before) x z) (hok : y s = .ok a t) :
    z (Traced.attach s (Traced.succeeded before)) =
      .ok a (Traced.attach t (Traced.succeeded (before ++ plan))) := by
  rcases h with ⟨a', t', hy, hx⟩ | ⟨e, t', issued, -, hy, -⟩
  · obtain ⟨rfl, rfl⟩ : a' = a ∧ t' = t := by
      have heq : EStateM.Result.ok a' t' = EStateM.Result.ok a t := hy.symm.trans hok
      cases heq
      exact ⟨rfl, rfl⟩
    rcases halike _ _ (Traced.sameSoFar_attach s before) with
      ⟨b, s', z', hx', hz, u, requests, hs', rfl⟩ | ⟨e, s', z', hx', -⟩
    · rw [hx] at hx'
      cases hx'
      obtain ⟨rfl, heq⟩ := attach_inj hs'
      rw [hz, ← heq]
      rfl
    · rw [hx] at hx'
      cases hx'
  · have heq : EStateM.Result.error e t' = EStateM.Result.ok a t := hy.symm.trans hok
    cases heq

/-- With a trace, an action that fails makes requests from the front of its plan, and all succeed but
the last one, which fails with the same error. -/
theorem Follows.traced_of_error (h : Follows x y plan (attach s before))
    (halike : Alike (Traced.SameSoFar before) (Traced.SameUpTo before) x z)
    (herr : y s = .error e t) :
    ∃ completed failed, completed ++ [failed] <+: plan ∧
      z (Traced.attach s (Traced.succeeded before)) =
        .error e (Traced.attach t (Traced.succeeded (before ++ completed) ++ [(failed, some e)])) := by
  rcases h with ⟨a, t', hy, -⟩ | ⟨e', t', issued, hissued, hy, hx⟩
  · have heq : EStateM.Result.ok a t' = EStateM.Result.error e t := hy.symm.trans herr
    cases heq
  · obtain ⟨rfl, rfl⟩ : e' = e ∧ t' = t := by
      have heq : EStateM.Result.error e' t' = EStateM.Result.error e t := hy.symm.trans herr
      cases heq
      exact ⟨rfl, rfl⟩
    rcases halike _ _ (Traced.sameSoFar_attach s before) with
      ⟨b, s', z', hx', -⟩ | ⟨e, s', z', hx', hz, u, completed, failed, hs', rfl⟩
    · rw [hx] at hx'
      cases hx'
    · rw [hx] at hx'
      cases hx'
      obtain ⟨rfl, heq⟩ := attach_inj hs'
      rw [List.append_assoc] at heq
      refine ⟨completed, failed, ?_, hz⟩
      rw [← List.append_cancel_left heq]
      exact hissued

end Recorded

/-! ## Pieces -/

namespace Transfer

variable {σ : Type} {g : Grain} {p : Piece} {ps front back : List Piece} {bytes xs : List UInt8}
  {s t u : Logged σ} {e : LinkError}

/-- Where storing pieces stops: those in front are stored, and of the requests for the piece itself
the last one that was made failed. -/
theorem storePieces_stops {store : Piece → List UInt8 → Action LinkError (Recorded σ) Unit}
    {store' : Piece → List UInt8 → Action LinkError σ Unit}
    {store'' : Piece → List UInt8 → Action LinkError (Traced σ) Unit} {plan : Piece → List Request}
    (hstore : ∀ p bytes s, p.Proper g → bytes.length = p.len →
      Recorded.Follows (store p bytes) (store' p bytes) (plan p) s)
    (halike : ∀ before p bytes,
      Alike (Traced.SameSoFar before) (Traced.SameUpTo before) (store p bytes) (store'' p bytes))
    (hproper : ∀ p ∈ ps, p.Proper g) (hlen : bytes.length = Piece.totalLen ps)
    (herr : storePieces store' ps bytes s = .error e t) :
    ∃ front p back u completed failed, ps = front ++ p :: back ∧
      storePieces store' front bytes s = .ok () u ∧
      store' p ((bytes.drop (Piece.totalLen front)).take p.len) u = .error e t ∧
      completed ++ [failed] <+: plan p ∧
      storePieces store'' ps bytes (Traced.attach s []) = .error e (Traced.attach t
        (Traced.succeeded (front.flatMap plan ++ completed) ++ [(failed, some e)])) := by
  obtain ⟨front, p, back, u, rfl, hfront, hp⟩ := storePieces_of_error herr
  rw [List.forall_mem_append, List.forall_mem_cons] at hproper
  rw [Piece.totalLen_append, Piece.totalLen] at hlen
  have hfirst : (bytes.take (Piece.totalLen front)).length = Piece.totalLen front :=
    List.length_take_of_le (by omega)
  have hpart : ((bytes.drop (Piece.totalLen front)).take p.len).length = p.len :=
    Piece.length_part (by omega)
  have hfollows := Recorded.follows_storePieces (s := Recorded.attach s []) hstore hproper.1 hfirst
  rw [storePieces_take, storePieces_take] at hfollows
  have htraced : storePieces store'' front bytes (Traced.attach s []) =
      .ok () (Traced.attach u (Traced.succeeded (front.flatMap plan))) :=
    hfollows.traced_of_ok (alike_storePieces (halike []) front bytes) hfront
  obtain ⟨completed, failed, hbegins, hstops⟩ :=
    (hstore p _ _ hproper.2.1 hpart).traced_of_error (halike (front.flatMap plan) p _) hp
  refine ⟨front, p, back, u, completed, failed, rfl, hfront, hp, hbegins, ?_⟩
  simp only [storePieces_append, storePieces, Action.bind_apply, htraced, hstops]

theorem readPieces_stops [ChunkMemory σ] (herr : readPieces g ps s = .error e t) :
    ∃ front p back xs u, ps = front ++ p :: back ∧ readPieces g front s = .ok xs u ∧
      readPart g p u = .error e t ∧
      readPieces g ps (Traced.attach s []) = .error e (Traced.attach t
        (Traced.succeeded (front.map (Piece.readRequest g)) ++ [(p.readRequest g, some e)])) := by
  obtain ⟨front, p, back, xs, u, rfl, hfront, hp⟩ := readPieces_of_error herr
  refine ⟨front, p, back, xs, u, rfl, hfront, hp, ?_⟩
  have htraced : readPieces g front (Traced.attach s []) =
      .ok xs (Traced.attach u (Traced.succeeded (front.map (Piece.readRequest g)))) :=
    (Recorded.follows_readPieces g front (Recorded.attach s [])).traced_of_ok
      ((Traced.answerAlike []).readPieces g front) hfront
  obtain ⟨completed, failed, ⟨rest, hrest⟩, hstops⟩ :=
    (Recorded.follows_readPart g p (Recorded.attach u (front.map (Piece.readRequest g)))).traced_of_error
      ((Traced.answerAlike _).readPart g p) hp
  -- A piece is read by one request, so that one failed.
  obtain ⟨rfl, rfl⟩ : completed = [] ∧ failed = p.readRequest g := by
    cases completed with
    | nil =>
      cases hrest
      exact ⟨rfl, rfl⟩
    | cons r completed =>
      have hnil := (List.cons.inj hrest).2
      simp at hnil
  rw [List.append_nil] at hstops
  simp only [readPieces_append, readPieces, Action.bind_apply, htraced, hstops]

end Transfer

end TargetLink
