import TargetLink.Proofs.ChunkMemory.Faithful
import TargetLink.Proofs.Transfer.Serving
import TargetLink.Proofs.Transport.TargetMemory

/-!
# A transport is faithful

It serves the ranges that lie in one slot. Until the target is started, its chunk requests are all that
happens to it.
-/

namespace TargetLink

theorem RegionMap.endsApart_serves (m : RegionMap) : EndsApart m.Serves where
  split := serves_add
  le_size h := Nat.le_of_lt (serves_lt h)
  ends h _ := serves_lt h

namespace Transport

/-- Transports with a given translator, before the target is started. -/
def view (translator : Translator) : View (Transport RecordingWindow) where
  align := Layout.chunkAlign
  sound t := t.Fits ∧ t.translator = translator ∧ t.resetIssued = false
  contents t a := (t.targetMemory a).getD 0

variable {translator : Translator} {t t' : Transport RecordingWindow}
  {s : Logged (Transport RecordingWindow)} {addr : TargetAddr} {start len : Nat}
  {bytes : List UInt8} {o : WindowOffset} {kind : StoreKind}

theorem contents_of_storedFrom (translator : Translator) (h : StoredFrom t t' start bytes) :
    (view translator).contents t' = ((view translator).contents t).write start bytes := by
  have hdefined : t.targetMemory.Defined start bytes.length := fun i hi => by
    obtain ⟨j, hj, -⟩ := h.inside i hi
    simp [targetMemory, hj]
  funext a
  simp only [view, targetMemory_of_storedFrom h, TargetMemory.store, Contents.write]
  by_cases hle : start ≤ a
  · rw [if_pos hle]
    by_cases hlt : a < start + bytes.length
    · rw [if_pos ⟨hdefined, hle, hlt⟩, List.getElem?_eq_getElem (show a - start < _ by omega)]
      rfl
    · rw [if_neg (fun h => hlt h.2.2), List.getElem?_eq_none (by omega)]
      rfl
  · rw [if_neg hle, if_neg (fun h => hle h.2.1)]

theorem read_of_resolve (translator : Translator) (h : t.translator.resolve addr len = .ok o) :
    t.window.memory.read o.toNat len = ((view translator).contents t).read addr.toNat len := by
  refine List.ext_getElem? fun i => ?_
  rw [Memory.getElem?_read, Contents.getElem?_read]
  split
  · next hi => simp [view, targetMemory, windowIndex?_of_resolve h hi]
  · rfl

/-- Whatever more is asked of the transports, they are faithful if stores leave it. -/
theorem faithful_of_stores {sound : Transport RecordingWindow → Prop}
    (hview : ∀ {t}, sound t → t.Fits ∧ t.translator = translator)
    (hstores : ∀ {t t' start bytes}, sound t → StoredFrom t t' start bytes → sound t') :
    View.Faithful ⟨Layout.chunkAlign, sound, (view translator).contents⟩
      translator.regions.Serves where
  chunkAlign_eq _ := rfl
  read {s addr len} hsound hlen h := by
    obtain ⟨hfits, rfl⟩ := hview hsound
    obtain ⟨k, hk⟩ := h
    obtain ⟨o, hres, -⟩ := Translator.resolve_of_covers hlen hk
    obtain ⟨log, hrun⟩ := readChunk_of_resolve hfits hres
    rw [read_of_resolve s.state.translator hres] at hrun
    exact ⟨_, hrun, hsound, rfl⟩
  read_refused {s addr len} hsound hlen h := by
    obtain ⟨-, rfl⟩ := hview hsound
    obtain ⟨e, hres⟩ := Translator.resolve_of_not_serves h
    obtain ⟨log, hrun⟩ := readChunk_of_refused hres
    exact ⟨e, _, hrun, hsound, rfl⟩
  write {s addr bytes} hsound hlen h := by
    obtain ⟨hfits, rfl⟩ := hview hsound
    obtain ⟨k, hk⟩ := h
    obtain ⟨o, hres, -⟩ := Translator.resolve_of_covers hlen hk
    obtain ⟨log, hrun⟩ := writeChunk_of_resolve hfits hres
    exact ⟨_, hrun, hstores hsound (storedFrom_fenced hres),
      contents_of_storedFrom s.state.translator (storedFrom_fenced hres)⟩
  write_refused {s addr bytes} hsound hlen h := by
    obtain ⟨-, rfl⟩ := hview hsound
    obtain ⟨e, hres⟩ := Translator.resolve_of_not_serves h
    obtain ⟨log, hrun⟩ := writeChunk_of_refused hres
    exact ⟨e, _, hrun, hsound, rfl⟩
  clear {s addr len} hsound hlen h := by
    obtain ⟨hfits, rfl⟩ := hview hsound
    obtain ⟨k, hk⟩ := h
    obtain ⟨o, hres, -⟩ := Translator.resolve_of_covers hlen hk
    obtain ⟨log, hrun⟩ := clearChunk_of_resolve hfits hres
    rw [← List.length_replicate (n := len) (a := (0 : UInt8))] at hres
    exact ⟨_, hrun, hstores hsound (storedFrom_fenced hres),
      contents_of_storedFrom s.state.translator (storedFrom_fenced hres)⟩
  clear_refused {s addr len} hsound hlen h := by
    obtain ⟨-, rfl⟩ := hview hsound
    obtain ⟨e, hres⟩ := Translator.resolve_of_not_serves h
    obtain ⟨log, hrun⟩ := clearChunk_of_refused hres
    exact ⟨e, _, hrun, hsound, rfl⟩

theorem fits_of_storedFrom (hfits : t.Fits) (h : StoredFrom t t' start bytes) : t'.Fits := by
  unfold Fits regions
  rw [h.size_eq, h.translator_eq]
  exact hfits

theorem faithful_view (translator : Translator) :
    (view translator).Faithful translator.regions.Serves := by
  refine faithful_of_stores ?_ ?_
  · rintro t ⟨hfits, htranslator, -⟩
    exact ⟨hfits, htranslator⟩
  · rintro t t' start bytes ⟨hfits, htranslator, hreset⟩ h
    exact ⟨fits_of_storedFrom hfits h, h.translator_eq.trans htranslator,
      h.resetIssued_eq.trans hreset⟩

/-! ## From a given transport on -/

/-- Transports that a given one can become by chunk requests. -/
def viewFrom (t₀ : Transport RecordingWindow) : View (Transport RecordingWindow) where
  align := Layout.chunkAlign
  sound t := t.Fits ∧ t.translator = t₀.translator ∧ t.resetIssued = t₀.resetIssued ∧
    ∀ j, (∀ a, t₀.regions.windowIndex? a ≠ some j) →
      t.window.memory.byteAt j = t₀.window.memory.byteAt j
  contents := (view t₀.translator).contents

theorem sound_viewFrom (hfits : t.Fits) : (viewFrom t).sound t :=
  ⟨hfits, rfl, rfl, fun _ _ => rfl⟩

theorem faithful_viewFrom (t₀ : Transport RecordingWindow) :
    (viewFrom t₀).Faithful t₀.regions.Serves := by
  refine faithful_of_stores ?_ ?_
  · rintro t ⟨hfits, htranslator, -⟩
    exact ⟨hfits, htranslator⟩
  · rintro t t' start bytes ⟨hfits, htranslator, hreset, hbytes⟩ h
    have hregions : t.regions = t₀.regions := congrArg Translator.regions htranslator
    refine ⟨fits_of_storedFrom hfits h, h.translator_eq.trans htranslator,
      h.resetIssued_eq.trans hreset, ?_⟩
    intro j hj
    have hsame := h.outside j fun i _ => by
      rw [hregions]
      exact hj _
    exact hsame.trans (hbytes j hj)

/-- The window of such a transport is known from the memory that the host sees. -/
theorem byteAt_of_contents {t₀ : Transport RecordingWindow} {c : Contents} (h : (viewFrom t₀).sound t)
    (hcontents : (viewFrom t₀).contents t = c) (j : Nat) :
    (∃ a, t₀.regions.windowIndex? a = some j ∧ t.window.memory.byteAt j = c a) ∨
      (∀ a, t₀.regions.windowIndex? a ≠ some j) ∧
        t.window.memory.byteAt j = t₀.window.memory.byteAt j := by
  obtain ⟨-, htranslator, -, hbytes⟩ := h
  by_cases hj : ∃ a, t₀.regions.windowIndex? a = some j
  · obtain ⟨a, ha⟩ := hj
    have hregions : t.regions = t₀.regions := congrArg Translator.regions htranslator
    refine .inl ⟨a, ha, ?_⟩
    rw [← hcontents]
    simp [viewFrom, view, targetMemory, hregions, ha]
  · have hno := not_exists.1 hj
    exact .inr ⟨hno, hbytes j hno⟩

/-- Bytes that are stored in the memory that the host sees are stored in the window, at the place that
their address resolves to. -/
theorem byteAt_of_write {t₀ : Transport RecordingWindow} (h : (viewFrom t₀).sound t)
    (hcontents : (viewFrom t₀).contents t = ((viewFrom t₀).contents t₀).write addr.toNat bytes)
    (hres : 0 < bytes.length → t₀.translator.resolve addr bytes.length = .ok o) (j : Nat) :
    t.window.memory.byteAt j = (t₀.window.memory.write o.toNat bytes).byteAt j := by
  have hindex : ∀ i < bytes.length, t₀.regions.windowIndex? (addr.toNat + i) = some (o.toNat + i) :=
    fun i hi => windowIndex?_of_resolve (hres (by omega)) hi
  by_cases hin : o.toNat ≤ j ∧ j < o.toNat + bytes.length
  · have hlt : j - o.toNat < bytes.length := by omega
    have hj := hindex (j - o.toNat) hlt
    rw [show o.toNat + (j - o.toNat) = j by omega] at hj
    rcases byteAt_of_contents h hcontents j with ⟨a, ha, hbyte⟩ | ⟨hno, -⟩
    · obtain rfl := RegionMap.windowIndex?_injective ha hj
      rw [hbyte, Contents.write_add hlt, Memory.byteAt_write, if_pos hin.1,
        List.getElem?_eq_getElem hlt, Option.getD_some]
    · exact absurd hj (hno _)
  · rw [Memory.byteAt_write_of_not_mem _ _ _ _ hin]
    rcases byteAt_of_contents h hcontents j with ⟨a, ha, hbyte⟩ | ⟨-, hbyte⟩
    · have hout : ¬ (addr.toNat ≤ a ∧ a < addr.toNat + bytes.length) := by
        rintro ⟨hle, hlt⟩
        have hj := hindex (a - addr.toNat) (by omega)
        rw [show addr.toNat + (a - addr.toNat) = a by omega, ha] at hj
        have hplace := Option.some.inj hj
        omega
      rw [hbyte, Contents.write_of_not_mem hout]
      simp [viewFrom, view, targetMemory, ha]
    · exact hbyte

end Transport

end TargetLink
