import TargetLink.Config
import TargetLink.Proofs.Placement

/-!
# What a request resolves to

The default size of DRAM is found in two places: where a request is filled in, and where the regions are
placed. `LinkRequest.placement` says in one step what becomes of the sizes, and a request that names a device
resolves as its sizes are placed. One that names no device is refused for that, unless DRAM is left to a window
that has no room for any: this fault is found first. A plan with its sizes spelled out resolves to itself.
-/

namespace TargetLink

open RegionMap (place placeDefault)

variable {size : Option UInt64}

theorem explicitSize?_eq_none_iff : explicitSize? size = none ↔ size = none ∨ size = some 0 := by
  cases size with
  | none => simp [explicitSize?]
  | some n => simp [explicitSize?, Option.filter]

theorem explicitSize?_eq_some_iff {n : UInt64} : explicitSize? size = some n ↔ size = some n ∧ n ≠ 0 := by
  rw [explicitSize?, Option.filter_eq_some_iff, decide_eq_true_eq]

/-- The size asked for, where nothing and zero both ask for another one. -/
def sizeOr (fallback : UInt64) : Option UInt64 → UInt64
  | none => fallback
  | some size => if size = 0 then fallback else size

theorem explicitSize?_getD (size : Option UInt64) (fallback : UInt64) :
    (explicitSize? size).getD fallback = sizeOr fallback size := by
  cases hsize : explicitSize? size with
  | none =>
    rcases explicitSize?_eq_none_iff.1 hsize with rfl | rfl <;> rfl
  | some n =>
    obtain ⟨rfl, hn⟩ := explicitSize?_eq_some_iff.1 hsize
    rw [sizeOr, if_neg hn, Option.getD_some]

namespace LinkRequest

variable {r : LinkRequest} {device : OsString} {plan : LinkPlan}

/-- The layout that the sizes of a request ask for: 1 GiB of window and as much DRAM as it holds, unless they
say otherwise. -/
def placement (r : LinkRequest) : Except LayoutError RegionMap :=
  let window := sizeOr 0x40000000 r.windowSize
  match r.dramSize with
  | none => placeDefault window
  | some size => if size = 0 then placeDefault window else place window size

/-- DRAM is left to the window, and the window does not even hold the reserved top. -/
def LacksRoom (r : LinkRequest) : Prop :=
  (r.dramSize = none ∨ r.dramSize = some 0) ∧ (sizeOr 0x40000000 r.windowSize).toNat < 0x4000

/-- The request with the sizes of a layout in place of its own. -/
def spelledOut (r : LinkRequest) (m : RegionMap) : LinkRequest :=
  { r with windowSize := some m.windowSize, dramSize := some m.dram.targetLen }

theorem effectiveWindowSize_eq (r : LinkRequest) :
    r.effectiveWindowSize = sizeOr 0x40000000 r.windowSize :=
  explicitSize?_getD _ _

theorem placement_eq_placeSized (r : LinkRequest) :
    r.placement = RegionMap.placeSized r.effectiveWindowSize (explicitSize? r.dramSize) := by
  rw [effectiveWindowSize_eq, placement]
  cases hsize : explicitSize? r.dramSize with
  | none => rcases explicitSize?_eq_none_iff.1 hsize with h | h <;> rw [h] <;> rfl
  | some n =>
    obtain ⟨h, hn⟩ := explicitSize?_eq_some_iff.1 hsize
    simp only [h, if_neg hn]
    rfl

/-- It makes no difference whether the default size of DRAM is filled in before the regions are placed or
meanwhile. -/
theorem effectiveDramSize_bind_place (r : LinkRequest) :
    r.effectiveDramSize.bind (place r.effectiveWindowSize) = r.placement := by
  rw [placement_eq_placeSized, effectiveDramSize]
  cases explicitSize? r.dramSize with
  | none =>
    change _ = placeDefault r.effectiveWindowSize
    rw [placeDefault]
    cases Layout.defaultDramSize? r.effectiveWindowSize <;> rfl
  | some n => rfl

theorem effectiveDramSize_cases (r : LinkRequest) :
    (r.LacksRoom ∧ r.effectiveDramSize = .error (.windowTooSmall r.effectiveWindowSize)) ∨
    (¬ r.LacksRoom ∧ ∃ size, r.effectiveDramSize = .ok size) := by
  unfold LacksRoom effectiveDramSize
  rw [← effectiveWindowSize_eq, ← explicitSize?_eq_none_iff]
  cases hsize : explicitSize? r.dramSize with
  | some n => exact .inr ⟨by simp, n, rfl⟩
  | none =>
    cases hroom : Layout.defaultDramSize? r.effectiveWindowSize with
    | none => exact .inl ⟨⟨rfl, Word.sub?_eq_none_iff.1 hroom⟩, rfl⟩
    | some n =>
      refine .inr ⟨fun h => ?_, n, rfl⟩
      have hnone : Layout.defaultDramSize? r.effectiveWindowSize = none := Word.sub?_eq_none_iff.2 h.2
      rw [hroom] at hnone
      cases hnone

/-! ## Resolving -/

theorem resolve_of_device (h : r.device = some device) : r.resolve =
    (r.placement.mapError .layout).map fun regions => ⟨device, regions, r.policy⟩ := by
  rw [← effectiveDramSize_bind_place, resolve]
  cases r.effectiveDramSize with
  | error cause => rfl
  | ok size =>
    simp only [h, Except.bind]
    cases place r.effectiveWindowSize size <;> rfl

/-- A request with a device fails only for its sizes. -/
theorem resolve_cases_of_device (h : r.device = some device) :
    (∃ m, r.placement = .ok m ∧ r.resolve = .ok ⟨device, m, r.policy⟩) ∨
    (∃ cause, r.placement = .error cause ∧ r.resolve = .error (.layout cause)) := by
  rw [resolve_of_device h]
  cases r.placement with
  | ok m => exact .inl ⟨m, rfl, rfl⟩
  | error cause => exact .inr ⟨cause, rfl, rfl⟩

theorem resolve_of_no_device (h : r.device = none) :
    (r.LacksRoom ∧ r.resolve = .error (.layout (.windowTooSmall r.effectiveWindowSize))) ∨
    (¬ r.LacksRoom ∧ r.resolve = .error .missingDevice) := by
  rcases r.effectiveDramSize_cases with ⟨hroom, hsize⟩ | ⟨hroom, size, hsize⟩
  · exact .inl ⟨hroom, by rw [resolve, hsize]⟩
  · exact .inr ⟨hroom, by rw [resolve, hsize, h]⟩

theorem resolve_eq_ok_iff : r.resolve = .ok plan ↔
    r.device = some plan.device ∧ r.placement = .ok plan.regions ∧ r.policy = plan.policy := by
  cases hdevice : r.device with
  | none =>
    rcases resolve_of_no_device hdevice with ⟨-, h⟩ | ⟨-, h⟩ <;> simp [h]
  | some device =>
    rcases resolve_cases_of_device hdevice with ⟨m, hplace, h⟩ | ⟨cause, hplace, h⟩
    · cases plan
      simp [h, hplace]
    · simp [h, hplace]

theorem resolve_eq_missingDevice_iff :
    r.resolve = .error .missingDevice ↔ r.device = none ∧ ¬ r.LacksRoom := by
  cases hdevice : r.device with
  | none =>
    rcases resolve_of_no_device hdevice with ⟨hroom, h⟩ | ⟨hroom, h⟩ <;> simp [h, hroom]
  | some device =>
    rcases resolve_cases_of_device hdevice with ⟨m, -, h⟩ | ⟨cause, -, h⟩ <;> simp [h]

/-- The sizes of a layout ask for this layout. -/
theorem placement_spelledOut (r : LinkRequest) (m : RegionMap) : (r.spelledOut m).placement = .ok m := by
  have hdram : m.dramSize ≠ 0 := fun h => by
    have hpos := m.dram_pos
    rw [h] at hpos
    exact absurd hpos (by decide)
  have hwindow : m.windowSize ≠ 0 := fun h => by
    have hfit := m.dramSize_add_le
    rw [h] at hfit
    exact absurd hfit (by simp)
  have hplace : place m.windowSize m.dramSize = .ok m := RegionMap.place_eq_ok_iff.2 ⟨rfl, rfl⟩
  simpa [placement, spelledOut, sizeOr, RegionMap.dram, hdram, hwindow] using hplace

/-- What becomes of a request. With a device its outcome is that of its sizes, with their error as it is. That
the device is missing is the error exactly if it is missing and the sizes are not found to lack room before. A
plan that was resolved is what its own sizes, spelled out, resolve to. -/
theorem resolve_outcome (r : LinkRequest) :
    (r.resolve = .error .missingDevice ↔ r.device = none ∧ ¬ r.LacksRoom) ∧
    (r.device = none → r.LacksRoom →
      r.resolve = .error (.layout (.windowTooSmall (sizeOr 0x40000000 r.windowSize)))) ∧
    (∀ device, r.device = some device → r.resolve =
      (r.placement.mapError .layout).map fun regions => ⟨device, regions, r.policy⟩) ∧
    (∀ plan, r.resolve = .ok plan → (r.spelledOut plan.regions).resolve = .ok plan) := by
  refine ⟨resolve_eq_missingDevice_iff, fun hdevice hroom => ?_, fun device => resolve_of_device,
    fun plan hplan => ?_⟩
  · rw [← effectiveWindowSize_eq]
    exact ((resolve_of_no_device hdevice).resolve_right fun h => h.1 hroom).2
  · obtain ⟨hdevice, -, hpolicy⟩ := resolve_eq_ok_iff.1 hplan
    exact resolve_eq_ok_iff.2 ⟨hdevice, placement_spelledOut r plan.regions, hpolicy⟩

/-- A request for 4 KiB of window and nothing else names no device, but is refused for the window. With some
DRAM asked for it is refused for the device. -/
theorem resolve_tiny_window_without_device :
    resolve { device := none, windowSize := some 0x1000, dramSize := none, policy := .strict } =
      .error (.layout (.windowTooSmall 0x1000)) ∧
    resolve { device := none, windowSize := some 0x1000, dramSize := some 0x1000, policy := .strict } =
      .error .missingDevice := by
  obtain ⟨-, htiny, -⟩ := resolve_outcome
    { device := none, windowSize := some 0x1000, dramSize := none, policy := .strict }
  obtain ⟨hmissing, -⟩ := resolve_outcome
    { device := none, windowSize := some 0x1000, dramSize := some 0x1000, policy := .strict }
  refine ⟨htiny rfl ⟨.inl rfl, by decide⟩, hmissing.2 ⟨rfl, ?_⟩⟩
  rintro ⟨hsize, -⟩
  exact absurd hsize (by decide)

end LinkRequest

end TargetLink
