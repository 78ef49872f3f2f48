import TargetLink.Proofs.Action
import TargetLink.Proofs.Window.Coupled
import TargetLink.Window.Device

/-!
# Device windows, from opening to closing

A store changes nothing of a device window but the bytes of its device. As long as the device has all bytes of
the mapping no access faults, and closing takes the mapping and the handle away, in this order.
-/

namespace TargetLink

namespace DeviceWindow

variable {w w' : DeviceWindow} {m : Mapping} {memory : Memory}

/-! ## Accesses -/

/-- Where the device has all bytes of the mapping, there is memory behind all of it. -/
theorem check_of_covered (hmapping : w.mapping = some m) (hle : m.size.toNat ≤ w.device.size)
    (offset : WindowOffset) (len : Nat) : w.check offset len = checkRange offset len m.size := by
  simp only [check, hmapping]
  cases hrange : checkRange offset len m.size with
  | error e => rfl
  | ok _ =>
    have hin := checkRange_eq_ok_iff.1 hrange
    have hreach := m.reach.le_bytes w.device.size
    rw [if_neg (by omega)]
    rfl

theorem close_eq (w : DeviceWindow) : w.close = { w with mapping := none, handle := none } := by
  obtain ⟨path, device, mapping, handle⟩ := w
  cases mapping <;> cases handle <;> rfl

end DeviceWindow

end TargetLink
