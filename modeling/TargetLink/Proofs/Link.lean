import TargetLink.Link
import TargetLink.Proofs.Action

/-!
# How a link is set up

Each step of the setup either goes on or ends with an error of its own and no device in hand. A window
that is mapped has the size that the regions were placed for.
-/

namespace TargetLink

variable {σ : Type} {host : Host} {path : OsString} {size : UInt64} {w : DeviceWindow} {id : FileId}
  {device : FileData} {request : LinkRequest} {plan : LinkPlan} {s s' : Logged σ}

theorem Host.file_of_openFile (h : host.openFile path = .ok id) : host.file path = .ok (host.contents id) := by
  rw [file, h]
  rfl

/-- A window that was just opened: it has the file at its path, and the first bytes of it are mapped. -/
structure DeviceWindow.Opened (host : Host) (path : OsString) (size : UInt64) (id : FileId)
    (w : DeviceWindow) : Prop where
  openFile_eq : host.openFile path = .ok id
  path_eq : w.path = path
  device_eq : w.device = host.contents id
  mapping_eq : ∃ reach, host.map id size = .ok reach ∧ w.mapping = some ⟨size, reach⟩
  handle_eq : w.handle = some id

/-- Why a device cannot be had as a window. -/
inductive DeviceWindow.Refused (host : Host) (path : OsString) (size : UInt64) : WindowError → Prop where
  | notOpened {cause : OsError} (hopen : host.openFile path = .error cause) :
    Refused host path size (.deviceOpen path cause)
  | empty {id : FileId} (hopen : host.openFile path = .ok id) (hsize : size = 0) :
    Refused host path size (.mapping path size .emptyMapping)
  | notMapped {id : FileId} {cause : OsError} (hopen : host.openFile path = .ok id)
    (hmap : host.map id size = .error cause) : Refused host path size (.mapping path size cause)

namespace Link

/-- Either there is no window, and nothing was reported, or the device is there and its first bytes are
mapped. -/
theorem openWindow_cases (host : Host) (path : OsString) (size : UInt64) (s : Logged σ) :
    (∃ e, DeviceWindow.Refused host path size e ∧ openWindow host path size s = .error e s) ∨
    ∃ id w, w.Opened host path size id ∧ openWindow host path size s =
      .ok w { s with log := s.log.push (.windowMapped path size) } := by
  cases hopen : host.openFile path with
  | error cause =>
    refine .inl ⟨_, .notOpened hopen, ?_⟩
    simp only [openWindow, hopen, Action.bind_apply, Action.ofExcept_mapError_error_apply]
  | ok id =>
    by_cases hzero : size = 0
    · refine .inl ⟨_, .empty hopen hzero, ?_⟩
      simp only [openWindow, hopen, Action.bind_apply, Action.ofExcept_mapError_ok_apply, if_pos hzero,
        Action.ofExcept_error_apply]
    · cases hmap : host.map id size with
      | error cause =>
        refine .inl ⟨_, .notMapped hopen hmap, ?_⟩
        simp only [openWindow, hopen, Action.bind_apply, Action.ofExcept_mapError_ok_apply,
          if_neg hzero, hmap, Action.ofExcept_mapError_error_apply]
      | ok reach =>
        refine .inr ⟨id, ⟨path, host.contents id, some ⟨size, reach⟩, some id⟩,
          ⟨hopen, rfl, rfl, ⟨reach, hmap, rfl⟩, rfl⟩, ?_⟩
        simp only [openWindow, hopen, Action.bind_apply, Action.ofExcept_mapError_ok_apply,
          if_neg hzero, hmap, Action.emit_apply, Action.pure_apply]

theorem openWindow_of_ok (h : openWindow host path size s = .ok w s') : ∃ id, w.Opened host path size id := by
  rcases openWindow_cases host path size s with ⟨e, -, herr⟩ | ⟨id, w', hopened, hok⟩
  · rw [herr] at h
    cases h
  · rw [hok] at h
    cases h
    exact ⟨id, hopened⟩

end Link

end TargetLink
