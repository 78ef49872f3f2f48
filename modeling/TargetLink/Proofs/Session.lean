import TargetLink.Proofs.Link
import TargetLink.Proofs.Transport.Coupled
import TargetLink.Proofs.Window.Device
import TargetLink.Session

/-!
# How sessions end

A session that maps a window closes it at the end, whatever happens in between, and one that maps none leaves
the device alone. What happens in between is the same for all transports that are alike, and none of it
is about a mapping or a configuration.
-/

namespace TargetLink

/-- Sessions that failed for the same reason, up to the errors of the link. -/
inductive SessionError.Related (L : LinkError → LinkError → Prop) : SessionError → SessionError → Prop where
  | transport {e e' : LinkError} (h : L e e') : Related L (.transport e) (.transport e')
  | image (path : OsString) (cause : OsError) : Related L (.image path cause) (.image path cause)
  | selfTest {e e' : SelfTestError} (h : SelfTestError.Related L e e') :
    Related L (.selfTest e) (.selfTest e')

/-! ## What a session runs -/

namespace FullyCoupled

variable {ω ω' : Type} [Window ω] [Window ω'] {L : LinkError → LinkError → Prop}
  {R : Logged (Transport ω) → Logged (Transport ω') → Prop} (h : FullyCoupled R L)

include h

variable (hregions : ∀ {s t}, R s t → s.state.regions = t.state.regions)

include hregions

theorem logLayout {ε ε' : Type} {E : ε → ε' → Logged (Transport ω) → Logged (Transport ω') → Prop} :
    Coupled R E Transport.logLayout Transport.logLayout := by
  refine coupled_current fun {s t} hst => ?_
  have hlayout : s.state.layoutEvents = t.state.layoutEvents := by
    simp only [Transport.layoutEvents, hregions hst]
  rw [hlayout]
  refine h.emitAll fun event hevent => ?_
  simp only [Transport.layoutEvents, List.mem_cons, List.mem_map] at hevent
  rcases hevent with rfl | ⟨region, -, rfl⟩ <;> rfl

theorem test : Coupled R (Through (SessionError.Related L) R) Session.test Session.test := by
  refine (h.emit rfl).bind fun _ => ?_
  refine coupled_current fun {s t} hst => ?_
  rw [hregions hst]
  have hrun : Coupled R (Through (SessionError.Related L) R)
      (Action.mapError .selfTest (SelfTest.run (SelfTest.plan t.state.regions)))
      (Action.mapError .selfTest (SelfTest.run (SelfTest.plan t.state.regions))) := by
    refine (h.selfTest _).mapError ?_
    rintro e e' s t ⟨he, hst⟩
    exact ⟨.selfTest he, hst⟩
  refine hrun.bind fun report => ?_
  refine (h.emit rfl).bind fun _ => ?_
  exact coupled_pure _

omit hregions in
theorem runImage (host : Host) (path : OsString) (addr : TargetAddr) (signal : StopSignal) :
    Coupled R (Through (SessionError.Related L) R) (Session.runImage host path addr signal)
      (Session.runImage host path addr signal) := by
  refine Coupled.bind ?_ fun image => ?_
  · intro s t hst
    cases host.readFile path with
    | ok image => exact .inl ⟨image, s, t, rfl, rfl, hst⟩
    | error cause => exact .inr ⟨_, _, s, t, rfl, rfl, .image path cause, hst⟩
  · have hload : Coupled R (Through (SessionError.Related L) R)
        (Action.mapError .transport (loadAndStart addr image))
        (Action.mapError .transport (loadAndStart addr image)) := by
      refine (h.load addr image).mapError ?_
      rintro e e' s t ⟨he, hst⟩
      exact ⟨.transport he, hst⟩
    refine hload.bind fun _ => ?_
    refine (h.emit rfl).bind fun _ => ?_
    refine (h.emit rfl).bind fun _ => ?_
    exact coupled_pure _

theorem serve (host : Host) (payload : Payload) (addr : TargetAddr) (signal : StopSignal) :
    Coupled R (Through (SessionError.Related L) R) (Session.serve host payload addr signal)
      (Session.serve host payload addr signal) := by
  cases payload with
  | selfTest => exact h.test hregions
  | image path => exact h.runImage host path addr signal

end FullyCoupled

/-! ## A session to its end -/

namespace Session

variable {host : Host} {session : Session} (signal : StopSignal)

/-- The window is the given one but for the bytes of its device, and `event` is all that was reported of
mappings. -/
abbrev Holds (w₀ : DeviceWindow) (event : Event) (m : Translator) :
    Logged (Transport DeviceWindow) → Logged (Transport DeviceWindow) → Prop :=
  Beside (fun w w' => w = w' ∧ w = w₀.withMemory w.device.memory)
    (fun log => log.toList.filter Event.ofMapping = [event]) m m

end Session

end TargetLink
