import TargetLink.Window.Basic

/-!
# Windows side by side

Two windows, perhaps of different kinds, that take every access alike: what one of them answers the other
one answers, and a store leaves windows that are related again. What is built on a window cannot tell
such windows apart.
-/

namespace TargetLink

variable {ω ω' : Type}

/-- Two stores end alike, with windows that `W` relates or with one error. -/
inductive StoredAlike (W : ω → ω' → Prop) : Except WindowError ω → Except WindowError ω' → Prop where
  | stored {w : ω} {w' : ω'} (h : W w w') : StoredAlike W (.ok w) (.ok w')
  | refused (e : WindowError) : StoredAlike W (.error e) (.error e)

/-- The window refuses some access for this reason. -/
def Window.Refuses [Window ω] (w : ω) (e : WindowError) : Prop :=
  (∃ offset len, Window.read w offset len = .error e) ∨
    (∃ offset bytes, Window.write w offset bytes = .error e) ∨
    ∃ offset len, Window.zero w offset len = .error e

/-- Windows that `W` relates take every access alike. -/
structure WindowCoupled [Window ω] [Window ω'] (W : ω → ω' → Prop) : Prop where
  size_eq : ∀ {w w'}, W w w' → Window.size w = Window.size w'
  read_eq : ∀ {w w'} (offset : WindowOffset) (len : Nat), W w w' →
    Window.read w offset len = Window.read w' offset len
  write : ∀ {w w'} (offset : WindowOffset) (bytes : List UInt8), W w w' →
    StoredAlike W (Window.write w offset bytes) (Window.write w' offset bytes)
  zero : ∀ {w w'} (offset : WindowOffset) (len : Nat), W w w' →
    StoredAlike W (Window.zero w offset len) (Window.zero w' offset len)
  barrier : ∀ {w w'}, W w w' → W (Window.barrier w) (Window.barrier w')

/-- A property that stores keep is a coupling of a window with itself. -/
theorem windowCoupled_self [Window ω] {I : ω → Prop}
    (hwrite : ∀ {w w'} {offset : WindowOffset} {bytes : List UInt8}, I w →
      Window.write w offset bytes = .ok w' → I w')
    (hzero : ∀ {w w'} {offset : WindowOffset} {len : Nat}, I w →
      Window.zero w offset len = .ok w' → I w')
    (hbarrier : ∀ {w}, I w → I (Window.barrier w)) :
    WindowCoupled fun w w' : ω => w = w' ∧ I w where
  size_eq := by
    rintro w _ ⟨rfl, -⟩
    rfl
  read_eq := by
    rintro w _ offset len ⟨rfl, -⟩
    rfl
  write := by
    rintro w _ offset bytes ⟨rfl, hI⟩
    cases h : Window.write w offset bytes with
    | ok w' => exact .stored ⟨rfl, hwrite hI h⟩
    | error e => exact .refused e
  zero := by
    rintro w _ offset len ⟨rfl, hI⟩
    cases h : Window.zero w offset len with
    | ok w' => exact .stored ⟨rfl, hzero hI h⟩
    | error e => exact .refused e
  barrier := by
    rintro w _ ⟨rfl, hI⟩
    exact ⟨rfl, hbarrier hI⟩

theorem windowCoupled_eq [Window ω] : WindowCoupled (Eq : ω → ω → Prop) := by
  have hself : WindowCoupled fun w w' : ω => w = w' ∧ True :=
    windowCoupled_self (fun _ _ => trivial) (fun _ _ => trivial) fun _ => trivial
  have heq : (fun w w' : ω => w = w' ∧ True) = Eq := by
    funext w w'
    exact propext (and_iff_left trivial)
  rwa [heq] at hself

end TargetLink
