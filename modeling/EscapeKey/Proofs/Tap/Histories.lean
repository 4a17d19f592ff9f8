import EscapeKey.Proofs.Tap.Presses
import EscapeKey.Proofs.Tap.Runs

/-! Histories of presses. The presses of a cleared machine are counted from zero, and each has a
reading of the clock and turns out to be a single or a repeat tap.
-/

namespace EscapeKey.Tap

/-- An endless sequence of presses; what a finite one is like can be seen on its beginning. -/
structure History (τ : Type) where
  reading : Nat → τ
  decision : Nat → Decision

variable {τ : Type}

/-- The presses at these readings up to but not including number `n`. -/
def pressesBefore (reading : Nat → τ) (n : Nat) : List (Input τ) :=
  (List.range n).map fun i => .press (reading i)

theorem pressesBefore_succ (reading : Nat → τ) (n : Nat)
    : pressesBefore reading (n + 1) = pressesBefore reading n ++ [.press (reading n)] := by
  rw [pressesBefore, List.range_succ, List.map_append]
  rfl

variable [Counter τ]

/-- The state of a cleared machine before press `n`. -/
def State.before (s : Settings) (reading : Nat → τ) (n : Nat) : State τ :=
  State.initial.run s (pressesBefore reading n)

/-- The history of a cleared machine that is pressed at these readings. -/
def Settings.history (s : Settings) (reading : Nat → τ) : History τ where
  reading := reading
  decision n := ((State.before s reading n).press s (reading n)).1

theorem State.before_succ (s : Settings) (reading : Nat → τ) (n : Nat)
    : before s reading (n + 1) = ((before s reading n).press s (reading n)).2 := by
  rw [before, pressesBefore_succ, run_append]
  rfl

/-- Every press of a history is one of the cases of the machine. -/
theorem State.pressed_before (s : Settings) (reading : Nat → τ) (n : Nat)
    : Pressed s (reading n) (before s reading n) ((s.history reading).decision n)
        (before s reading (n + 1)) := by
  rw [before_succ]
  exact pressed_press s (reading n) (before s reading n)

/-- The decisions on finitely many presses behind a clear are those of the history, by induction on
their number.
-/
theorem State.decisions_clear (s : Settings) (reading : Nat → τ) (st : State τ) (n : Nat)
    : st.decisions s (.clear :: pressesBefore reading n)
      = (List.range n).map (s.history reading).decision := by
  change State.initial.decisions s (pressesBefore reading n) = _
  induction n with
  | zero => rfl
  | succ n ih =>
      rw [pressesBefore_succ, decisions_append, ih, List.range_succ, List.map_append]
      rfl

end EscapeKey.Tap
