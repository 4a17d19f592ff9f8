import EscapeKey.Proofs.Tap.Histories

/-! Presses under the toggle policy. Whether a press repeats the one before can be told from these
two presses alone. The machine is latched or idle as the latest press was a repeat or a single
tap, but both modes ask the same of the next press, and no run is counted in either.
-/

namespace EscapeKey.Tap

variable {τ : Type}

/-- A toggling machine is latched behind a repeat tap and idle behind a single one. -/
def Decision.toggledMode : Decision → Mode
  | .singleTap => .idle
  | .repeatTap => .latched

theorem Decision.toggledMode_eq_latched_iff {decision : Decision}
    : decision.toggledMode = .latched ↔ decision = .repeatTap := by
  cases decision <;> decide

/-- All that a toggling machine keeps of its presses: the latest one and what it turned out to
be.
-/
def State.toggled (decision : Decision) (now : τ) : State τ :=
  ⟨decision.toggledMode, some now, none, 0⟩

variable [Counter τ] {s : Settings}

/-- A press of a toggling machine repeats exactly within the timeout of the latest one, whatever
the mode, by cases on what the press does.
-/
theorem State.Pressed.toggled (toggles : s.policy = .toggle) {mode : Mode} {last : Option τ}
    {now : τ} {decision : Decision} {after : State τ}
    (pressed : Pressed s now ⟨mode, last, none, 0⟩ decision after)
    : (decision = .repeatTap ↔ isWithin now s.timeout last = true)
      ∧ after = toggled decision now := by
  cases pressed with
  | stay soon | latch _ soon => exact ⟨iff_of_true rfl soon, rfl⟩
  | unlatch _ late | wait _ late => exact ⟨iff_of_false nofun (by rw [late]; nofun), rfl⟩
  | restart counts | complete counts | proceed counts | begin counts =>
      exact absurd (toggles.symm.trans counts) nofun

/-- Along its history a toggling machine keeps the latest press, by induction on the presses. -/
theorem State.before_succ_eq_toggled (toggles : s.policy = .toggle) (reading : Nat → τ) (n : Nat)
    : before s reading (n + 1) = toggled ((s.history reading).decision n) (reading n) := by
  induction n with
  | zero => exact ((pressed_before s reading 0).toggled toggles).2
  | succ n ih =>
      have pressed := pressed_before s reading (n + 1)
      rw [ih] at pressed
      exact (pressed.toggled toggles).2

namespace History

theorem first_of_toggles (toggles : s.policy = .toggle) (reading : Nat → τ)
    : (s.history reading).decision 0 ≠ .repeatTap := by
  intro repeats
  have soon := ((State.pressed_before s reading 0).toggled toggles).1.mp repeats
  exact absurd soon nofun

theorem repeats_iff_of_toggles (toggles : s.policy = .toggle) (reading : Nat → τ) (n : Nat)
    : (s.history reading).decision (n + 1) = .repeatTap
      ↔ Counter.elapsed (reading (n + 1)) (reading n) < s.timeout.toNat := by
  have pressed := State.pressed_before s reading (n + 1)
  rw [State.before_succ_eq_toggled toggles] at pressed
  exact (pressed.toggled toggles).1.trans isWithin_some_iff

end History

/-- What a press turns out to be under the toggle policy depends on no more than the time since the
press before. The presses behind a clear have the decisions of their history. Of these the first
is a single tap, and any other is a repeat tap exactly if it comes within the timeout of the one
before. After every press the machine is latched exactly if it was a repeat tap, it has kept the
reading of this press, and it has counted no run.
-/
theorem toggle_runs (toggles : s.policy = .toggle) (reading : Nat → τ) (st : State τ)
    : let d := (s.history reading).decision
      (∀ n, st.decisions s (.clear :: pressesBefore reading n) = (List.range n).map d)
      ∧ (∀ n, d n = .repeatTap
          ↔ ∃ i, n = i + 1
            ∧ Counter.elapsed (reading n) (reading i) < s.timeout.toNat)
      ∧ ∀ n,
        let after := st.run s (.clear :: pressesBefore reading (n + 1))
        (after.mode = .latched ↔ d n = .repeatTap)
        ∧ after.lastPress = some (reading n)
        ∧ after.runStart = none
        ∧ after.runTaps = 0 := by
  intro d
  refine ⟨State.decisions_clear s reading st, ?decides, ?keeps⟩
  case decides =>
    intro n
    cases n with
    | zero => exact iff_of_false (History.first_of_toggles toggles reading) nofun
    | succ n =>
        rw [History.repeats_iff_of_toggles toggles reading n]
        constructor
        · exact fun soon => ⟨n, rfl, soon⟩
        · rintro ⟨i, same, soon⟩
          obtain rfl := Nat.succ.inj same
          exact soon
  case keeps =>
    intro n after
    -- the clear forgets the state that the machine was in
    have kept : after = State.toggled (d n) (reading n) :=
      State.before_succ_eq_toggled toggles reading n
    rw [kept]
    exact ⟨Decision.toggledMode_eq_latched_iff, rfl, rfl, rfl⟩

/-- Presses on a counter of 16 bits, of a machine that was latched before it was cleared. The
second one comes at the same time as the first, the third over a rollover, the fourth exactly at
the timeout, and the fifth almost a period of the counter later.
-/
theorem toggle_runs_aliased
    : let s : Settings := { Settings.standard with timeout := 500 }
      let readings : List (BitVec 16) := [65300, 65300, 200, 700, 690, 1100]
      let reading := fun n => readings.getD n 0
      let st : State (BitVec 16) := ⟨.latched, some 65200, none, 0⟩
      let d := (s.history reading).decision
      let after := st.run s (.clear :: pressesBefore reading 3)
      s.policy = .toggle
      ∧ (List.range 6).map d
        = [.singleTap, .repeatTap, .repeatTap, .singleTap, .singleTap, .repeatTap]
      ∧ st.decisions s (.clear :: pressesBefore reading 6) = (List.range 6).map d
      ∧ (d 4 = .repeatTap ↔ ∃ i, 4 = i + 1 ∧ Counter.elapsed (reading 4) (reading i) < 500)
      ∧ (after.mode = .latched ↔ d 2 = .repeatTap)
      ∧ after.lastPress = some 200
      ∧ after.runStart = none
      ∧ after.runTaps = 0 := by
  intro s readings reading st d after
  have toggles : s.policy = .toggle := rfl
  obtain ⟨decisions, decides, keeps⟩ := toggle_runs toggles reading st
  exact ⟨toggles, by decide, decisions 6, decides 4, keeps 2⟩

end EscapeKey.Tap
