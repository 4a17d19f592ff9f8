import EscapeKey.Proofs.Tap.Presses
import EscapeKey.Proofs.Tap.Runs

/-! The parts of a state fit together in every run of the tap machine. None of them does so by
itself: that a latched machine counts no run is due to the press that latched it, and that a run
stays short enough to be counted is due to the latch.
-/

namespace EscapeKey.Tap

variable {τ : Type}

/-- The readings of the presses since the last clear. -/
def pressesSinceClear (inputs : List (Input τ)) : List τ :=
  inputs.foldl
    (fun readings input =>
      match input with
      | .press now => readings ++ [now]
      | .clear => [])
    []

theorem pressesSinceClear_press (inputs : List (Input τ)) (now : τ)
    : pressesSinceClear (inputs ++ [.press now]) = pressesSinceClear inputs ++ [now] := by
  simp only [pressesSinceClear, List.foldl_append, List.foldl_cons, List.foldl_nil]

theorem pressesSinceClear_clear (inputs : List (Input τ))
    : pressesSinceClear (inputs ++ [.clear]) = [] := by
  simp only [pressesSinceClear, List.foldl_append, List.foldl_cons, List.foldl_nil]

namespace State

/-- The parts of the state fit together. A machine without a latest press is as good as new, and a
latched one counts no run. A run has a first press exactly if it has any; under the multi-tap policy
an idle machine that was pressed is in a run with fewer presses than latch, and under the toggle
policy there are no runs.
-/
structure Consistent (s : Settings) (st : State τ) : Prop where
  unpressed : st.lastPress = none → st = initial
  latched : st.mode = .latched → st.lastPress.isSome ∧ st.runStart = none ∧ st.runTaps = 0
  counted : st.runStart = none ↔ st.runTaps = 0
  running
    : ∀ taps term,
        s.policy = .multiTap taps term
        → st.mode = .idle
        → st.lastPress.isSome
        → st.runStart.isSome ∧ 1 ≤ st.runTaps ∧ st.runTaps < max taps.toNat 2
  toggling : s.policy = .toggle → st.runStart = none

theorem consistent_initial (s : Settings) : (initial : State τ).Consistent s where
  unpressed _ := rfl
  latched := nofun
  counted := iff_of_true rfl rfl
  running _ _ _ _ pressed := nomatch pressed
  toggling _ := rfl

/-- A run is shorter than a byte can count. Witness: where one is counted at all, it is that of an
idle machine under the multi-tap policy.
-/
theorem Consistent.runTaps_lt {s : Settings} {st : State τ} (fits : st.Consistent s)
    : st.runTaps < 255 := by
  have uncounted (without : st.runStart = none) : st.runTaps < 255 := by
    rw [fits.counted.mp without]
    exact Nat.zero_lt_succ 254
  cases latest : st.lastPress with
  | none => exact uncounted (by rw [fits.unpressed latest]; rfl)
  | some last =>
      cases mode : st.mode with
      | latched => exact uncounted (fits.latched mode).2.1
      | idle =>
          cases policy : s.policy with
          | toggle => exact uncounted (fits.toggling policy)
          | multiTap taps term =>
              have short := (fits.running taps term policy mode (by rw [latest]; rfl)).2.2
              have byte := taps.toNat_lt
              omega

/-- A pressed machine may count no run if it is latched or under the toggle policy. -/
theorem consistent_without_run {s : Settings} {mode : Mode} (now : τ)
    (mayRest : mode = .latched ∨ s.policy = .toggle)
    : Consistent s ⟨mode, some now, none, 0⟩ where
  unpressed := nofun
  latched _ := ⟨rfl, rfl, rfl⟩
  counted := iff_of_true rfl rfl
  running taps term policy idle _ := by
    rcases mayRest with latched | toggles
    · exact absurd (idle.symm.trans latched) nofun
    · exact absurd (policy.symm.trans toggles) nofun
  toggling _ := rfl

/-- An idle machine under the multi-tap policy may be in any run that has begun and does not latch
yet.
-/
theorem consistent_in_run {s : Settings} {taps : UInt8} {term : UInt32} {count : Nat}
    (now start : τ) (policy : s.policy = .multiTap taps term) (begun : 1 ≤ count)
    (short : count < max taps.toNat 2)
    : Consistent s ⟨.idle, some now, some start, count⟩ where
  unpressed := nofun
  latched := nofun
  counted := iff_of_false nofun (Nat.ne_of_gt begun)
  running taps' term' policy' _ _ := by
    obtain ⟨rfl, rfl⟩ := Policy.multiTap.inj (policy.symm.trans policy')
    exact ⟨rfl, begun, short⟩
  toggling toggles := absurd (policy.symm.trans toggles) nofun

variable [Counter τ]

/-- A press of a consistent state leaves one, by cases on what the press does. -/
theorem Pressed.consistent {s : Settings} {now : τ} {st after : State τ} {decision : Decision}
    (pressed : Pressed s now st decision after) (fits : st.Consistent s)
    : after.Consistent s := by
  cases pressed with
  | stay =>
      obtain ⟨_, ended, uncounted⟩ := fits.latched rfl
      cases ended
      cases uncounted
      exact consistent_without_run now (.inl rfl)
  | unlatch policy | latch policy | wait policy =>
      have none := fits.toggling policy
      have uncounted := fits.counted.mp none
      cases none
      cases uncounted
      exact consistent_without_run now (.inr policy)
  | complete => exact consistent_without_run now (.inl rfl)
  | restart policy | begin policy =>
      exact consistent_in_run now now policy (Nat.le_refl 1) (Nat.le_max_right _ _)
  | @proceed _ start count taps term policy soon short =>
      cases start with
      | none => contradiction
      | some first =>
          exact consistent_in_run now first policy (by omega) short

/-- A press that leaves the machine latched is a repeat tap, by cases on what the press does. -/
theorem Pressed.repeatTap_of_latched {s : Settings} {now : τ} {st after : State τ}
    {decision : Decision} (pressed : Pressed s now st decision after)
    (latched : after.mode = .latched)
    : decision = .repeatTap := by
  cases pressed with
  | stay | latch | complete => rfl
  | unlatch | restart | wait | proceed | begin => exact absurd latched nofun

theorem consistent_run (s : Settings) (inputs : List (Input τ))
    : (initial.run s inputs).Consistent s := by
  apply run_initial_induction s (consistent_initial s)
  intro st now fits
  exact (pressed_press s now st).consistent fits

/-- The machine keeps the reading of the latest press since the last clear, by cases on the last
input.
-/
theorem lastPress_run (s : Settings) (inputs : List (Input τ))
    : (initial.run s inputs).lastPress = (pressesSinceClear inputs).getLast? := by
  rcases List.eq_nil_or_concat' inputs with rfl | ⟨front, input, rfl⟩
  · rfl
  · rw [run_append]
    cases input with
    | clear => rw [pressesSinceClear_clear]; rfl
    | press now =>
        rw [pressesSinceClear_press, List.getLast?_concat]
        exact (pressed_press s now _).lastPress

/-- A machine is only latched directly behind a repeat tap, by cases on the last input. -/
theorem repeatTap_of_latched_run {s : Settings} {inputs : List (Input τ)}
    (latched : (initial.run s inputs).mode = .latched)
    : (initial.decisions s inputs).getLast? = some .repeatTap := by
  rcases List.eq_nil_or_concat' inputs with rfl | ⟨front, input, rfl⟩
  · contradiction
  · rw [run_append] at latched
    cases input with
    | clear => contradiction
    | press now =>
        rw [decisions_append, decisions_press_cons,
          (pressed_press s now _).repeatTap_of_latched latched]
        exact List.getLast?_concat

end State

/-- Every state that presses and clears lead to is consistent, whatever the settings and the times:
the machine keeps the reading of the latest press since the last clear, it is latched only if the
latest press was a repeat tap, and the count of a run never comes to the end of a byte.
-/
theorem run_consistent [Counter τ] (s : Settings) (inputs : List (Input τ))
    : let st := State.initial.run s inputs
      st.Consistent s
      ∧ st.lastPress = (pressesSinceClear inputs).getLast?
      ∧ (st.mode = .latched → (State.initial.decisions s inputs).getLast? = some .repeatTap)
      ∧ min (st.runTaps + 1) 255 = st.runTaps + 1 := by
  intro st
  have fits : st.Consistent s := State.consistent_run s inputs
  have room := fits.runTaps_lt
  exact ⟨fits, State.lastPress_run s inputs, State.repeatTap_of_latched_run,
    Nat.min_eq_left (by omega)⟩

/-- The longest run that can be counted: behind a cleared latch, 254 presses over a rollover of 16
bits, and one more that latches.
-/
theorem run_consistent_longest_run
    : let s : Settings := { Settings.standard with policy := .multiTap 255 65535 }
      let cleared : List (Input (BitVec 16)) := List.replicate 255 (.press 65000) ++ [.clear]
      let counted := cleared ++ .press 65100 :: List.replicate 253 (.press 100)
      let st := State.initial.run s counted
      let after := State.initial.run s (counted ++ [.press 200])
      st = ⟨.idle, some 100, some 65100, 254⟩
      ∧ st.Consistent s
      ∧ min (st.runTaps + 1) 255 = st.runTaps + 1
      ∧ after.mode = .latched
      ∧ after.Consistent s
      ∧ after.lastPress = (pressesSinceClear (counted ++ [.press 200])).getLast?
      ∧ (State.initial.decisions s (counted ++ [.press 200])).getLast? = some .repeatTap := by
  intro s cleared counted st after
  have longest : st = ⟨.idle, some 100, some 65100, 254⟩ := by decide +kernel
  have latched : after.mode = .latched := by decide +kernel
  obtain ⟨fits, _, _, counts⟩ := run_consistent s counted
  obtain ⟨fits', latest, repeats, _⟩ := run_consistent s (counted ++ [.press 200])
  exact ⟨longest, fits, counts, latched, fits', latest, repeats latched⟩

end EscapeKey.Tap
