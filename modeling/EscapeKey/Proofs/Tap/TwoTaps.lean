import Mathlib.Data.List.Forall2
import EscapeKey.Proofs.Tap.Presses

/-! Runs of two presses. While a run that the second press completes is unfinished, its first press
is the latest press of all, so that the term of the run is a timeout since the latest press. With
the timeout for its term, the multi-tap policy then decides as the toggle policy does, although the
two go by different parts of the state.
-/

namespace EscapeKey.Tap

variable {τ : Type}

/-- The first machine counts runs of two presses and goes the same way as the second one, which
toggles. While it is idle, its run has begun with the latest press and has no other.
-/
structure State.KeepsStep (counting toggling : State τ) : Prop where
  mode : counting.mode = toggling.mode
  lastPress : counting.lastPress = toggling.lastPress
  runStart : counting.mode = .idle → counting.runStart = counting.lastPress
  runTaps : counting.mode = .idle → ∀ start ∈ counting.runStart, counting.runTaps = 1

/-- The first settings count runs of two presses within the timeout that the second ones toggle
by.
-/
structure Settings.CountsTwo (s t : Settings) : Prop where
  counts : ∃ taps : UInt8, taps ≤ 2 ∧ s.policy = .multiTap taps s.timeout
  toggles : t.policy = .toggle
  timeout : s.timeout = t.timeout

namespace State.KeepsStep

theorem initial : (State.initial : State τ).KeepsStep State.initial where
  mode := rfl
  lastPress := rfl
  runStart _ := rfl
  runTaps _ start member := by cases member

variable [Counter τ] {s t : Settings} {counting toggling : State τ}

/-- Both machines decide alike on a press and keep step, by cases on what the counting one does.
It never proceeds with a run, because the second press completes it.
-/
theorem pressed {now : τ} {decision : Decision} {after : State τ} (two : s.CountsTwo t)
    (together : counting.KeepsStep toggling) (pressed : Pressed s now counting decision after)
    : ∃ after', Pressed t now toggling decision after' ∧ after.KeepsStep after' := by
  obtain ⟨⟨taps, few, counts⟩, toggles, timeout⟩ := two
  obtain ⟨mode, last, start, count⟩ := counting
  obtain ⟨_, _, start', count'⟩ := toggling
  obtain ⟨rfl, rfl, runStart, runTaps⟩ := together
  cases pressed with
  | stay soon => exact ⟨_, .stay (timeout ▸ soon), rfl, rfl, nofun, nofun⟩
  | restart _ late =>
      exact ⟨_, .unlatch toggles (timeout ▸ late), rfl, rfl, fun _ => rfl, fun _ _ _ => rfl⟩
  | complete policy soon _ =>
      obtain ⟨rfl, rfl⟩ := Policy.multiTap.inj (counts.symm.trans policy)
      have begun : start = last := runStart rfl
      rw [begun, timeout] at soon
      exact ⟨_, .latch toggles soon, rfl, rfl, nofun, nofun⟩
  | proceed policy soon short =>
      obtain ⟨rfl, rfl⟩ := Policy.multiTap.inj (counts.symm.trans policy)
      cases start with
      | none => contradiction
      | some first =>
          have counted : count = 1 := runTaps rfl first rfl
          have atMostTwo : taps.toNat ≤ 2 := few
          omega
  | begin policy late =>
      obtain ⟨rfl, rfl⟩ := Policy.multiTap.inj (counts.symm.trans policy)
      have begun : start = last := runStart rfl
      rw [begun, timeout] at late
      exact ⟨_, .wait toggles late, rfl, rfl, fun _ => rfl, fun _ _ _ => rfl⟩
  | unlatch policy | latch policy | wait policy =>
      exact absurd (counts.symm.trans policy) nofun

/-- On every input both machines answer alike and keep step. -/
theorem step (two : s.CountsTwo t) (together : counting.KeepsStep toggling) (input : Input τ)
    : (counting.step s input).1 = (toggling.step t input).1
      ∧ (counting.step s input).2.KeepsStep (toggling.step t input).2 := by
  cases input with
  | clear => exact ⟨rfl, .initial⟩
  | press now =>
      obtain ⟨after, pressed, still⟩ := together.pressed two (pressed_press s now counting)
      rw [State.step, State.step, pressed.press_eq]
      exact ⟨rfl, still⟩

/-- Machines in step answer all inputs alike, by induction on the inputs. -/
theorem steps (two : s.CountsTwo t) (together : counting.KeepsStep toggling)
    (inputs : List (Input τ))
    : (counting.steps s inputs).Forall₂
        (fun a b => a.1 = b.1 ∧ a.2.mode = b.2.mode ∧ a.2.lastPress = b.2.lastPress)
        (toggling.steps t inputs) := by
  induction inputs generalizing counting toggling with
  | nil => exact .nil
  | cons input rest ih =>
      obtain ⟨same, still⟩ := together.step two input
      exact .cons ⟨same, still.mode, still.lastPress⟩ (ih still)

end State.KeepsStep

variable [Counter τ]

/-- Multi-tap with two taps is toggling. Up to two taps within the timeout latch exactly as the
toggle policy with this timeout does: on any counter and any presses and clears, both machines
make the same decision at each input and are in the same mode with the same latest press behind it.
-/
theorem multiTap_two_toggles {s t : Settings} {taps : UInt8} (few : taps ≤ 2)
    (counts : s.policy = .multiTap taps s.timeout) (toggles : t.policy = .toggle)
    (timeout : s.timeout = t.timeout) (inputs : List (Input τ))
    : (State.initial.steps s inputs).Forall₂
        (fun a b => a.1 = b.1 ∧ a.2.mode = b.2.mode ∧ a.2.lastPress = b.2.lastPress)
        (State.initial.steps t inputs) :=
  State.KeepsStep.initial.steps ⟨⟨taps, few, counts⟩, toggles, timeout⟩ inputs

/-- Presses on a counter of 16 bits: it starts again from zero during a latch, a late press leaves
the latch and a quick one latches again, the machine is cleared, and the last press seems to come at
the same time as the one before, a period of the counter later.
-/
theorem multiTap_two_toggles_aliased
    : let s : Settings := { Settings.standard with timeout := 400, policy := .multiTap 0 400 }
      let t : Settings := { Settings.standard with timeout := 400 }
      let inputs : List (Input (BitVec 16)) :=
        [.press 65400, .press 65500, .press 300, .press 800, .press 1000, .clear, .press 1100,
          .press 1600, .press 1600]
      (0 : UInt8) ≤ 2
      ∧ s.policy = .multiTap 0 s.timeout
      ∧ t.policy = .toggle
      ∧ s.timeout = t.timeout
      ∧ (State.initial.steps s inputs).map (·.1)
        = [some .singleTap, some .repeatTap, some .repeatTap, some .singleTap, some .repeatTap,
          none, some .singleTap, some .singleTap, some .repeatTap]
      ∧ (State.initial.steps s inputs).Forall₂
          (fun a b => a.1 = b.1 ∧ a.2.mode = b.2.mode ∧ a.2.lastPress = b.2.lastPress)
          (State.initial.steps t inputs) := by
  intro s t inputs
  have counts : s.policy = .multiTap 0 s.timeout := rfl
  have toggles : t.policy = .toggle := rfl
  exact ⟨by decide, counts, toggles, rfl, by decide,
    multiTap_two_toggles (by decide) counts toggles rfl inputs⟩

end EscapeKey.Tap
