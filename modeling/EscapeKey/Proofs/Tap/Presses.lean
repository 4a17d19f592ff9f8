import EscapeKey.Tap

/-! All that a press can do to the tap machine, case by case, with the condition of each case.
Facts about presses are proved along these cases.
-/

namespace EscapeKey.Tap

variable {τ : Type} [Counter τ]

theorem isWithin_some_iff {now earlier : τ} {window : UInt32}
    : isWithin now window (some earlier) = true
      ↔ Counter.elapsed now earlier < window.toNat :=
  decide_eq_true_iff

theorem isWithin_some_eq_false_iff {now earlier : τ} {window : UInt32}
    : isWithin now window (some earlier) = false
      ↔ window.toNat ≤ Counter.elapsed now earlier :=
  decide_eq_false_iff_not.trans Nat.not_lt

namespace State

/-- A press at `now` makes the decision and turns the first state into the second. A latched
machine stays latched on a quick press; a late one unlatches it and, where runs are counted,
restarts a run. An idle machine latches or waits under the toggle policy; where runs are counted,
it completes the run, proceeds with it or begins one.
-/
inductive Pressed (s : Settings) (now : τ) : State τ → Decision → State τ → Prop where
  | stay {last start count} (soon : isWithin now s.timeout last = true)
    : Pressed s now ⟨.latched, last, start, count⟩ .repeatTap
        ⟨.latched, some now, start, count⟩
  | unlatch {last start count} (policy : s.policy = .toggle)
    (late : isWithin now s.timeout last = false)
    : Pressed s now ⟨.latched, last, start, count⟩ .singleTap
        ⟨.idle, some now, start, count⟩
  | restart {last start count taps term} (policy : s.policy = .multiTap taps term)
    (late : isWithin now s.timeout last = false)
    : Pressed s now ⟨.latched, last, start, count⟩ .singleTap ⟨.idle, some now, some now, 1⟩
  | latch {last start count} (policy : s.policy = .toggle)
    (soon : isWithin now s.timeout last = true)
    : Pressed s now ⟨.idle, last, start, count⟩ .repeatTap
        ⟨.latched, some now, start, count⟩
  | wait {last start count} (policy : s.policy = .toggle)
    (late : isWithin now s.timeout last = false)
    : Pressed s now ⟨.idle, last, start, count⟩ .singleTap ⟨.idle, some now, start, count⟩
  | complete {last start count taps term} (policy : s.policy = .multiTap taps term)
    (soon : isWithin now term start = true) (enough : max taps.toNat 2 ≤ min (count + 1) 255)
    : Pressed s now ⟨.idle, last, start, count⟩ .repeatTap ⟨.latched, some now, none, 0⟩
  | proceed {last start count taps term} (policy : s.policy = .multiTap taps term)
    (soon : isWithin now term start = true) (short : min (count + 1) 255 < max taps.toNat 2)
    : Pressed s now ⟨.idle, last, start, count⟩ .singleTap
        ⟨.idle, some now, start, min (count + 1) 255⟩
  | begin {last start count taps term} (policy : s.policy = .multiTap taps term)
    (late : isWithin now term start = false)
    : Pressed s now ⟨.idle, last, start, count⟩ .singleTap ⟨.idle, some now, some now, 1⟩

/-- The cases cover every press, by the mode, the policy and the window. -/
theorem pressed_press (s : Settings) (now : τ) (st : State τ)
    : Pressed s now st (st.press s now).1 (st.press s now).2 := by
  obtain ⟨mode, last, start, count⟩ := st
  cases mode with
  | latched =>
      cases window : isWithin now s.timeout last with
      | true =>
          simp only [press, pressLatched, window, if_true]
          exact .stay window
      | false =>
          cases policy : s.policy with
          | toggle =>
              simp only [press, pressLatched, window, policy]
              exact .unlatch policy window
          | multiTap taps term =>
              simp only [press, pressLatched, window, policy]
              exact .restart policy window
  | idle =>
      cases policy : s.policy with
      | toggle =>
          cases window : isWithin now s.timeout last with
          | true =>
              simp only [press, policy, pressToggle, window, if_true]
              exact .latch policy window
          | false =>
              simp only [press, policy, pressToggle, window]
              exact .wait policy window
      | multiTap taps term =>
          cases window : isWithin now term start with
          | true =>
              simp only [press, policy, pressMultiTap, window, if_true]
              split
              case isTrue enough => exact .complete policy window enough
              case isFalse short => exact .proceed policy window (Nat.lt_of_not_le short)
          | false =>
              have short : ¬ max taps.toNat 2 ≤ 1 := by omega
              simp only [press, policy, pressMultiTap, window, Bool.false_eq_true, if_false, short]
              exact .begin policy window

/-- No press falls under two cases: the state and the window decide. -/
theorem Pressed.press_eq {s : Settings} {now : τ} {st after : State τ} {decision : Decision}
    (pressed : Pressed s now st decision after)
    : st.press s now = (decision, after) := by
  cases pressed with
  | stay soon => simp only [press, pressLatched, soon, if_true]
  | unlatch policy late => simp [press, pressLatched, late, policy]
  | restart policy late => simp [press, pressLatched, late, policy]
  | latch policy soon => simp [press, policy, pressToggle, soon]
  | wait policy late => simp [press, policy, pressToggle, late]
  | complete policy soon enough =>
      simp only [press, policy, pressMultiTap, soon, if_true, enough]
  | proceed policy soon short =>
      simp only [press, policy, pressMultiTap, soon, if_true, Nat.not_le.mpr short, if_false]
  | begin policy late =>
      simp only [press, policy, pressMultiTap, late, Bool.false_eq_true, if_false]
      rw [if_neg (by omega)]

theorem Pressed.lastPress {s : Settings} {now : τ} {st after : State τ} {decision : Decision}
    (pressed : Pressed s now st decision after)
    : after.lastPress = some now := by
  cases pressed <;> rfl

end State

end EscapeKey.Tap
