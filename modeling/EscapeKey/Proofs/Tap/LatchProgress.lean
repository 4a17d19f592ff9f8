import EscapeKey.Proofs.Config.Validity
import EscapeKey.Proofs.Counter.Elapsed
import EscapeKey.Proofs.Tap.Consistency

/-! A latch can be left and reached. A press that comes late enough is a single tap, and a counter
has a reading as late as that exactly if the window is shorter than its period. Presses at one
reading come closer to a repeat tap with every single tap among them.
-/

namespace EscapeKey.Tap

/-- The presses in a row that latch an idle machine. -/
def Policy.presses : Policy → Nat
  | .toggle => 2
  | .multiTap taps _ => max taps.toNat 2

theorem Policy.two_le_presses (policy : Policy) : 2 ≤ policy.presses := by
  cases policy with
  | toggle => exact Nat.le_refl 2
  | multiTap taps term => exact Nat.le_max_right _ _

namespace State

variable {τ : Type} [Counter τ]

/-- A press at `now` is a single tap and leaves the machine idle. -/
def SinglesAt (s : Settings) (st : State τ) (now : τ) : Prop :=
  (st.press s now).1 = .singleTap ∧ (st.press s now).2.mode = .idle

instance (s : Settings) (st : State τ) (now : τ) : Decidable (st.SinglesAt s now) :=
  inferInstanceAs (Decidable (_ ∧ _))

/-- A press at `now` comes within the window that the machine asks about in its mode. -/
def isSoon (s : Settings) (now : τ) (st : State τ) : Bool :=
  match st.mode, s.policy with
  | .latched, _ | .idle, .toggle => isWithin now s.timeout st.lastPress
  | .idle, .multiTap _ term => isWithin now term st.runStart

/-- So many presses at `now` are enough for a repeat tap: one of a machine that is latched or
toggles, and the rest of the run that is counted, as long as these presses are soon.
-/
def distance (s : Settings) (now : τ) (st : State τ) : Nat :=
  if st.isSoon s now then
    match st.mode, s.policy with
    | .latched, _ | .idle, .toggle => 1
    | .idle, .multiTap _ _ => max (s.policy.presses - st.runTaps) 1
  else s.policy.presses

-----------------------------------------------------------------------------------------
-- Leaving the latch
-----------------------------------------------------------------------------------------

/-- A press that is not soon is a single tap and leaves the machine idle, by cases on what it
does.
-/
theorem Pressed.single_of_late {s : Settings} {now : τ} {st after : State τ} {decision : Decision}
    (pressed : Pressed s now st decision after) (late : st.isSoon s now = false)
    : decision = .singleTap ∧ after.mode = .idle := by
  cases pressed with
  | stay soon => exact absurd (late.symm.trans soon) nofun
  | latch policy soon | complete policy soon =>
      simp only [isSoon, policy] at late
      exact absurd (late.symm.trans soon) nofun
  | unlatch | restart | wait | proceed | begin => exact ⟨rfl, rfl⟩

theorem singlesAt_of_late {s : Settings} {now : τ} {st : State τ} (late : st.isSoon s now = false)
    : st.SinglesAt s now :=
  (pressed_press s now st).single_of_late late

/-- A press that is soon repeats, if the machine is latched. -/
theorem Pressed.repeatTap_of_soon {s : Settings} {now : τ} {st after : State τ}
    {decision : Decision} (pressed : Pressed s now st decision after) (latched : st.mode = .latched)
    (soon : isWithin now s.timeout st.lastPress = true)
    : decision = .repeatTap := by
  cases pressed with
  | stay => rfl
  | unlatch _ late | restart _ late => exact absurd (soon.symm.trans late) nofun
  | latch | wait | complete | proceed | begin => exact absurd latched nofun

theorem singlesAt_iff_of_latched {s : Settings} {now : τ} {st : State τ}
    (latched : st.mode = .latched)
    : st.SinglesAt s now ↔ isWithin now s.timeout st.lastPress = false := by
  constructor
  · rintro ⟨single, _⟩
    rw [Bool.eq_false_iff]
    intro soon
    have repeats := (pressed_press s now st).repeatTap_of_soon latched soon
    exact absurd (single.symm.trans repeats) nofun
  · intro late
    apply singlesAt_of_late
    simp only [isSoon, latched, late]

/-- A machine is only latched behind a press. -/
theorem exists_lastPress_of_latched (s : Settings) (inputs : List (Input τ))
    (latched : (initial.run s inputs).mode = .latched)
    : ∃ last, (initial.run s inputs).lastPress = some last :=
  Option.isSome_iff_exists.mp ((consistent_run s inputs).latched latched).1

variable {w : Nat}

/-- Some reading lies outside a window that is shorter than the period of the counter. -/
theorem exists_not_isWithin {window : UInt32} (short : window.toNat < 2 ^ w)
    (earlier : Option (BitVec w))
    : ∃ now, isWithin now window earlier = false := by
  cases earlier with
  | none => exact ⟨0, rfl⟩
  | some earlier =>
      obtain ⟨now, late⟩ := (Counter.exists_le_elapsed_iff earlier).mpr short
      exact ⟨now, isWithin_some_eq_false_iff.mpr late⟩

/-- Where all windows are shorter than the period, some press is a single tap. -/
theorem exists_singlesAt {s : Settings} (timeout : s.timeout.toNat < 2 ^ w)
    (term : ∀ taps term, s.policy = .multiTap taps term → term.toNat < 2 ^ w)
    (st : State (BitVec w))
    : ∃ now, st.SinglesAt s now := by
  have late : ∃ now, st.isSoon s now = false := by
    cases mode : st.mode with
    | latched =>
        simp only [isSoon, mode]
        exact exists_not_isWithin timeout st.lastPress
    | idle =>
        cases policy : s.policy with
        | toggle =>
            simp only [isSoon, mode, policy]
            exact exists_not_isWithin timeout st.lastPress
        | multiTap taps window =>
            simp only [isSoon, mode, policy]
            exact exists_not_isWithin (term taps window policy) st.runStart
  obtain ⟨now, late⟩ := late
  exact ⟨now, singlesAt_of_late late⟩

-----------------------------------------------------------------------------------------
-- Reaching the latch
-----------------------------------------------------------------------------------------

theorem isWithin_self {window : UInt32} (opens : 0 < window.toNat) (now : BitVec w)
    : isWithin now window (some now) = true := by
  rw [isWithin_some_iff, Counter.elapsed_self]
  exact opens

theorem distance_le (s : Settings) (now : τ) (st : State τ)
    : st.distance s now ≤ s.policy.presses := by
  have two := s.policy.two_le_presses
  unfold distance
  split
  · split <;> omega
  · exact Nat.le_refl _

theorem distance_pos (s : Settings) (now : τ) (st : State τ) : 0 < st.distance s now := by
  have two := s.policy.two_le_presses
  unfold distance
  split
  · split <;> omega
  · omega

/-- A single tap brings the machine closer to a repeat tap at the same reading, by cases on what the
press does. A window that is open holds the reading of a press that opens it.
-/
theorem Pressed.distance_lt {s : Settings} {now : BitVec w} {st after : State (BitVec w)}
    (valid : s.Valid) (pressed : Pressed s now st .singleTap after)
    : after.distance s now < st.distance s now := by
  have atLeastTwo := s.policy.two_le_presses
  have timeout := isWithin_self valid.timeout.1 now
  have term {taps : UInt8} {window : UInt32} (policy : s.policy = .multiTap taps window)
      : isWithin now window (some now) = true := by
    have inRange := valid.policy
    rw [policy] at inRange
    exact isWithin_self inRange.2.1 now
  cases pressed with
  | unlatch policy late | wait policy late =>
      simp only [distance, isSoon, policy, late, timeout, if_true]
      exact Nat.lt_succ_self 1
  | restart policy late | begin policy late =>
      simp only [distance, isSoon, policy, late, term policy, if_true]
      rw [policy] at atLeastTwo
      simp only [Bool.false_eq_true, if_false]
      omega
  | @proceed _ _ count taps _ policy soon short =>
      -- the count has not reached the end of a byte, since the run is unfinished
      have byte := taps.toNat_lt
      simp only [distance, isSoon, policy, soon, if_true, Policy.presses]
      omega

/-- Enough presses at one reading have a repeat tap among them, by induction on their number: the
first one is a repeat tap, or the others have a shorter way.
-/
theorem repeatTap_mem_decisions {s : Settings} (valid : s.Valid) (now : BitVec w)
    {st : State (BitVec w)} {n : Nat} (enough : st.distance s now ≤ n)
    : .repeatTap ∈ st.decisions s (List.replicate n (.press now)) := by
  induction n generalizing st with
  | zero => exact absurd enough (Nat.not_le.mpr (st.distance_pos s now))
  | succ n ih =>
      rw [List.replicate_succ, decisions_press_cons]
      have pressed := pressed_press s now st
      cases decision : (st.press s now).1 with
      | repeatTap => exact List.mem_cons_self
      | singleTap =>
          rw [decision] at pressed
          have closer := pressed.distance_lt valid
          exact List.mem_cons_of_mem _ (ih (by omega))

end State

/-- A latch can be left, and always be reached. From the latch some press is a single tap that
leaves the machine idle, exactly if the timeout is shorter than the period of the counter. On
counters of 16 bits and more this is so for the settings of every configuration that is read, from
whatever state, and whatever the reading, as many presses at it as latch an idle machine have a
repeat tap among them.
-/
theorem latch_progress {w : Nat}
    : (∀ (s : Settings) (inputs : List (Input (BitVec w))),
        let st := State.initial.run s inputs
        st.mode = .latched
        → ((∃ now, st.SinglesAt s now) ↔ s.timeout.toNat < 2 ^ w))
      ∧ (16 ≤ w
        → ∀ (written : EscapeKey.Settings) (c : Config),
          written.validate = .ok c
          → ∀ (st : State (BitVec w)),
            (∃ now, st.SinglesAt c.tap now)
            ∧ ∀ now,
              .repeatTap
                ∈ st.decisions c.tap (List.replicate c.tap.policy.presses (.press now))) := by
  refine ⟨?leaves, ?accepted⟩
  case leaves =>
    intro s inputs st latched
    obtain ⟨last, latest⟩ := State.exists_lastPress_of_latched s inputs latched
    simp only [State.singlesAt_iff_of_latched latched]
    rw [latest]
    simp only [isWithin_some_eq_false_iff]
    exact Counter.exists_le_elapsed_iff last
  case accepted =>
    intro wide written c read st
    have valid : c.tap.Valid := (EscapeKey.Settings.valid_of_validate read).tap
    have period : 60000 < 2 ^ w :=
      Nat.lt_of_lt_of_le (by decide : 60000 < 2 ^ 16) (Nat.pow_le_pow_right (by decide) wide)
    have timeout : c.tap.timeout.toNat < 2 ^ w := Nat.lt_of_le_of_lt valid.timeout.2 period
    have term (taps : UInt8) (term : UInt32) (policy : c.tap.policy = .multiTap taps term)
        : term.toNat < 2 ^ w := by
      have inRange := valid.policy
      rw [policy] at inRange
      exact Nat.lt_of_le_of_lt inRange.2.2 period
    refine ⟨State.exists_singlesAt timeout term st, fun now => ?_⟩
    exact State.repeatTap_mem_decisions valid now (State.distance_le c.tap now st)

/-- The longest windows that settings may have, on a counter of 16 bits: from the latch the press at
34464 is just late enough, and whatever the state, one of three presses at 34463 is a repeat tap.
With a timeout of a period no press leaves the latch.
-/
theorem latch_progress_longest
    : let written : EscapeKey.Settings :=
        { general := none
          timing := some ⟨some 60000, some .multiTap, some 3, none, none, none⟩
          overrides := none }
      let s : Settings := { Settings.standard with timeout := 60000, policy := .multiTap 3 60000 }
      let inputs : List (Input (BitVec 16)) := [.press 0, .press 20000, .press 40000]
      let st := State.initial.run s inputs
      let endless : Settings := { Settings.standard with timeout := 65536 }
      let stuck := State.initial.run endless inputs
      written.validate = .ok { Config.standard with tap := s }
      ∧ st.mode = .latched
      ∧ st.SinglesAt s 34464 ∧ ¬ st.SinglesAt s 34463
      ∧ ((∃ now, st.SinglesAt s now) ↔ 60000 < 2 ^ 16)
      ∧ (∃ now, st.SinglesAt s now)
      ∧ .repeatTap ∈ st.decisions s (List.replicate 3 (.press 34463))
      ∧ stuck.mode = .latched
      ∧ ¬ ∃ now, stuck.SinglesAt endless now := by
  intro written s inputs st endless stuck
  have read : written.validate = .ok { Config.standard with tap := s } := rfl
  have latched : st.mode = .latched := by decide
  have never : stuck.mode = .latched := by decide
  obtain ⟨leaves, accepted⟩ := latch_progress (w := 16)
  obtain ⟨single, repeats⟩ := accepted (by decide) written _ read st
  exact ⟨read, latched, by decide, by decide, leaves s inputs latched, single, repeats 34463, never,
    mt (leaves endless inputs never).mp (by decide)⟩

end EscapeKey.Tap
