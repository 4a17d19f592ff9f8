import Mathlib.Data.List.Chain
import EscapeKey.Config.Validation
import EscapeKey.Proofs.Tap.YoungRuns
import EscapeKey.Proofs.Trace.Lines
import EscapeKey.Proofs.Trace.TimedEvents

/-! A replayed trace does not show where the counter starts again from zero, as long as the gaps
between the presses that reach the timing are shorter than its period, by the term of a run where
runs are counted.
-/

namespace EscapeKey.Trace

/-- The times of the events that the timing decides. -/
def timedPresses (trigger : Key) (rules : List Override.Rule) (events : List Event)
    : List Nat :=
  (events.filter (·.IsTimed trigger rules)).map (·.time.toNat)

/-- A counter of `w` bits bridges the gaps between consecutive presses. -/
def Bridged (w : Nat) (policy : Tap.Policy) (times : List Nat) : Prop :=
  times.IsChain (fun earlier later => policy.Bridges w (later - earlier))

instance (w : Nat) (policy : Tap.Policy) (times : List Nat)
    : Decidable (Bridged w policy times) :=
  inferInstanceAs (Decidable (List.IsChain _ _))

theorem Ordered.timedPresses {trigger : Key} {rules : List Override.Rule}
    {events : List Event} (ordered : Ordered events)
    : (Trace.timedPresses trigger rules events).IsChain (· ≤ ·) := by
  apply List.Pairwise.isChain
  apply List.Pairwise.map
  · intro earlier later passed
    exact UInt64.le_iff_toNat_le.mp passed
  · exact ordered.filter _

/-- What relates consecutive times relates a last time to the first of those that follow. -/
theorem chain_from_last {R : Nat → Nat → Prop} {last : Option Nat} {first : Nat}
    {rest : List Nat} (chain : (last.toList ++ first :: rest).IsChain R)
    : (∀ time ∈ last, R time first) ∧ ((some first).toList ++ rest).IsChain R := by
  cases last with
  | none => exact ⟨by simp, chain⟩
  | some time =>
      obtain ⟨related, later⟩ := List.isChain_cons_cons.mp chain
      exact ⟨fun _ same => Option.some.inj same ▸ related, later⟩

/-- A timed event comes first among the timed presses of a trace that it begins. -/
theorem timedPresses_cons {trigger : Key} {rules : List Override.Rule} (event : Event)
    (rest : List Event)
    : timedPresses trigger rules (event :: rest)
      = if event.IsTimed trigger rules then event.time.toNat :: timedPresses trigger rules rest
        else timedPresses trigger rules rest := by
  by_cases timed : event.IsTimed trigger rules <;> simp [timedPresses, timed]

-----------------------------------------------------------------------------------------
-- The truncated counter in lock-step with the unbounded one
-----------------------------------------------------------------------------------------

/-- What an engine on the unbounded counter brings to the rest of a trace: its run is young, and
the presses to come continue from its latest one in order and by gaps that are bridged.
-/
structure Ready (w : Nat) (e : Engine Nat) (events : List Event) : Prop where
  young : e.tap.RunIsYoung e.settings
  ordered
    : (e.tap.lastPress.toList ++ timedPresses e.trigger e.rules events).IsChain (· ≤ ·)
  bridged
    : Bridged w e.settings.policy
        (e.tap.lastPress.toList ++ timedPresses e.trigger e.rules events)

/-- The next event, if the timing decides it, finds windows that the truncated counter keeps. -/
theorem Ready.keepsWindows {w : Nat} {e : Engine Nat} {event : Event} {rest : List Event}
    (ready : Ready w e (event :: rest)) (timed : event.IsTimed e.trigger e.rules)
    : e.tap.KeepsWindows (BitVec.ofNat w) e.settings event.time.toNat := by
  obtain ⟨young, ordered, bridged⟩ := ready
  rw [timedPresses_cons, if_pos timed] at ordered bridged
  exact Tap.State.keepsWindows_ofNat young (chain_from_last ordered).1 (chain_from_last bridged).1

/-- An event leaves the engine ready for the rest, by cases on whether the timing decides it. -/
theorem Ready.replay {w : Nat} {e : Engine Nat} {event : Event} {rest : List Event}
    (h : Host) (ready : Ready w e (event :: rest))
    : Ready w (event.replay e h).engine rest := by
  obtain ⟨young, ordered, bridged⟩ := ready
  by_cases timed : event.IsTimed e.trigger e.rules
  · rw [timedPresses_cons, if_pos timed] at ordered bridged
    have pressed := Tap.State.pressed_press e.settings event.time.toNat e.tap
    have latest : (e.tap.press e.settings event.time.toNat).2.lastPress
        = some event.time.toNat := pressed.lastPress
    obtain ⟨passed, ordered⟩ := chain_from_last ordered
    obtain ⟨_, bridged⟩ := chain_from_last bridged
    rw [Event.replay_engine_of_timed h timed]
    rw [← latest] at ordered bridged
    exact ⟨pressed.runIsYoung young passed, ordered, bridged⟩
  · rw [timedPresses_cons, if_neg timed] at ordered bridged
    rw [Event.replay_engine_of_not_timed h timed]
    exact ⟨young, ordered, bridged⟩

/-- A replay on a counter of `w` bits is the one on the unbounded counter with its readings
truncated, by induction on the events.
-/
theorem Ready.replay_ofNat {w : Nat} {e : Engine Nat} (h : Host) {events : List Event}
    (ready : Ready w e events)
    : Trace.replay (e.map (BitVec.ofNat w)) h events
      = (Trace.replay e h events).map (BitVec.ofNat w) := by
  induction events generalizing e h with
  | nil => rfl
  | cons event rest ih =>
      have first : event.replay (e.map (BitVec.ofNat w)) h
          = (event.replay e h).map (BitVec.ofNat w) :=
        event.replay_map e h rfl ready.keepsWindows
      have later := ih (event.replay e h).host (ready.replay h)
      simp only [Trace.replay, first, Engine.Outcome.map, later]
      rfl

theorem ready_fresh {w : Nat} (c : Config) {events : List Event} (ordered : Ordered events)
    (bridged : Bridged w c.tap.policy (timedPresses c.trigger c.rules events))
    : Ready w c.engine events :=
  ⟨Tap.State.runIsYoung_initial c.tap, ordered.timedPresses, bridged⟩

-----------------------------------------------------------------------------------------
-- Replays on different counters
-----------------------------------------------------------------------------------------

/-- On a fresh engine bridged gaps make a counter of `w` bits replay like the unbounded one. -/
theorem replay_fresh_ofNat {w : Nat} (c : Config) (h : Host) {events : List Event}
    (ordered : Ordered events)
    (bridged : Bridged w c.tap.policy (timedPresses c.trigger c.rules events))
    : replay (c.engine : Engine (BitVec w)) h events
      = (replay (c.engine : Engine Nat) h events).map (BitVec.ofNat w) :=
  (ready_fresh c ordered bridged).replay_ofNat h

/-- The settings of a run of three presses within a minute, which is nearly a period of the
counter of 16 bits.
-/
def longRunSettings : Settings where
  general := none
  timing := some
    { timeout := none, policy := some .multiTap, taps := some 3, term := some 60000,
      single := none, repeated := none }
  overrides := none

/-- A press of the trigger with nothing held. -/
def triggerPress (time : UInt64) : Event :=
  ⟨time, .press, none, ∅⟩

/-- Gaps below the period do not suffice where runs are counted: the third press comes two
minutes after the first one, which the counter of 16 bits takes for less than one.
-/
theorem replay_longRun_differs
    : ∃ (c : Config) (taps : UInt8) (term : UInt32) (events : List Event),
        longRunSettings.validate = .ok c
        ∧ c.tap.policy = .multiTap taps term
        ∧ Ordered events
        ∧ (timedPresses c.trigger c.rules events).IsChain
            (fun earlier later => later - earlier < 2 ^ 16)
        ∧ (replay (c.engine : Engine (BitVec 16)) .idle events).steps.map
              (·.result.decision?)
            ≠ (replay (c.engine : Engine Nat) .idle events).steps.map
                (·.result.decision?) := by
  let c : Config :=
    { Config.standard with tap := { Tap.Settings.standard with policy := .multiTap 3 60000 } }
  refine ⟨c, 3, 60000, [0, 59999, 119999].map triggerPress, rfl, rfl, ?_, ?_, ?_⟩
  · decide
  · decide
  · decide

/-- The rollover of a counter is invisible in the replay of an ordered trace on a fresh engine, if
consecutive presses that reach the timing lie less than a period apart, and by the term of a run
less under the multi-tap policy. Results and host are those of the counter that never starts
again, and of the timing only the readings are truncated; so the counters of 16 and 32 bits
agree wherever the shorter one bridges the gaps. Without the allowance for the term they may not.
-/
theorem replay_rollover
    : (∀ (w : Nat) (c : Config) (h : Host) (events : List Event),
        Ordered events
        → Bridged w c.tap.policy (timedPresses c.trigger c.rules events)
        → let narrow := replay (c.engine : Engine (BitVec w)) h events
          let unbounded := replay (c.engine : Engine Nat) h events
          narrow.steps = unbounded.steps
          ∧ narrow.host = unbounded.host
          ∧ narrow.engine.tap.mode = unbounded.engine.tap.mode
          ∧ narrow.engine.tap.runTaps = unbounded.engine.tap.runTaps
          ∧ narrow.engine.tap.lastPress
            = unbounded.engine.tap.lastPress.map (BitVec.ofNat w)
          ∧ narrow.engine.tap.runStart
            = unbounded.engine.tap.runStart.map (BitVec.ofNat w))
      ∧ (∀ (c : Config) (h : Host) (events : List Event),
          Ordered events
          → Bridged 16 c.tap.policy (timedPresses c.trigger c.rules events)
          → let narrow := replay (c.engine : Engine (BitVec 16)) h events
            let wide := replay (c.engine : Engine (BitVec 32)) h events
            narrow.steps = wide.steps
            ∧ narrow.host = wide.host
            ∧ narrow.engine.tap.mode = wide.engine.tap.mode
            ∧ narrow.engine.tap.runTaps = wide.engine.tap.runTaps
            ∧ narrow.engine.tap.lastPress
              = wide.engine.tap.lastPress.map (BitVec.setWidth 16)
            ∧ narrow.engine.tap.runStart
              = wide.engine.tap.runStart.map (BitVec.setWidth 16))
      ∧ ∃ (settings : Settings) (c : Config) (taps : UInt8) (term : UInt32)
          (events : List Event),
          settings.validate = .ok c
          ∧ c.tap.policy = .multiTap taps term
          ∧ Ordered events
          ∧ (timedPresses c.trigger c.rules events).IsChain
              (fun earlier later => later - earlier < 2 ^ 16)
          ∧ (replay (c.engine : Engine (BitVec 16)) .idle events).steps.map
                (·.result.decision?)
              ≠ (replay (c.engine : Engine Nat) .idle events).steps.map
                  (·.result.decision?) := by
  refine ⟨?_, ?_, longRunSettings, replay_longRun_differs⟩
  · intro w c h events ordered bridged narrow unbounded
    have truncated : narrow = unbounded.map (BitVec.ofNat w) :=
      replay_fresh_ofNat c h ordered bridged
    rw [truncated]
    exact ⟨rfl, rfl, rfl, rfl, rfl, rfl⟩
  · intro c h events ordered bridged narrow wide
    let unbounded := replay (c.engine : Engine Nat) h events
    have wider : Bridged 32 c.tap.policy (timedPresses c.trigger c.rules events) :=
      bridged.imp (fun _ _ gap => gap.mono (by decide))
    have first : narrow = unbounded.map (BitVec.ofNat 16) :=
      replay_fresh_ofNat c h ordered bridged
    have second : wide = unbounded.map (BitVec.ofNat 32) :=
      replay_fresh_ofNat c h ordered wider
    have twice (reading : Option Nat) : reading.map (BitVec.ofNat 16)
        = (reading.map (BitVec.ofNat 32)).map (BitVec.setWidth 16) := by
      cases reading with
      | none => rfl
      | some time => simp [BitVec.setWidth_ofNat_of_le]
    rw [first, second]
    exact ⟨rfl, rfl, rfl, rfl, twice _, twice _⟩

/-- Three quick presses over a rollover latch on the counter of 16 bits, and a minute later, over
another rollover, a press unlatches.
-/
theorem replay_rollover_twice
    : let c : Config :=
        { Config.standard with
          tap := { Tap.Settings.standard with policy := .multiTap 3 400 } }
      let events := [65400, 65500, 65600, 66000, 131100].map triggerPress
      Ordered events
      ∧ Bridged 16 c.tap.policy (timedPresses c.trigger c.rules events)
      ∧ (replay (c.engine : Engine (BitVec 16)) .idle events).steps.map (·.result.decision?)
        = [some .singleTap, some .singleTap, some .repeatTap, some .repeatTap,
            some .singleTap]
      ∧ (replay (c.engine : Engine (BitVec 16)) .idle events).host
        = (replay (c.engine : Engine (BitVec 32)) .idle events).host := by
  intro c events
  have ordered : Ordered events := by decide
  have bridged : Bridged 16 c.tap.policy (timedPresses c.trigger c.rules events) := by decide
  obtain ⟨steps, _⟩ := replay_rollover.1 16 c .idle events ordered bridged
  obtain ⟨_, host, _⟩ := replay_rollover.2.1 c .idle events ordered bridged
  refine ⟨ordered, bridged, ?_, host⟩
  rw [steps]
  decide

end EscapeKey.Trace
