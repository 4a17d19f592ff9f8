import EscapeKey.Config
import EscapeKey.Engine.Session
import EscapeKey.Proofs.Engine.Emissions
import EscapeKey.Proofs.Engine.HostIndependence
import EscapeKey.Proofs.Trace.TimedEvents

/-! A replay depends on its engine and its events only, and it can be cut between any two events.
Every event replaces the held modifiers and the time, so nothing of the host or of the clock is
handed on that a later event could see.
-/

namespace EscapeKey.Engine.Session

variable {τ : Type}

/-- The result of a step, if it is a key event. -/
def Step.result? : Step τ → Option Result
  | .key result _ => some result
  | _ => none

theorem afterSteps_append (s : Session τ) (first rest : List (Step τ))
    : s.afterSteps (first ++ rest) = (s.afterSteps first).afterSteps rest := by
  simp only [afterSteps, List.getLast?_append]
  cases rest.getLast? <;> rfl

end EscapeKey.Engine.Session

namespace EscapeKey.Trace

variable {τ : Type} [Counter τ]

-----------------------------------------------------------------------------------------
-- One event
-----------------------------------------------------------------------------------------

/-- Looking whether the modifiers are held already saves a call and changes nothing. -/
theorem Event.hold_eq_holdMods (event : Event) (h : Host)
    : event.hold h = h.holdMods event.mods := by
  unfold hold
  split
  case isTrue same =>
    rw [← same]
    exact h.holdMods_self.symm
  case isFalse => rfl

/-- On any two hosts an event has the same outcome and makes the same calls, because it finds its
own modifiers held on both.
-/
theorem Event.replay_agreeSince (event : Event) (e : Engine τ) (h other : Host)
    : (event.replay e h).AgreeSince h other (event.replay e other) := by
  have held : (event.hold h).mods = (event.hold other).mods := by
    rw [hold_mods, hold_mods]
  have outcome := e.process_agreeSince held (Counter.ofMillis event.time.toNat)
    (event.key.getD e.trigger) event.action
  refine ⟨outcome.result, outcome.engine, .trans ?_ outcome.calls⟩
  rw [hold_eq_holdMods, hold_eq_holdMods]
  exact Host.recordAlike_holdMods h other event.mods event.mods

/-- The modifiers of an event stay held behind it. -/
theorem Event.replay_mods (event : Event) (e : Engine τ) (h : Host)
    : (event.replay e h).host.mods = event.mods :=
  (e.process_host _ _ _ _).2.trans (event.hold_mods h)

-----------------------------------------------------------------------------------------
-- Whole replays
-----------------------------------------------------------------------------------------

/-- A replay goes the same way on any two hosts, by induction on the events. -/
theorem replay_agree (e : Engine τ) (h other : Host) (events : List Event)
    : (replay e h events).steps = (replay e other events).steps
      ∧ (replay e h events).engine = (replay e other events).engine
      ∧ h.RecordAlike other (replay e h events).host (replay e other events).host := by
  induction events generalizing e h other with
  | nil => exact ⟨rfl, rfl, .refl h other⟩
  | cons event rest ih =>
      have first := event.replay_agreeSince e h other
      obtain ⟨steps, engine, calls⟩ :=
        ih (event.replay e other).engine (event.replay e h).host (event.replay e other).host
      simp only [replay, first.engine, first.result, steps, engine, true_and]
      exact first.calls.trans calls

/-- The second part of a trace is replayed on what the first part leaves, by induction on the
first part.
-/
theorem replay_append (e : Engine τ) (h : Host) (first rest : List Event)
    : let cut := replay e h first
      let later := replay cut.engine cut.host rest
      replay e h (first ++ rest) = { later with steps := cut.steps ++ later.steps } := by
  induction first generalizing e h with
  | nil => rfl
  | cons event more ih =>
      simp only [List.cons_append, replay]
      rw [ih]

theorem replay_mods_of_getLast? (e : Engine τ) (h : Host) {events : List Event} {last : Event}
    (ends : events.getLast? = some last)
    : (replay e h events).host.mods = last.mods := by
  obtain ⟨before, rfl⟩ := List.getLast?_eq_some_iff.mp ends
  rw [replay_append]
  exact last.replay_mods _ _

-----------------------------------------------------------------------------------------
-- Replays by hand
-----------------------------------------------------------------------------------------

open Engine (Session)

/-- An event by hand: its modifiers are held, the clock is set to its time, and the key acts. -/
def Event.ops (event : Event) : List Session.Op :=
  [.script (.op (.holdMods event.mods) .done), .move (.jump event.time),
    .key event.key event.action]

/-- The session after the event, which leaves its time on the clock. -/
def Event.sessionAfter (event : Event) (s : Session τ) : Session τ where
  engine := (event.replay s.engine s.host).engine
  host := (event.replay s.engine s.host).host
  now := Counter.ofMillis event.time.toNat

/-- An event by hand answers as in a replay, whatever the clock showed before it, and the rest
goes on behind it.
-/
theorem Event.steps_ops (event : Event) (s : Session τ) (rest : List Session.Op)
    : ∃ first,
        s.steps (event.ops ++ rest) = first ++ (event.sessionAfter s).steps rest
        ∧ first.filterMap Session.Step.result? = [(event.replay s.engine s.host).result]
        ∧ s.afterSteps first = event.sessionAfter s := by
  let held : Session τ := { s with host := s.host.holdMods event.mods }
  let timed : Session τ := { held with now := Counter.ofMillis event.time.toNat }
  refine ⟨[.script (.op (.holdMods event.mods)) held, .move (.jump event.time) timed,
    .key (event.replay s.engine s.host).result (event.sessionAfter s)], ?_, rfl, rfl⟩
  simp only [sessionAfter, replay, hold_eq_holdMods]
  rfl

/-- By hand a trace has the results of its replay and ends with the same engine and host, whatever
the clock shows at first, by induction on the events.
-/
theorem steps_flatMap_ops (s : Session τ) (events : List Event)
    : let steps := s.steps (events.flatMap Event.ops)
      let r := replay s.engine s.host events
      steps.filterMap Session.Step.result? = r.steps.map (·.result)
      ∧ (s.afterSteps steps).engine = r.engine
      ∧ (s.afterSteps steps).host = r.host := by
  induction events generalizing s with
  | nil => exact ⟨rfl, rfl, rfl⟩
  | cons event rest ih =>
      obtain ⟨first, steps, results, after⟩ := event.steps_ops s (rest.flatMap Event.ops)
      obtain ⟨laterResults, engine, host⟩ := ih (event.sessionAfter s)
      simp only [List.flatMap_cons, steps, List.filterMap_append, results,
        Session.afterSteps_append, after, laterResults, engine, host]
      exact ⟨rfl, rfl, rfl⟩

-----------------------------------------------------------------------------------------
-- What a replay depends on
-----------------------------------------------------------------------------------------

/-- A replay depends on its engine and its events only. On any two hosts, whatever is held or down
there and has been recorded, it takes the same steps, leaves the same engine and makes the same
calls, and the modifiers of its last event stay held. Cut between any two events, it is the
replay of the first part and then that of the second part on the engine and the host that the
first part leaves. Nor does it see what the clock showed before: on a clock that is set to the
time of each event in turn, the results, the engine and the host are the same from any reading.
-/
theorem replay_cut (e : Engine τ)
    : (∀ (h other : Host) (events : List Event),
        (replay e h events).steps = (replay e other events).steps
        ∧ (replay e h events).engine = (replay e other events).engine
        ∧ ∃ calls,
            (replay e h events).host.events = h.events ++ calls
            ∧ (replay e other events).host.events = other.events ++ calls)
      ∧ (∀ (h : Host) (events : List Event) (last : Event),
          events.getLast? = some last → (replay e h events).host.mods = last.mods)
      ∧ (∀ (h : Host) (first rest : List Event),
          let cut := replay e h first
          let later := replay cut.engine cut.host rest
          (replay e h (first ++ rest)).steps = cut.steps ++ later.steps
          ∧ (replay e h (first ++ rest)).engine = later.engine
          ∧ (replay e h (first ++ rest)).host = later.host)
      ∧ ∀ (h : Host) (now : τ) (events : List Event),
          let s : Session τ := ⟨e, h, now⟩
          let steps := s.steps (events.flatMap Event.ops)
          steps.filterMap Session.Step.result? = (replay e h events).steps.map (·.result)
          ∧ (s.afterSteps steps).engine = (replay e h events).engine
          ∧ (s.afterSteps steps).host = (replay e h events).host := by
  refine ⟨replay_agree e, ?_, ?_, ?_⟩
  · intro h events last ends
    exact replay_mods_of_getLast? e h ends
  · intro h first rest cut later
    rw [replay_append]
    exact ⟨rfl, rfl, rfl⟩
  · intro h now events
    exact steps_flatMap_ops ⟨e, h, now⟩ events

/-- Two presses that the timing decides and one that the shift rule answers, at times that go back
and with a rollover between them. A host that holds another modifier and has recorded a call
answers them like an idle one, and they may be cut in the middle.
-/
theorem replay_cut_busy_host
    : let e : Engine (BitVec 16) := Config.standard.engine
      let busy := (Host.holding (⟨.gui, .right⟩ : Modifier).mask).tap .grave
      let last : Event := ⟨65636, .press, none, ∅⟩
      let events : List Event :=
        [⟨65700, .press, none, (⟨.shift, .left⟩ : Modifier).mask⟩, ⟨65500, .press, none, ∅⟩, last]
      let cut := replay e busy (events.take 2)
      (replay e busy events).steps = (replay e .idle events).steps
      ∧ (replay e .idle events).steps.map (·.result.decision?)
        = [none, some .singleTap, some .repeatTap]
      ∧ events.getLast? = some last
      ∧ (replay e busy events).host.mods = last.mods
      ∧ (replay e busy events).host = (replay cut.engine cut.host (events.drop 2)).host := by
  intro e busy last events cut
  obtain ⟨agree, held, cuts, _⟩ := replay_cut e
  have ends : events.getLast? = some last := rfl
  exact ⟨(agree busy .idle events).1, by decide, ends, held busy events last ends,
    (cuts busy (events.take 2) (events.drop 2)).2.2⟩

end EscapeKey.Trace
