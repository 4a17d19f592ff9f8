import EscapeKey.Engine
import EscapeKey.Proofs.Host.Calls

/-! What the engine does depends on the held modifiers only. Neither the keys that are down on the
host nor what it has recorded before enters into an answer or a call.
-/

namespace EscapeKey.Engine

variable {τ : Type}

/-- Two outcomes agree on the result and the engine, and their hosts have recorded the same calls
since they were the two given ones.
-/
structure Outcome.AgreeSince (h other : Host) (first second : Outcome τ) : Prop where
  result : first.result = second.result
  engine : first.engine = second.engine
  calls : h.RecordAlike other first.host second.host

variable [Counter τ]

/-- A key event on hosts with the same held modifiers. Witness: cases on who answers it, following
the engine.
-/
theorem process_agreeSince (e : Engine τ) {h other : Host} (same : h.mods = other.mods)
    (now : τ) (key : Key) (action : Action)
    : (e.process h now key action).AgreeSince h other (e.process other now key action) := by
  by_cases foreign : key = e.trigger
  case neg =>
    rw [process, process, if_pos foreign, if_pos foreign]
    exact ⟨rfl, rfl, .refl h other⟩
  rw [process, process, if_neg (not_not_intro foreign), if_neg (not_not_intro foreign)]
  cases action with
  | release | autoRepeat => exact ⟨rfl, rfl, .refl h other⟩
  | press =>
      change (e.press h now).AgreeSince h other (e.press other now)
      simp only [press, same]
      cases Override.resolve e.rules other.mods with
      | some rule => exact ⟨rfl, rfl, Host.recordAlike_applyRule same rule⟩
      | none => exact ⟨rfl, rfl, Host.recordAlike_emit h other _⟩

end EscapeKey.Engine
