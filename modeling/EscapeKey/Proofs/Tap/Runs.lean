import Mathlib.Data.List.ReduceOption
import EscapeKey.Tap

/-! Runs of the tap machine by itself. -/

namespace EscapeKey.Tap.State

variable {τ : Type} [Counter τ]

/-- The state after a list of inputs. -/
def run (s : Settings) (st : State τ) (inputs : List (Input τ)) : State τ :=
  inputs.foldl (fun before input => (before.step s input).2) st

/-- The decisions on the presses of a list of inputs, in order. -/
def decisions (s : Settings) (st : State τ) (inputs : List (Input τ)) : List Decision :=
  ((st.steps s inputs).map (·.1)).reduceOption

/-- What the initial state has and every press keeps is kept by all runs, by induction on the
inputs.
-/
theorem run_initial_induction {motive : State τ → Prop} (s : Settings)
    (start : motive initial)
    (press : ∀ st now, motive st → motive (st.press s now).2) (inputs : List (Input τ))
    : motive (initial.run s inputs) := by
  have keeps (st : State τ) (holds : motive st) : motive (st.run s inputs) := by
    induction inputs generalizing st with
    | nil => exact holds
    | cons input rest ih =>
        cases input with
        | clear => exact ih initial start
        | press now => exact ih _ (press st now holds)
  exact keeps initial start

/-- The first of several presses is decided, and then the others behind it. -/
theorem decisions_press_cons (s : Settings) (st : State τ) (now : τ) (rest : List (Input τ))
    : st.decisions s (.press now :: rest)
      = (st.press s now).1 :: (st.press s now).2.decisions s rest :=
  rfl

/-- The second part of a list of inputs starts from the state that the first part leaves. -/
theorem run_append (s : Settings) (st : State τ) (first rest : List (Input τ))
    : st.run s (first ++ rest) = (st.run s first).run s rest :=
  List.foldl_append

/-- The decisions on two lists of inputs follow each other, by induction on the first. -/
theorem decisions_append (s : Settings) (st : State τ) (first rest : List (Input τ))
    : st.decisions s (first ++ rest)
      = st.decisions s first ++ (st.run s first).decisions s rest := by
  induction first generalizing st with
  | nil => rfl
  | cons input later ih =>
      have tail := ih (st.step s input).2
      simp only [decisions, run, List.foldl_cons, List.cons_append, steps, List.map_cons] at tail ⊢
      cases answer : (st.step s input).1 with
      | none => simpa only [List.reduceOption_cons_of_none] using tail
      | some decision =>
          simpa only [List.reduceOption_cons_of_some, List.cons_append]
            using congrArg (List.cons decision) tail

end EscapeKey.Tap.State
