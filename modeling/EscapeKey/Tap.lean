import EscapeKey.Combo
import EscapeKey.Counter

/-! The timing of the trigger: a press by itself is a single tap, and presses that follow each
other quickly are repeat taps. The machine is idle until enough quick presses latch it, and it
stays latched as long as every press comes soon after the one before.
-/

namespace EscapeKey.Tap

inductive Mode where
  | idle
  | latched
deriving DecidableEq, Repr

def Mode.text : Mode → String
  | .idle => "idle"
  | .latched => "grave-latched"

/-- How presses latch an idle machine. -/
inductive Policy where
  /-- A second press within the timeout latches. -/
  | toggle
  /-- So many presses within the term of the first one latch; fewer than two count as two. -/
  | multiTap (taps : UInt8) (term : UInt32)
deriving DecidableEq, Repr

/-- What a press turns out to be. -/
inductive Decision where
  | singleTap
  | repeatTap
deriving DecidableEq, Repr

def Decision.text : Decision → String
  | .singleTap => "single-tap"
  | .repeatTap => "repeat-tap"

/-- What the machine goes by. -/
structure Settings where
  /-- The milliseconds within which a press repeats the one before. -/
  timeout : UInt32
  policy : Policy
  single : Combo
  repeated : Combo
deriving DecidableEq, Repr

/-- The timeout in milliseconds where none is set. -/
def defaultTimeout : UInt32 := 1000

/-- The number of presses that latch under the multi-tap policy where none is set. -/
def defaultTaps : UInt8 := 2

/-- Escape for a single tap and a grave accent for a repeated one. -/
def Settings.standard : Settings where
  timeout := defaultTimeout
  policy := .toggle
  single := .bare .esc
  repeated := .bare .grave

def Settings.combo (s : Settings) : Decision → Combo
  | .singleTap => s.single
  | .repeatTap => s.repeated

/-- Two settings are alike when they agree in all but the way their combos list the
modifiers.
-/
def Settings.Alike (s t : Settings) : Prop :=
  s.timeout = t.timeout ∧ s.policy = t.policy ∧ s.single.Alike t.single
    ∧ s.repeated.Alike t.repeated

instance (s t : Settings) : Decidable (s.Alike t) :=
  inferInstanceAs (Decidable (_ ∧ _ ∧ _ ∧ _))

structure State (τ : Type) where
  mode : Mode
  lastPress : Option τ
  /-- The first press of the current run under the multi-tap policy. -/
  runStart : Option τ
  runTaps : Nat
deriving DecidableEq, Repr

variable {τ : Type}

def State.initial : State τ where
  mode := .idle
  lastPress := none
  runStart := none
  runTaps := 0

/-- Less than the window has elapsed since an earlier reading, if there is one. -/
def isWithin [Counter τ] (now : τ) (window : UInt32) (earlier : Option τ) : Bool :=
  earlier.any (Counter.elapsed now · < window.toNat)

namespace State

/-- A press of a latched machine: a late one unlatches it and, under the multi-tap policy, is the
first of a new run.
-/
def pressLatched [Counter τ] (s : Settings) (now : τ) (st : State τ) : Decision × State τ :=
  if isWithin now s.timeout st.lastPress then
    (.repeatTap, { st with lastPress := some now })
  else match s.policy with
    | .toggle => (.singleTap, { st with mode := .idle, lastPress := some now })
    | .multiTap _ _ =>
      (.singleTap,
        { mode := .idle, lastPress := some now, runStart := some now, runTaps := 1 })

/-- A press of an idle machine under the toggle policy. -/
def pressToggle [Counter τ] (s : Settings) (now : τ) (st : State τ) : Decision × State τ :=
  if isWithin now s.timeout st.lastPress then
    (.repeatTap, { st with mode := .latched, lastPress := some now })
  else (.singleTap, { st with lastPress := some now })

/-- A press of an idle machine under the multi-tap policy: it continues the current run or begins
a new one, and the press that completes a run latches. The count stays within a byte.
-/
def pressMultiTap [Counter τ] (taps : UInt8) (term : UInt32) (now : τ) (st : State τ)
    : Decision × State τ :=
  let continues := isWithin now term st.runStart
  let count := if continues then min (st.runTaps + 1) 255 else 1
  if max taps.toNat 2 ≤ count then
    (.repeatTap, { mode := .latched, lastPress := some now, runStart := none, runTaps := 0 })
  else
    (.singleTap,
      { st with
        lastPress := some now
        runStart := if continues then st.runStart else some now
        runTaps := count })

def press [Counter τ] (s : Settings) (now : τ) (st : State τ) : Decision × State τ :=
  match st.mode, s.policy with
  | .latched, _ => st.pressLatched s now
  | .idle, .toggle => st.pressToggle s now
  | .idle, .multiTap taps term => st.pressMultiTap taps term now

end State

inductive Input (τ : Type) where
  | press (now : τ)
  | clear
deriving DecidableEq, Repr

/-- The decision on an input, if it is a press, and the state after it. -/
def State.step [Counter τ] (s : Settings) (st : State τ)
    : Input τ → Option Decision × State τ
  | .press now => let (decision, after) := st.press s now; (some decision, after)
  | .clear => (none, initial)

/-- The decisions on a list of inputs, each with the state after it. -/
def State.steps [Counter τ] (s : Settings) (st : State τ)
    : List (Input τ) → List (Option Decision × State τ)
  | [] => []
  | input :: rest => st.step s input :: State.steps s (st.step s input).2 rest

end EscapeKey.Tap
