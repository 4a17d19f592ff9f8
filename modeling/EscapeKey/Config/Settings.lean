/-! Settings: what a user writes down, before any of it is checked. Every section and most of
their entries may be left out.
-/

namespace EscapeKey.Settings

structure General where
  trigger : Option String
deriving DecidableEq, Repr

inductive PolicyName where
  | toggle
  | multiTap
deriving DecidableEq, Repr

structure Timing where
  timeout : Option UInt32
  policy : Option PolicyName
  /-- The presses that latch, under the multi-tap policy only. -/
  taps : Option UInt8
  /-- The milliseconds of a run, under the multi-tap policy only. -/
  term : Option UInt32
  single : Option String
  repeated : Option String
deriving DecidableEq, Repr

structure RuleEntry where
  name : String
  required : List String
  exact : Bool
  /-- The modifiers that are taken away while the combo is emitted. -/
  suppress : List String
  emit : String
deriving DecidableEq, Repr

structure Overrides where
  enabled : Bool
  /-- The entries in priority order. -/
  rules : List RuleEntry
deriving DecidableEq, Repr

end EscapeKey.Settings

namespace EscapeKey

structure Settings where
  general : Option Settings.General
  timing : Option Settings.Timing
  overrides : Option Settings.Overrides
deriving DecidableEq, Repr

/-- Reads the settings that a text describes, or says in words why it describes none. How settings
are written down is up to the reader, and whatever holds of reading a configuration holds with
any.
-/
abbrev Settings.Reader :=
  String → Except String Settings

end EscapeKey
