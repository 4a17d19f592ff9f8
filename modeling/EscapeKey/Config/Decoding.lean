import EscapeKey.Config.Settings
import EscapeKey.Toml.Document

/-! Settings from TOML, the way the program reads them. A section is a table or else a list with one item for each of its entries
in order; items beyond those are ignored, while a table may hold no other entries.
-/

namespace EscapeKey.Toml

/-- The entries of a section, each under its name. -/
structure Fields where
  /-- The section is a list, in which an entry can only be left out at the end. -/
  positional : Bool
  entries : Entries

namespace Fields

/-- The entries of a section whose entries have the given names. -/
def ofValue? (names : List String) : Value → Option Fields
  | .table _ entries =>
    if entries.all (names.contains ·.1) then some ⟨false, entries⟩ else none
  | v => v.items?.map fun items => ⟨true, names.zip items⟩

variable {α : Type}

def required (f : Fields) (name : String) (read? : Value → Option α) : Option α :=
  f.entries.lookup name >>= read?

/-- An entry that may be left out of a table, though not of a list. -/
def optional (f : Fields) (name : String) (read? : Value → Option α) : Option (Option α) :=
  match f.entries.lookup name with
  | some v => some <$> read? v
  | none => if f.positional then none else some none

/-- An entry that may be left out and then has the given value. -/
def withDefault (f : Fields) (name : String) (default : α) (read? : Value → Option α)
    : Option α :=
  match f.entries.lookup name with
  | some v => read? v
  | none => some default

end Fields

def Value.string? : Value → Option String
  | .string text => some text
  | _ => none

def Value.boolean? : Value → Option Bool
  | .boolean flag => some flag
  | _ => none

/-- An integer from zero up to a bound. -/
def Value.below? (bound : Nat) : Value → Option Nat
  | .integer number => if 0 ≤ number ∧ number < bound then some number.toNat else none
  | _ => none

def Value.uint32? (v : Value) : Option UInt32 :=
  UInt32.ofNat <$> v.below? UInt32.size

def Value.uint8? (v : Value) : Option UInt8 :=
  UInt8.ofNat <$> v.below? UInt8.size

/-- A list whose items can all be read. -/
def Value.list? {α : Type} (read? : Value → Option α) (v : Value) : Option (List α) :=
  v.items? >>= List.mapM read?

/-- A policy: its name, or a table with the name as its only key and nothing under it. -/
def Value.policy? (v : Value) : Option Settings.PolicyName := do
  let name ← match v with
    | .string name => some name
    | .table _ [(name, value)] => if value.isHollow then some name else none
    | _ => none
  match name with
  | "toggle" => some .toggle
  | "multi-tap" => some .multiTap
  | _ => none

def Value.general? (v : Value) : Option Settings.General := do
  let f ← Fields.ofValue? ["trigger"] v
  return { trigger := ← f.optional "trigger" Value.string? }

def Value.timing? (v : Value) : Option Settings.Timing := do
  let f ← Fields.ofValue?
    ["timeout_ms", "policy", "taps", "tapping_term_ms", "single_tap", "repeat_tap"] v
  return {
    timeout := ← f.optional "timeout_ms" Value.uint32?
    policy := ← f.optional "policy" Value.policy?
    taps := ← f.optional "taps" Value.uint8?
    term := ← f.optional "tapping_term_ms" Value.uint32?
    single := ← f.optional "single_tap" Value.string?
    repeated := ← f.optional "repeat_tap" Value.string? }

def Value.ruleEntry? (v : Value) : Option Settings.RuleEntry := do
  let f ← Fields.ofValue? ["name", "when", "exact", "suppress", "emit"] v
  return {
    name := ← f.required "name" Value.string?
    required := ← f.required "when" (Value.list? Value.string?)
    exact := ← f.withDefault "exact" false Value.boolean?
    suppress := ← f.withDefault "suppress" [] (Value.list? Value.string?)
    emit := ← f.required "emit" Value.string? }

def Value.overrides? (v : Value) : Option Settings.Overrides := do
  let f ← Fields.ofValue? ["enabled", "rule"] v
  return {
    enabled := ← f.withDefault "enabled" true Value.boolean?
    rules := ← f.withDefault "rule" [] (Value.list? Value.ruleEntry?) }

def Value.settings? (v : Value) : Option Settings := do
  let f ← Fields.ofValue? ["general", "tap", "overrides"] v
  return {
    general := ← f.optional "general" Value.general?
    timing := ← f.optional "tap" Value.timing?
    overrides := ← f.optional "overrides" Value.overrides? }

/-- The settings that a text in TOML describes. -/
def readSettings : Settings.Reader := fun text =>
  match parse? text with
  | none => .error "the text is no TOML"
  | some document =>
    match document.settings? with
    | none => .error "the tables and entries are not those of settings"
    | some settings => .ok settings

end EscapeKey.Toml
