/-! TOML values. Numbers with a fraction and times of day are recognised, but no reader of
settings asks for one, so their contents are not kept.
-/

namespace EscapeKey.Toml

/-- How a table came about, which decides what may still be added to it. -/
inductive Origin where
  /-- A header of its own, or the document itself. -/
  | header
  /-- A header further down, which passes through it. -/
  | implied
  /-- A dotted key that passes through it. -/
  | dotted
  /-- Braces; nothing can be added. -/
  | inline
deriving DecidableEq, Repr

inductive Value where
  | string (text : String)
  | integer (number : Int)
  | float
  | boolean (flag : Bool)
  | dateTime
  | array (items : List Value)
  | table (origin : Origin) (entries : List (String × Value))
  /-- The tables that headers in double brackets list under one name. -/
  | tables (items : List (List (String × Value)))
deriving Repr

/-- The contents of a table, each key at most once. -/
abbrev Entries := List (String × Value)

/-- The entries with a new one, unless the key is taken. -/
def Entries.insertNew? (entries : Entries) (key : String) (value : Value) : Option Entries :=
  if (entries.lookup key).isSome then none else some (entries ++ [(key, value)])

/-- The entries with another value under a key. -/
def Entries.replace (entries : Entries) (key : String) (value : Value) : Entries :=
  entries.map fun entry => if entry.1 == key then (key, value) else entry

/-- The items of a value that is a list, in brackets or by headers. -/
def Value.items? : Value → Option (List Value)
  | .array items => some items
  | .tables items => some (items.map (.table .header))
  | _ => none

/-- The value has no items and no entries. -/
def Value.isHollow : Value → Bool
  | .array items => items.isEmpty
  | .table _ entries => entries.isEmpty
  | .tables items => items.isEmpty
  | _ => false

end EscapeKey.Toml
