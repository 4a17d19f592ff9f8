import EscapeKey.Toml.DateTime
import EscapeKey.Toml.Number

/-! The statements of a TOML document: headers, and keys with their values, in the order in which
they stand.
-/

namespace EscapeKey.Toml

/-- A key with the tables that lead to it. -/
structure KeyPath where
  parents : List String
  key : String
deriving DecidableEq, Repr

inductive Statement where
  /-- The entries that follow belong to this table. -/
  | header (path : KeyPath)
  /-- The entries that follow belong to a new table in this list. -/
  | listHeader (path : KeyPath)
  | entry (path : KeyPath) (value : Value)
deriving Repr

/-- The nesting of lists and tables in brackets, and the length of dotted keys, stay below this
limit.
-/
def nestingLimit : Nat := 80

/-- A character of a key without quotes. -/
def isBareKey (c : Char) : Bool :=
  c.isAlphanum || c == '_' || c == '-'

def keyPart : Reader String := do
  match ← get with
  | '"' :: _ | '\'' :: _ => lineString
  | _ =>
    let run ← takeRun isBareKey
    guard !run.isEmpty
    return String.ofList run

/-- The parts of a key that dots separate, at most so many of them. -/
def keyParts : Nat → Reader (List String)
  | 0 => failure
  | fuel + 1 => do
    spaces
    let part ← keyPart
    spaces
    if ← next? '.' then return part :: (← keyParts fuel) else return [part]

def keyPath : Reader KeyPath := do
  let parts ← keyParts (nestingLimit - 1)
  match parts.getLast? with
  | some key => return ⟨parts.dropLast, key⟩
  | none => failure

/-- The items of a list in brackets up to the closing one, at most so many of them. -/
def arrayItems (item : Reader Value) : Nat → Reader (List Value)
  | 0 => failure
  | fuel + 1 => do
    skipAllLines
    if ← next? ']' then return []
    let first ← item
    skipAllLines
    if ← next? ',' then return first :: (← arrayItems item fuel)
    expect ']'
    return [first]

/-- One entry of a table in braces. -/
def inlineEntry (item : Reader Value) : Reader (KeyPath × Value) := do
  let path ← keyPath
  expect '='
  spaces
  let value ← item
  spaces
  return (path, value)

/-- The entries of a table in braces up to the closing one, at least one and at most so many. -/
def inlineEntries (item : Reader Value) : Nat → Reader (List (KeyPath × Value))
  | 0 => failure
  | fuel + 1 => do
    let first ← inlineEntry item
    if ← next? ',' then return first :: (← inlineEntries item fuel)
    expect '\x7d'
    return [first]

/-- Changes the entries of the table that a path of keys leads to. Missing tables on the way are
made with the given origin. A way of dotted keys does not enter a table that has a header of its
own, no way enters a table in braces, and a way into a list of tables enters the last one.
-/
def changeAt (made : Origin) (change : Origin → Entries → Option Entries)
    : List String → Origin → Entries → Option Entries
  | [], origin, entries => change origin entries
  | key :: rest, _, entries =>
    match entries.lookup key with
    | none => do
      let sub ← changeAt made change rest made []
      return entries ++ [(key, .table made sub)]
    | some (.table origin sub) => do
      guard (origin != .inline && (made != .dotted || origin != .header))
      let sub ← changeAt made change rest origin sub
      return entries.replace key (.table origin sub)
    | some (.tables items) => do
      let last ← items.getLast?
      let sub ← changeAt made change rest .header last
      return entries.replace key (.tables (items.dropLast ++ [sub]))
    | some _ => none

/-- The entries with one more behind a dotted key. A table made by dotted keys is extended by
dotted keys only, and no other table that a dotted key leads to is extended at all.
-/
def addEntry (path : KeyPath) (value : Value) (origin : Origin) (entries : Entries)
    : Option Entries :=
  let add (origin : Origin) (entries : Entries) : Option Entries :=
    if (origin == .dotted) == path.parents.isEmpty then none
    else entries.insertNew? path.key value
  changeAt .dotted add path.parents origin entries

def inlineTable (entries : List (KeyPath × Value)) : Option Value :=
  (.table .inline ·) <$> entries.foldlM (fun es e => addEntry e.1 e.2 .inline es) []

/-- A word that stands for a truth value. -/
def boolean : Reader Value := do
  match ← get with
  | 't' :: 'r' :: 'u' :: 'e' :: rest => set rest; return .boolean true
  | 'f' :: 'a' :: 'l' :: 's' :: 'e' :: rest => set rest; return .boolean false
  | _ => failure

/-- A value that is neither a list nor a table. -/
def scalar : Reader Value :=
  Value.string <$> string <|> boolean <|> dateTime <|> decimalFloat <|> specialFloat <|> integer

/-- A value in which lists and tables are nested at most so deep. -/
def value : Nat → Reader Value
  | 0 => do
    match ← get with
    | '[' :: _ | '\x7b' :: _ => failure
    | _ => scalar
  | depth + 1 => do
    match ← get with
    | '[' :: rest =>
      set rest
      .array <$> arrayItems (value depth) rest.length
    | '\x7b' :: rest =>
      set rest
      spaces
      if ← next? '\x7d' then return .table .inline []
      let entries ← inlineEntries (value depth) rest.length
      inlineTable entries
    | _ => scalar

def statement : Reader Statement := do
  match ← get with
  | '[' :: '[' :: rest =>
    set rest
    let path ← keyPath
    expect ']'
    expect ']'
    return .listHeader path
  | '[' :: rest =>
    set rest
    let path ← keyPath
    expect ']'
    return .header path
  | _ =>
    let path ← keyPath
    expect '='
    spaces
    return .entry path (← value (nestingLimit - 1))

/-- All statements that follow, at most so many lines of them. -/
def statements : Nat → Reader (List Statement)
  | 0 => failure
  | fuel + 1 => do
    spaces
    match ← get with
    | [] => return []
    | '#' :: _ | '\n' :: _ | '\r' :: _ => endOfLine; statements fuel
    | _ =>
      let first ← statement
      endOfLine
      return first :: (← statements fuel)

end EscapeKey.Toml
