import EscapeKey.Toml.Statement

/-! TOML documents: the table that the statements of a text build up. -/

namespace EscapeKey.Toml

/-- A document under construction. -/
structure Document where
  entries : Entries
  /-- The keys that lead to the table that new entries belong to. -/
  current : List String

namespace Document

def empty : Document :=
  ⟨[], []⟩

/-- Begins a table. Only a table that other headers have passed through may be there already. -/
def beginTable (path : KeyPath) (doc : Document) : Option Document := do
  let begin (_ : Origin) (entries : Entries) : Option Entries :=
    match entries.lookup path.key with
    | none => some (entries ++ [(path.key, .table .header [])])
    | some (.table .implied sub) => some (entries.replace path.key (.table .header sub))
    | some _ => none
  let entries ← changeAt .implied begin path.parents .header doc.entries
  return ⟨entries, path.parents ++ [path.key]⟩

/-- Begins one more table of a list of tables. -/
def beginListedTable (path : KeyPath) (doc : Document) : Option Document := do
  let begin (_ : Origin) (entries : Entries) : Option Entries :=
    match entries.lookup path.key with
    | none => some (entries ++ [(path.key, .tables [[]])])
    | some (.tables items) => some (entries.replace path.key (.tables (items ++ [[]])))
    | some _ => none
  let entries ← changeAt .implied begin path.parents .header doc.entries
  return ⟨entries, path.parents ++ [path.key]⟩

/-- The document with one more statement, unless the statement contradicts an earlier one. -/
def add (doc : Document) : Statement → Option Document
  | .header path => doc.beginTable path
  | .listHeader path => doc.beginListedTable path
  | .entry path value => do
    let entries ← changeAt .implied (addEntry path value) doc.current .header doc.entries
    return { doc with entries }

end Document

/-- The statements of a text, behind a byte order mark if there is one. -/
def readStatements? (text : List Char) : Option (List Statement) :=
  let text := match text with
    | '\ufeff' :: rest => rest
    | text => text
  ((statements (text.length + 1)).run text).map (·.1)

def parse? (text : String) : Option Value := do
  let found ← readStatements? text.toList
  let doc ← found.foldlM Document.add Document.empty
  return .table .header doc.entries

end EscapeKey.Toml
