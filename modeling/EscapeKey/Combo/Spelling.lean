import EscapeKey.Combo
import EscapeKey.Text.Blank

/-! How combos are spelt: modifiers and a key joined by hyphens, the key last. -/

namespace EscapeKey.Combo

/-- A piece of a text that names no modifier, without the blanks around it. -/
structure UnknownModifier where
  piece : String
deriving DecidableEq, Repr

inductive SpellingError where
  | empty
  /-- The text ends in a hyphen, so that it has no key. -/
  | trailingHyphen
  | unknownKey (piece : String)
  /-- The key is known, and a piece in front of it names no modifier. -/
  | unknownModifier (fault : UnknownModifier)
deriving DecidableEq, Repr

def SpellingError.message : SpellingError → String
  | .empty => "combo string cannot be empty"
  | .trailingHyphen => "combo string cannot end with hyphen"
  | .unknownKey piece => "unknown key name: '" ++ piece ++ "'"
  | .unknownModifier fault => "unknown modifier: '" ++ fault.piece ++ "'"

/-- The modifier that a piece spells, with blanks around it. -/
def readModifier (piece : List Char) : Except UnknownModifier Modifier :=
  let spelled := String.ofList (Text.trim piece)
  match Modifier.ofSpelling? spelled with
  | some m => .ok m
  | none => .error ⟨spelled⟩

/-- The modifiers that the pieces spell, without repetitions; the first piece that spells none
is at fault.
-/
def readModifiers (pieces : List (List Char)) : Except UnknownModifier (List Modifier) :=
  (pieces.mapM readModifier).map List.eraseDups

/-- The modifiers that the given strings spell, without repetitions. -/
def parseModifiers (pieces : List String) : Except UnknownModifier (List Modifier) :=
  readModifiers (pieces.map String.toList)

def readKey (piece : List Char) : Except SpellingError Key :=
  match Key.read? piece with
  | some k => .ok k
  | none => .error (.unknownKey (String.ofList piece))

/-- The combo that a text spells. An unknown key is reported before an unknown modifier. -/
def read (s : List Char) : Except SpellingError Combo :=
  let trimmed := Text.trim s
  if trimmed.isEmpty then .error .empty
  else if trimmed.getLast? = some '-' then .error .trailingHyphen
  else do
    let pieces := trimmed.splitOn '-'
    let key ← readKey (pieces.getLast?.getD [])
    let modifiers ← (readModifiers pieces.dropLast).mapError .unknownModifier
    return .ofList modifiers key

def parse (s : String) : Except SpellingError Combo :=
  read s.toList

end EscapeKey.Combo
