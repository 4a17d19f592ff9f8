import EscapeKey.Key.Names
import EscapeKey.Mods.Held

/-! Combos: a key together with the modifiers that are to be held while it is tapped. -/

namespace EscapeKey

/-- A key with modifiers, in the order they were given and each at most once. -/
structure Combo where
  modifiers : List Modifier
  key : Key
  nodup : modifiers.Nodup
deriving DecidableEq, Repr

namespace Combo

/-- Dropping repetitions leaves none, by induction on the length. -/
theorem nodup_eraseDups {α : Type} [BEq α] [LawfulBEq α] (l : List α)
    : l.eraseDups.Nodup := by
  cases l with
  | nil => simp
  | cons a rest =>
    rw [List.eraseDups_cons, List.nodup_cons]
    exact ⟨by simp [List.mem_eraseDups], nodup_eraseDups (rest.filter fun b => !b == a)⟩
termination_by l.length
decreasing_by exact Nat.lt_succ_of_le (List.length_filter_le _ _)

/-- The combo of the given modifiers, where a repetition counts for nothing. -/
def ofList (modifiers : List Modifier) (key : Key) : Combo :=
  ⟨modifiers.eraseDups, key, nodup_eraseDups modifiers⟩

def bare (key : Key) : Combo :=
  ⟨[], key, .nil⟩

/-- The combo with one more modifier, behind the others unless it is there already. -/
def insert (c : Combo) (m : Modifier) : Combo :=
  ofList (c.modifiers ++ [m]) c.key

def isBare (c : Combo) : Bool :=
  c.modifiers.isEmpty

/-- The keys that satisfy one of the modifiers. -/
def mask (c : Combo) : Mods :=
  .ofModifiers c.modifiers

/-- Two combos are alike when they have the same key and their modifiers cover the same modifier
keys, in whatever order and mixture.
-/
def Alike (a b : Combo) : Prop :=
  a.mask = b.mask ∧ a.key = b.key

instance (a b : Combo) : Decidable (a.Alike b) :=
  inferInstanceAs (Decidable (_ ∧ _))

/-- The labels of the modifiers and the name of the key, joined by hyphens. -/
def text (c : Combo) : String :=
  "-".intercalate (c.modifiers.map Modifier.label ++ [c.key.name])

end Combo

end EscapeKey
