import EscapeKey.Modifier

/-! The modifier byte as the set of modifiers that are held: what it holds, which keys it
stands for, and how it arises from modifiers and keys.
-/

namespace EscapeKey.Mods

/-- The keys that satisfy one of the modifiers. -/
def ofModifiers (ms : List Modifier) : Mods :=
  ms.foldl (fun acc m => acc ∪ m.mask) ∅

def ofKeys (ks : List Key) : Mods :=
  ofModifiers (ks.filterMap Modifier.ofKey?)

/-- One of the keys that satisfy the modifier is held. -/
def holds (m : Mods) (modifier : Modifier) : Bool :=
  m.meets modifier.mask

/-- The sided modifiers that are held, in the order of the kinds. -/
def sided (m : Mods) : List Modifier :=
  Modifier.sided.filter m.holds

/-- The modifier keys that are held, in the order of the kinds. -/
def keys (m : Mods) : List Key :=
  m.sided.map Modifier.key

def generics (m : Mods) : List Modifier :=
  Modifier.generics.filter m.holds

end EscapeKey.Mods
