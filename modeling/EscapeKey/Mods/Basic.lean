/-! The modifier byte of a keyboard: one bit for each of the eight modifier keys. -/

namespace EscapeKey

/-- A set of modifier keys, as a byte. From the lowest bit up: control, shift, alt and meta of
the left side, then the same four of the right side.
-/
structure Mods where
  bits : BitVec 8
deriving DecidableEq, Repr, Inhabited

namespace Mods

instance : EmptyCollection Mods where
  emptyCollection := ⟨0#8⟩

instance : Union Mods where
  union a b := ⟨a.bits ||| b.bits⟩

def isEmpty (m : Mods) : Bool :=
  m.bits == 0#8

/-- The two sets have a key in common. -/
def meets (m mask : Mods) : Bool :=
  m.bits &&& mask.bits != 0#8

/-- Every key of the set lies in the mask. -/
def isWithin (m mask : Mods) : Bool :=
  m.bits &&& ~~~mask.bits == 0#8

/-- The set without the keys of the mask. -/
def without (m mask : Mods) : Mods :=
  ⟨m.bits &&& ~~~mask.bits⟩

end Mods

end EscapeKey
