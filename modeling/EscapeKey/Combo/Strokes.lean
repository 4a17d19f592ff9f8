import EscapeKey.Combo

/-! The strokes that send a combo while modifier keys are held: which keys go up and down
around the tap of its key.
-/

namespace EscapeKey.Combo

/-- The key strokes around the tap of a combo's key. -/
structure Strokes where
  /-- The held keys that the combo does not want, the last one first. -/
  release : List Key
  /-- The keys of the modifiers that no held key satisfies, in the combo's order. -/
  press : List Key
  main : Key
  /-- The released keys, to be pressed again in the order they were held. -/
  restore : List Key
deriving DecidableEq, Repr

namespace Strokes

/-- Modifier keys move before the tap. -/
def changesModifiers (s : Strokes) : Bool :=
  !s.release.isEmpty || !s.press.isEmpty

/-- The strokes in all: a pressed modifier key and the tapped key each go down and up. -/
def count (s : Strokes) : Nat :=
  s.release.length + 2 * s.press.length + 2 + s.restore.length

end Strokes

/-- What the held keys leave to be done for a combo. -/
structure Gap where
  /-- The held keys that no modifier has claimed, in the order they are held. -/
  lift : List Key
  /-- The modifiers that no held key satisfies, in the combo's order. -/
  missing : List Modifier
deriving DecidableEq, Repr

/-- A held key that satisfies the modifier stays down, and the modifier needs no pressing. -/
def Gap.claim (held : Key) (gap : Gap) (m : Modifier) : Gap :=
  if m.keys.contains held then
    { lift := gap.lift.filter (· != held), missing := gap.missing.erase m }
  else gap

/-- What is left when every held key has been offered to every modifier of the combo. -/
def gap (c : Combo) (held : Mods) : Gap :=
  held.keys.foldl (fun gap k => c.modifiers.foldl (Gap.claim k) gap) ⟨held.keys, c.modifiers⟩

/-- The strokes that send the combo while `held` is down: held keys that satisfy one of its
modifiers stay, the others go up for the time of the tap, and missing modifiers are pressed.
-/
def strokes (c : Combo) (held : Mods) : Strokes :=
  let gap := c.gap held
  { release := gap.lift.reverse
    press := gap.missing.map Modifier.key
    main := c.key
    restore := gap.lift }

end EscapeKey.Combo
