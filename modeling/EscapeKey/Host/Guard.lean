import EscapeKey.Host
import EscapeKey.Override

/-! Guarded use of the host: modifiers are taken away for a while and put back whatever happened
in between.
-/

namespace EscapeKey.Host

/-- Takes away the keys of the mask, which is a call only if one of them is held. -/
def suspend (h : Host) (suppress : Mods) : Host :=
  if h.mods.meets suppress then h.setMods (h.mods.without suppress) else h

/-- Puts the saved modifiers back, which is a call only if they differ from the held ones. -/
def resume (h : Host) (saved : Mods) : Host :=
  if h.mods = saved then h else h.setMods saved

/-- Runs the body with the keys of the mask taken away and then puts the modifiers back. -/
def guarded (h : Host) (suppress : Mods) (body : Host → Host) : Host :=
  (body (h.suspend suppress)).resume h.mods

/-- Emits a rule's combo with the modifiers that the rule suppresses taken away. -/
def applyRule (h : Host) (r : Override.Rule) : Host :=
  h.guarded r.suppress (·.emit r.emit)

end EscapeKey.Host
