import EscapeKey.Host.Guard

/-! Scripts: programs that drive the host, with guards around parts of them and with points where
a part is abandoned. A guard around an abandoned part still puts the modifiers back, and the
script goes on behind it.
-/

namespace EscapeKey.Host

inductive Op where
  | holdMods (mods : Mods)
  | setMods (mods : Mods)
  | tap (key : Key)
  | tapCombo (combo : Combo)
  | emit (combo : Combo)
  | applyRule (rule : Override.Rule)
  | releaseAll
  | clearLog
deriving DecidableEq, Repr

def Op.run (h : Host) : Op → Host
  | .holdMods mods => h.holdMods mods
  | .setMods mods => h.setMods mods
  | .tap key => h.tap key
  | .tapCombo combo => h.tapCombo combo
  | .emit combo => h.emit combo
  | .applyRule rule => h.applyRule rule
  | .releaseAll => h.releaseAll
  | .clearLog => h.clearLog

/-- A program for the host. -/
inductive Script where
  | done
  /-- The rest is abandoned, up to the end of the enclosing guard. -/
  | panic
  | op (op : Op) (rest : Script)
  /-- A body with modifiers taken away, then the rest. -/
  | guard (suppress : Mods) (body rest : Script)
deriving DecidableEq, Repr

namespace Script

/-- The script ends by being abandoned. -/
def panics : Script → Bool
  | done => false
  | panic => true
  | op _ rest => rest.panics
  | guard _ _ rest => rest.panics

def run (h : Host) : Script → Host
  | done => h
  | panic => h
  | op o rest => rest.run (o.run h)
  | guard suppress body rest => rest.run (h.guarded suppress body.run)

/-- What a step of a script does. -/
inductive Deed where
  | op (op : Op)
  /-- A guard takes modifiers away and keeps these for its end. -/
  | enter (saved : Mods)
  | leave
  /-- A guard ends because its body was abandoned. -/
  | unwind
deriving DecidableEq, Repr

structure Step where
  deed : Deed
  host : Host
deriving DecidableEq, Repr

/-- Every step of a script, in order. -/
def steps (h : Host) : Script → List Step
  | done => []
  | panic => []
  | op o rest => ⟨.op o, o.run h⟩ :: rest.steps (o.run h)
  | guard suppress body rest =>
    let entered := h.suspend suppress
    let left := h.guarded suppress body.run
    ⟨.enter h.mods, entered⟩ :: body.steps entered
      ++ ⟨if body.panics then .unwind else .leave, left⟩ :: rest.steps left

end Script

end EscapeKey.Host
