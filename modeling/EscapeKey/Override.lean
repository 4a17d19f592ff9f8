import EscapeKey.Combo

/-! Override rules: which combo answers the trigger while certain modifiers are held. Rules are
listed in priority order and the first one that matches wins.
-/

namespace EscapeKey.Override

/-- A row of the override table. -/
structure Rule where
  name : String
  required : List Modifier
  /-- Nothing but keys of the required modifiers may be held. -/
  exact : Bool
  /-- The modifier keys that are let go while the combo is emitted. -/
  suppress : Mods
  emit : Combo
deriving DecidableEq, Repr

namespace Rule

/-- The rule applies to the held modifiers. A rule without required modifiers never does. -/
def isMatch (r : Rule) (held : Mods) : Bool :=
  !r.required.isEmpty && r.required.all held.holds
    && (!r.exact || held.isWithin (.ofModifiers r.required))

/-- Two rules are alike when they agree in all but the way their combos list the modifiers. -/
def Alike (r s : Rule) : Prop :=
  r.name = s.name ∧ r.required = s.required ∧ r.exact = s.exact ∧ r.suppress = s.suppress
    ∧ r.emit.Alike s.emit

instance (r s : Rule) : Decidable (r.Alike s) :=
  inferInstanceAs (Decidable (_ ∧ _ ∧ _ ∧ _ ∧ _))

/-- The rule on one line: its name, when it applies, and what it emits. -/
def text (r : Rule) : String :=
  let whenHeld := "+".intercalate (r.required.map Modifier.label)
  r.name ++ ": " ++ whenHeld ++ (if r.exact then " (exact)" else "") ++ " -> " ++ r.emit.text

end Rule

/-- The first rule that matches the held modifiers. Where nothing is held, the trigger is left
to its timing.
-/
def resolve (rules : List Rule) (held : Mods) : Option Rule :=
  if held.isEmpty then none else rules.find? (·.isMatch held)

/-- The rules that apply when none are configured: accent and tilde with shift and alt, and the
window switching chords with meta.
-/
def standard : List Rule :=
  let shift := Modifier.generic .shift
  let alt := Modifier.generic .alt
  let gui := Modifier.generic .gui
  [{ name := "cmd-shift-grave", required := [gui, shift], exact := false, suppress := ∅,
     emit := .ofList [gui, shift] .grave },
   { name := "shift-grave", required := [shift], exact := true, suppress := shift.mask,
     emit := .bare .grave },
   { name := "alt-tilde", required := [alt], exact := true, suppress := alt.mask,
     emit := .ofList [shift] .grave },
   { name := "cmd-grave", required := [gui], exact := true, suppress := ∅,
     emit := .ofList [gui] .grave }]

end EscapeKey.Override
