import EscapeKey.Proofs.Host.DownKeys
import EscapeKey.Proofs.Host.HeldMods
import EscapeKey.Proofs.Host.ScriptRuns

/-! No key is left down. Whatever a script does, only held modifier keys stay down after each of
its steps, and all of them do unless a modifier key has been tapped.
-/

namespace EscapeKey.Host

/-- Nothing is down but held modifier keys. -/
def Covered (h : Host) : Prop :=
  ∀ k ∈ h.pressed, k ∈ h.mods.keys

/-- Exactly the held modifier keys are down. -/
def Settled (h : Host) : Prop :=
  ∀ k, k ∈ h.pressed ↔ k ∈ h.mods.keys

/-- The key that an operation taps, alone or as the main key of a combo. -/
def Op.tapped? : Op → Option Key
  | .tap key => some key
  | .tapCombo combo | .emit combo => some combo.key
  | .applyRule rule => some rule.emit.key
  | .holdMods _ | .setMods _ | .releaseAll | .clearLog => none

/-- The operation taps no modifier key. -/
def Op.TapsNoModifier (o : Op) : Prop :=
  ∀ k ∈ o.tapped?, ¬ k.IsModifier

instance : DecidablePred Op.TapsNoModifier := fun o =>
  inferInstanceAs (Decidable (∀ k ∈ o.tapped?, ¬ k.IsModifier))

-----------------------------------------------------------------------------------------
-- Only held modifier keys stay down
-----------------------------------------------------------------------------------------

theorem Covered.holdMods {h : Host} (covered : h.Covered) (mods : Mods)
    : (h.holdMods mods).Covered := by
  intro k down
  rw [holdMods_mods]
  rcases mem_holdMods.mp down with ⟨before, kept⟩ | ⟨new, _⟩
  · by_contra dropped
    exact kept ⟨covered k before, dropped⟩
  · exact new

theorem Covered.setMods {h : Host} (covered : h.Covered) (mods : Mods)
    : (h.setMods mods).Covered := by
  intro k down
  rw [setMods_mods]
  exact covered.holdMods mods k (mem_setMods.mp down)

theorem Covered.tap {h : Host} (covered : h.Covered) (k : Key) : (h.tap k).Covered := by
  intro x down
  rw [tap_mods]
  exact covered x (mem_tap.mp down).1

theorem Covered.tapCombo {h : Host} (covered : h.Covered) (c : Combo)
    : (h.tapCombo c).Covered := by
  intro x down
  rw [tapCombo_mods]
  rcases mem_tapCombo.mp down with ⟨before, _⟩ | ⟨restored, _⟩
  · exact covered x before
  · exact restored

theorem Covered.emit {h : Host} (covered : h.Covered) (c : Combo) : (h.emit c).Covered := by
  unfold Host.emit
  split
  · exact covered.tap c.key
  · exact covered.tapCombo c

/-- Every operation leaves only held modifier keys down. -/
theorem Covered.run {h : Host} (covered : h.Covered) (o : Op) : (Op.run h o).Covered := by
  cases o with
  | holdMods mods => exact covered.holdMods mods
  | setMods mods => exact covered.setMods mods
  | tap key => exact covered.tap key
  | tapCombo combo => exact covered.tapCombo combo
  | emit combo => exact covered.emit combo
  | applyRule rule =>
      exact guarded_keeps (fun _ mods start => start.setMods mods) covered rule.suppress
        (fun _ start => start.emit rule.emit)
  | releaseAll => exact fun k down => absurd down List.not_mem_nil
  | clearLog => exact covered

-----------------------------------------------------------------------------------------
-- Without tapped modifier keys all of them stay down
-----------------------------------------------------------------------------------------

theorem Settled.covered {h : Host} (settled : h.Settled) : h.Covered :=
  fun k => (settled k).mp

theorem Settled.holdMods {h : Host} (settled : h.Settled) (mods : Mods)
    : (h.holdMods mods).Settled := by
  intro k
  rw [holdMods_mods, mem_holdMods, settled k]
  tauto

theorem Settled.setMods {h : Host} (settled : h.Settled) (mods : Mods)
    : (h.setMods mods).Settled := by
  intro k
  rw [mem_setMods, setMods_mods]
  exact settled.holdMods mods k

/-- A held key is not the tapped one, which is no modifier key. -/
theorem Settled.tap {h : Host} (settled : h.Settled) {k : Key} (plain : ¬ k.IsModifier)
    : (h.tap k).Settled := by
  intro x
  rw [tap_mods, mem_tap, settled x]
  have other (held : x ∈ h.mods.keys) : x ≠ k := by
    rintro rfl
    exact plain (Mods.isModifier_of_mem_keys held)
  exact ⟨And.left, fun held => ⟨held, other held⟩⟩

/-- Of the held keys a combo restores those that it released, and it never moved the others.
Witness: it presses none of the held keys, and its main key is no modifier key.
-/
theorem Settled.tapCombo {h : Host} (settled : h.Settled) {c : Combo}
    (plain : ¬ c.key.IsModifier)
    : (h.tapCombo c).Settled := by
  intro x
  refine ⟨settled.covered.tapCombo c x, ?_⟩
  rw [tapCombo_mods, mem_tapCombo, settled x]
  intro held
  by_cases accepted : c.accepts x = true
  · refine .inl ⟨held, ?_, fun pressed => Combo.not_held_of_mem_press pressed held⟩
    rintro rfl
    exact plain (Mods.isModifier_of_mem_keys held)
  · exact .inr ⟨held, accepted⟩

theorem Settled.emit {h : Host} (settled : h.Settled) {c : Combo}
    (plain : ¬ c.key.IsModifier)
    : (h.emit c).Settled := by
  unfold Host.emit
  split
  · exact settled.tap plain
  · exact settled.tapCombo plain

/-- Every operation that taps no modifier key leaves exactly the held modifier keys down. -/
theorem Settled.run {h : Host} (settled : h.Settled) {o : Op} (plain : o.TapsNoModifier)
    : (Op.run h o).Settled := by
  cases o with
  | holdMods mods => exact settled.holdMods mods
  | setMods mods => exact settled.setMods mods
  | tap key => exact settled.tap (plain key rfl)
  | tapCombo combo => exact settled.tapCombo (plain combo.key rfl)
  | emit combo => exact settled.emit (plain combo.key rfl)
  | applyRule rule =>
      exact guarded_keeps (fun _ mods start => start.setMods mods) settled rule.suppress
        (fun _ start => start.emit (plain rule.emit.key rfl))
  | releaseAll =>
      intro k
      change k ∈ (∅ : PressedKeys) ↔ k ∈ (∅ : Mods).keys
      rw [Mods.keys_empty]
      exact Iff.rfl
  | clearLog => exact settled

-----------------------------------------------------------------------------------------
-- Scripts
-----------------------------------------------------------------------------------------

theorem settled_holding (mods : Mods) : (holding mods).Settled :=
  fun _ => mem_holding

/-- Every step of every script leaves only held modifier keys down. -/
theorem Covered.steps {h : Host} (covered : h.Covered) (script : Script)
    : ∀ step ∈ script.steps h, step.host.Covered := by
  have ops (host : Host) (o : Op) (_ : True) (start : host.Covered) := start.run o
  have setting (host : Host) (mods : Mods) (start : host.Covered) := start.setMods mods
  exact (script.every_true.keeps ops setting covered).2

/-- Every step of a script that taps no modifier key leaves exactly the held ones down. -/
theorem Settled.steps {h : Host} (settled : h.Settled) {script : Script}
    (plain : script.Every Op.TapsNoModifier)
    : ∀ step ∈ script.steps h, step.host.Settled := by
  have ops (host : Host) (o : Op) (plain : o.TapsNoModifier) (start : host.Settled) :=
    start.run plain
  have setting (host : Host) (mods : Mods) (start : host.Settled) := start.setMods mods
  exact (plain.keeps ops setting settled).2

/-- No key is stuck after any step of any script. No key is down twice, and every key that is
down belongs to the held modifiers. If the script taps no modifier key, then the keys of the held
modifiers are down and no others.
-/
theorem steps_no_stuck_key (mods : Mods) (script : Script)
    : (∀ step ∈ script.steps (holding mods),
        step.host.pressed.toList.Nodup ∧ ∀ k ∈ step.host.pressed, k ∈ step.host.mods.keys)
      ∧ (script.Every Op.TapsNoModifier
        → ∀ step ∈ script.steps (holding mods),
          ∀ k, k ∈ step.host.pressed ↔ k ∈ step.host.mods.keys) := by
  have settled := settled_holding mods
  constructor
  · intro step member
    exact ⟨step.host.pressed.nodup, settled.covered.steps script step member⟩
  · intro plain step member
    exact settled.steps plain step member

/-- A guard is abandoned inside of a guard that is abandoned too, each with a combo or a change
of the held modifiers behind it: the two held keys come back before everything is released.
-/
theorem steps_no_stuck_key_unwinding
    : let mods : Mods := .ofModifiers [⟨.shift, .right⟩, ⟨.alt, .right⟩]
      let combo : Combo := .ofList [.generic .shift, ⟨.shift, .left⟩] .grave
      let script : Script :=
        .guard (Modifier.generic .shift).mask
          (.op (.tapCombo combo)
            (.guard (Modifier.generic .alt).mask
              (.op (.holdMods (⟨.alt, .left⟩ : Modifier).mask) .panic)
              (.op (.emit (.bare .esc)) .panic)))
          (.op .releaseAll .done)
      script.Every Op.TapsNoModifier
      ∧ (script.steps (holding mods)).map (·.host.pressed.toList)
        = [[.rightAlt], [.rightAlt], [], [.leftAlt], [.rightAlt], [.rightAlt],
            [.rightAlt, .rightShift], []]
      ∧ ∀ step ∈ script.steps (holding mods),
          ∀ k, k ∈ step.host.pressed ↔ k ∈ step.host.mods.keys := by
  intro mods combo script
  have plain : script.Every Op.TapsNoModifier := by decide
  exact ⟨plain, by decide, (steps_no_stuck_key mods script).2 plain⟩

end EscapeKey.Host
