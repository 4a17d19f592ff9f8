import EscapeKey.Proofs.Host.Calls
import EscapeKey.Proofs.Host.ScriptRuns

/-! Guards restore. Guards of a script open and close in a nested way, and whichever way a guard
closes, the modifiers that were held when it opened are held again. Around a body that itself keeps
the modifiers, the guard calls the host at both ends or not at all.
-/

namespace EscapeKey.Host

/-- The operation taps, emits or applies a rule. -/
def Op.Emits : Op → Prop
  | .tap _ | .tapCombo _ | .emit _ | .applyRule _ => True
  | .holdMods _ | .setMods _ | .releaseAll | .clearLog => False

instance Op.Emits.decidable : DecidablePred Op.Emits
  | .tap _ | .tapCombo _ | .emit _ | .applyRule _ => isTrue trivial
  | .holdMods _ | .setMods _ | .releaseAll | .clearLog => isFalse id

theorem Op.Emits.run_mods {o : Op} (emits : o.Emits) (h : Host) : (run h o).mods = h.mods := by
  cases o with
  | tap key => exact tap_mods h key
  | tapCombo combo => exact tapCombo_mods h combo
  | emit combo => exact emit_mods h combo
  | applyRule rule => exact applyRule_mods h rule
  | holdMods | setMods | releaseAll | clearLog => exact emits.elim

/-- Emissions only add calls to the record. -/
theorem Op.Emits.events_prefix {o : Op} (emits : o.Emits) (h : Host)
    : h.events <+: (run h o).events := by
  cases o with
  | tap key => exact ⟨_, (tap_events h key).symm⟩
  | tapCombo combo => exact ⟨_, (tapCombo_events h combo).symm⟩
  | emit combo => exact ⟨_, (emit_events h combo).symm⟩
  | applyRule rule =>
      change h.events <+: (h.applyRule rule).events
      rw [applyRule_events, List.append_assoc, List.append_assoc]
      exact List.prefix_append _ _
  | holdMods | setMods | releaseAll | clearLog => exact emits.elim

namespace Script

/-- A script of emissions keeps the modifiers, by induction on the script; of its guards it only
matters that they restore.
-/
theorem Every.run_mods {script : Script} (emits : script.Every Op.Emits) (h : Host)
    : (script.run h).mods = h.mods := by
  induction script generalizing h with
  | done | panic => rfl
  | op o rest ih => exact (ih emits.2 (Op.run h o)).trans (emits.1.run_mods h)
  | guard suppress body rest _ ih =>
      exact (ih emits.2 (h.guarded suppress body.run)).trans (guarded_mods h suppress body.run)

/-- A script of emissions only adds calls to the record, and so do its guards. -/
theorem Every.events_prefix {script : Script} (emits : script.Every Op.Emits) (h : Host)
    : h.events <+: (script.run h).events :=
  (emits.keeps (P := fun host => h.events <+: host.events)
    (fun host _ emits before => before.trans (emits.events_prefix host))
    (fun host mods before => before.trans ⟨_, (setMods_events host mods).symm⟩)
    (List.prefix_refl _)).1

-----------------------------------------------------------------------------------------
-- Nested guards
-----------------------------------------------------------------------------------------

/-- The guards that the steps open and close are nested, and every guard that closes leaves held
what was held when it opened, which it had saved. Before the steps, `held` are the modifiers held
and `saved` those that the guards still open have saved, the innermost first. An applied rule has
a guard of its own that opens and closes within the step.
-/
def Restoring (held : Mods) (saved : List Mods) : List Step → Prop
  | [] => saved = []
  | ⟨.op (.applyRule _), host⟩ :: rest => host.mods = held ∧ Restoring host.mods saved rest
  | ⟨.op _, host⟩ :: rest => Restoring host.mods saved rest
  | ⟨.enter mods, host⟩ :: rest => mods = held ∧ Restoring host.mods (mods :: saved) rest
  | ⟨.leave, host⟩ :: rest | ⟨.unwind, host⟩ :: rest =>
    ∃ outer, saved = host.mods :: outer ∧ Restoring host.mods outer rest

/-- A script closes the guards that it opens, so that the steps behind it find the same guards
open, by induction on the script.
-/
theorem restoring_steps (script : Script) (h : Host) (saved : List Mods) (later : List Step)
    (rest : Restoring (script.run h).mods saved later)
    : Restoring h.mods saved (script.steps h ++ later) := by
  induction script generalizing h saved later with
  | done | panic => exact rest
  | op o after ih =>
      have inside : Restoring (Op.run h o).mods saved (after.steps (Op.run h o) ++ later) :=
        ih _ _ _ rest
      cases o with
      | applyRule rule => exact ⟨applyRule_mods h rule, inside⟩
      | holdMods | setMods | tap | tapCombo | emit | releaseAll | clearLog => exact inside
  | guard suppress body after bodyIH afterIH =>
      let left := h.guarded suppress body.run
      have same : left.mods = h.mods := guarded_mods h suppress body.run
      -- behind its body the guard finds on top of the saved modifiers those it has put there
      have closes : Restoring (body.run (h.suspend suppress)).mods (h.mods :: saved)
          (⟨if body.panics then .unwind else .leave, left⟩ :: (after.steps left ++ later)) := by
        have outside : Restoring left.mods saved (after.steps left ++ later) := afterIH _ _ _ rest
        split
        · exact ⟨saved, by rw [same], outside⟩
        · exact ⟨saved, by rw [same], outside⟩
      simp only [steps, List.cons_append, List.append_assoc]
      exact ⟨rfl, bodyIH _ _ _ closes⟩

end Script

/-- Guards restore the modifiers on every exit. In every script, where a panic abandons all up to
the end of the guard around it and may do so again behind that guard, the guards are nested, all
of them close, and each leaves held what it found and saved. A guard around a body that only emits
sets the modifiers when it takes held keys away, without those keys at its start and back to what
was saved at its end, and makes no call otherwise.
-/
theorem guards_restore
    : (∀ (h : Host) (script : Script), Script.Restoring h.mods [] (script.steps h))
      ∧ ∀ (h : Host) (suppress : Mods) (body : Script),
          body.Every Op.Emits
          → let entered := h.suspend suppress
            let inside := body.run entered
            let left := h.guarded suppress body.run
            entered.events
              = h.events
                ++ (if h.mods.meets suppress then [.setMods (h.mods.without suppress)] else [])
            ∧ entered.events <+: inside.events
            ∧ left.events
              = inside.events ++ (if h.mods.meets suppress then [.setMods h.mods] else []) := by
  constructor
  · intro h script
    have nested := script.restoring_steps h [] [] rfl
    rwa [List.append_nil] at nested
  · intro h suppress body emits entered inside left
    exact ⟨suspend_events h suppress, emits.events_prefix entered,
      guarded_events (emits.run_mods entered)⟩

/-- The outer guard takes a held shift key away and a panic abandons it behind a guard that panics
too; the latter has nothing to take away, so that it makes no call, unlike the rule applied in it.
-/
theorem guards_restore_unwinding
    : let shift : Modifier := ⟨.shift, .right⟩
      let alt : Modifier := ⟨.alt, .left⟩
      let h := holding (.ofModifiers [shift, alt])
      let rule : Override.Rule :=
        { name := "alt-tilde", required := [alt], exact := true, suppress := alt.mask,
          emit := .ofList [shift] .grave }
      let body : Script :=
        .op (.tap .grave)
          (.guard (Modifier.generic .gui).mask (.op (.applyRule rule) .panic) .panic)
      let left := h.guarded shift.mask body.run
      Script.Restoring h.mods [] ((Script.guard shift.mask body .done).steps h)
      ∧ body.Every Op.Emits
      ∧ left.events = (body.run (h.suspend shift.mask)).events ++ [.setMods h.mods]
      ∧ left.events
        = [.setMods alt.mask, .tap .grave, .setMods ∅, .tapCombo (.ofList [shift] .grave),
            .setMods alt.mask, .setMods h.mods] := by
  intro shift alt h rule body left
  have emits : body.Every Op.Emits := by decide
  obtain ⟨_, _, exits⟩ := guards_restore.2 h shift.mask body emits
  have taken : h.mods.meets shift.mask = true := by decide
  rw [if_pos taken] at exits
  exact ⟨guards_restore.1 h (.guard shift.mask body .done), emits, exits, by decide⟩

end EscapeKey.Host
