import Mathlib.Data.List.Induction
import EscapeKey.Proofs.Host.Reports
import EscapeKey.Proofs.Host.ScriptRuns

/-! Whatever a script does, its reports are a legal history: only keys that are up go down, only
keys that are down go up, and the reports leave down the keys that the host has down, in the same
order. When everything is released in the end, the remaining keys go up, the last one pressed
first.
-/

namespace EscapeKey.Host

/-- The second host is the first one after some reports, which are a legal history. -/
def LeadsTo (h next : Host) : Prop :=
  ∃ sent, h.Sends sent next

theorem LeadsTo.refl (h : Host) : h.LeadsTo h :=
  ⟨[], .none rfl rfl⟩

theorem LeadsTo.trans {h middle next : Host} (first : h.LeadsTo middle)
    (second : middle.LeadsTo next)
    : h.LeadsTo next := by
  obtain ⟨early, sendsEarly⟩ := first
  obtain ⟨late, sendsLate⟩ := second
  exact ⟨early ++ late, sendsEarly.append sendsLate⟩

-----------------------------------------------------------------------------------------
-- Operations
-----------------------------------------------------------------------------------------

/-- A recorded call reports nothing by itself. -/
theorem leadsTo_record (h : Host) (e : Event) : h.LeadsTo (h.record e) :=
  ⟨[], .none rfl rfl⟩

theorem leadsTo_press (h : Host) (k : Key) : h.LeadsTo (h.press k) := by
  obtain ⟨sent, sends, _⟩ := exists_sends_press h k
  exact ⟨sent, sends⟩

theorem leadsTo_release (h : Host) (k : Key) : h.LeadsTo (h.release k) := by
  obtain ⟨sent, sends, _⟩ := exists_sends_release h k
  exact ⟨sent, sends⟩

theorem leadsTo_exchange (h : Host) (gone new : List Key)
    : h.LeadsTo (new.foldl press (gone.foldl release h)) := by
  obtain ⟨sent, sends, _⟩ := exists_sends_exchange h gone new
  exact ⟨sent, sends⟩

/-- The modifier byte itself is not reported, only the keys that are exchanged for it. -/
theorem leadsTo_holdMods (h : Host) (mods : Mods) : h.LeadsTo (h.holdMods mods) := by
  obtain ⟨sent, sends⟩ := leadsTo_exchange h
    (h.mods.keys.filter (!mods.keys.contains ·)).reverse
    (mods.keys.filter (!h.mods.keys.contains ·))
  exact ⟨sent, sends.reports, sends.history, sends.pressed⟩

theorem leadsTo_setMods (h : Host) (mods : Mods) : h.LeadsTo (h.setMods mods) :=
  (leadsTo_record h _).trans (leadsTo_holdMods _ mods)

/-- A tapped key that is down already is not pressed again, but it is released. -/
theorem leadsTo_tap (h : Host) (k : Key) : h.LeadsTo (h.tap k) :=
  ((leadsTo_record h _).trans (leadsTo_press _ k)).trans (leadsTo_release _ k)

/-- The strokes are two exchanges with the tap of the main key between them. -/
theorem leadsTo_send (h : Host) (s : Combo.Strokes) : h.LeadsTo (h.send s) := by
  have ready : h.LeadsTo (h.ready s) := leadsTo_exchange h s.release s.press
  have tapped := (ready.trans (leadsTo_press _ s.main)).trans (leadsTo_release _ s.main)
  exact tapped.trans (leadsTo_exchange _ s.press.reverse s.restore)

theorem leadsTo_tapCombo (h : Host) (c : Combo) : h.LeadsTo (h.tapCombo c) :=
  (leadsTo_record h _).trans (leadsTo_send _ _)

theorem leadsTo_emit (h : Host) (c : Combo) : h.LeadsTo (h.emit c) := by
  unfold emit
  split
  · exact leadsTo_tap h c.key
  · exact leadsTo_tapCombo h c

/-- Keys that are down go up one after the other, the last one pressed first, until none is left,
by induction on the keys from the last one.
-/
theorem isHistory_newestFirst {down : List Key} (nodup : down.Nodup)
    : IsHistory down (down.reverse.map .release)
      ∧ replayed down (down.reverse.map .release) = [] := by
  induction down using List.reverseRecOn with
  | nil => exact ⟨trivial, rfl⟩
  | append_singleton older newest ih =>
      rw [← List.concat_eq_append, List.nodup_concat] at nodup
      obtain ⟨absent, olderNodup⟩ := nodup
      -- the newest key stands last and nowhere else, so that releasing it leaves the older ones
      have first : Report.after (older ++ [newest]) (.release newest) = older := by
        rw [Report.after, List.erase_append_right _ absent]
        simp
      have last : newest ∈ older ++ [newest] := by simp
      obtain ⟨legal, none⟩ := ih olderNodup
      rw [List.reverse_append, List.reverse_singleton, List.singleton_append, List.map_cons]
      rw [IsHistory, replayed, List.foldl_cons, first]
      exact ⟨⟨last, legal⟩, none⟩

/-- Releasing everything reports the keys that are down, the last one pressed first. -/
theorem sends_releaseAll (h : Host)
    : h.Sends (h.pressed.toList.reverse.map .release) h.releaseAll := by
  obtain ⟨legal, none⟩ := isHistory_newestFirst h.pressed.nodup
  exact ⟨rfl, legal, none⟩

/-- Every operation that keeps the log only adds a legal history to it. -/
theorem leadsTo_run (h : Host) {o : Op} (kept : o ≠ .clearLog) : h.LeadsTo (Op.run h o) := by
  cases o with
  | holdMods mods => exact leadsTo_holdMods h mods
  | setMods mods => exact leadsTo_setMods h mods
  | tap key => exact leadsTo_tap h key
  | tapCombo combo => exact leadsTo_tapCombo h combo
  | emit combo => exact leadsTo_emit h combo
  | applyRule rule =>
      exact guarded_keeps (P := h.LeadsTo)
        (fun _ mods before => before.trans (leadsTo_setMods _ mods)) (.refl h) rule.suppress
        (fun _ before => before.trans (leadsTo_emit _ rule.emit))
  | releaseAll => exact ⟨_, sends_releaseAll h⟩
  | clearLog => exact absurd rfl kept

-----------------------------------------------------------------------------------------
-- Scripts
-----------------------------------------------------------------------------------------

/-- A script that keeps the log only adds a legal history to it, up to each of its steps and up
to its end.
-/
theorem Script.Every.leadsTo {script : Script} (kept : script.Every (· ≠ .clearLog)) (h : Host)
    : h.LeadsTo (script.run h) ∧ ∀ step ∈ script.steps h, h.LeadsTo step.host :=
  kept.keeps (P := h.LeadsTo) (fun _ _ kept before => before.trans (leadsTo_run _ kept))
    (fun _ mods before => before.trans (leadsTo_setMods _ mods)) (.refl h)

/-- The reports of every script that does not clear the log are a legal history of the keys that
were down before it, up to each of its steps and up to its end, and the replay of the history
gives the keys that are down. When everything is released behind the script, nothing is down and
nothing is held, and the last reports release the remaining keys, the one pressed last first.
-/
theorem steps_sends_history (h : Host) {script : Script} (kept : script.Every (· ≠ .clearLog))
    : (∀ step ∈ script.steps h, ∃ sent, h.Sends sent step.host)
      ∧ ∃ sent,
          h.Sends sent (script.run h)
          ∧ (script.panics = false
            → let before := script.run h
              let last := (script.followedBy (.op .releaseAll .done)).run h
              h.Sends (sent ++ before.pressed.toList.reverse.map .release) last
              ∧ last.pressed = ∅
              ∧ last.mods = ∅) := by
  obtain ⟨⟨sent, sends⟩, steps⟩ := kept.leadsTo h
  refine ⟨steps, sent, sends, ?_⟩
  intro ends before last
  have released : last = before.releaseAll := Script.run_followedBy ends _ h
  rw [released]
  exact ⟨sends.append (sends_releaseAll before), rfl, rfl⟩

/-- A held alt key is tapped and so goes up, a combo taps a modifier key that it has pressed
itself, and two guards end abandoned. The two keys that are down in the end are released in the
order opposite to that of their last presses.
-/
theorem steps_sends_history_unwinding
    : let h := holding (.ofModifiers [⟨.shift, .right⟩, ⟨.alt, .left⟩])
      let combo : Combo := .ofList [.generic .shift, ⟨.shift, .left⟩] .leftShift
      let script : Script :=
        .op (.tap .leftAlt)
          (.guard (Modifier.generic .shift).mask
            (.op (.tapCombo combo)
              (.guard (Modifier.generic .alt).mask
                (.op (.setMods (⟨.gui, .left⟩ : Modifier).mask) .panic)
                .panic))
            .done)
      let last := (script.followedBy (.op .releaseAll .done)).run h
      script.Every (· ≠ .clearLog)
      ∧ script.panics = false
      ∧ last.reports
        = [.release .leftAlt, .release .rightShift, .press .leftShift, .release .leftShift,
            .press .leftAlt, .release .leftAlt, .press .leftMeta, .release .leftMeta,
            .press .leftAlt, .press .rightShift, .release .rightShift, .release .leftAlt]
      ∧ (∃ sent, h.Sends (sent ++ [.release .rightShift, .release .leftAlt]) last)
      ∧ last.pressed = ∅
      ∧ last.mods = ∅ := by
  intro h combo script last
  have kept : script.Every (· ≠ .clearLog) := by decide
  have ends : script.panics = false := rfl
  obtain ⟨_, sent, _, released⟩ := steps_sends_history h kept
  obtain ⟨sends, up, free⟩ := released ends
  have remaining : (script.run h).pressed.toList = [.leftAlt, .rightShift] := by decide
  rw [remaining] at sends
  exact ⟨kept, ends, by decide, ⟨sent, sends⟩, up, free⟩

end EscapeKey.Host
