import EscapeKey.Proofs.Host.Calls
import EscapeKey.Proofs.Host.Chords

/-! An applied rule from one end to the other. Its guard only moves modifier keys, and so does its
combo around the tap of its key, so that the reports of all three are those of one tap; the keys
that are down at the tap are told from what the guard leaves held, and in the end nothing but the
log has changed.
-/

namespace EscapeKey.Host

-----------------------------------------------------------------------------------------
-- Reports of modifier keys around a tap
-----------------------------------------------------------------------------------------

/-- The second host is the first one after some reports, all of them of modifier keys. -/
def MovesModifiers (h next : Host) : Prop :=
  ∃ sent, h.Sends sent next ∧ ∀ r ∈ sent, r.key.IsModifier

/-- The second host is the first one after a tap of the key while these other keys are down, with
reports of modifier keys around it.
-/
def TapsAmid (h next : Host) (k : Key) (down : List Key) : Prop :=
  ∃ before after,
    h.Sends (before ++ [.press k, .release k] ++ after) next
    ∧ (∀ r ∈ before ++ after, r.key.IsModifier)
    ∧ replayed h.pressed.toList before = down

theorem MovesModifiers.refl (h : Host) : h.MovesModifiers h :=
  ⟨[], .none rfl rfl, by simp⟩

theorem MovesModifiers.trans {h middle next : Host} (first : h.MovesModifiers middle)
    (second : middle.MovesModifiers next)
    : h.MovesModifiers next := by
  obtain ⟨early, sendsEarly, earlyOnly⟩ := first
  obtain ⟨late, sendsLate, lateOnly⟩ := second
  exact ⟨early ++ late, sendsEarly.append sendsLate,
    List.forall_mem_append.mpr ⟨earlyOnly, lateOnly⟩⟩

/-- Modifier keys that move before a tap do not change which keys are down at it. -/
theorem MovesModifiers.tapsAmid {h middle next : Host} {k : Key} {down : List Key}
    (first : h.MovesModifiers middle) (taps : middle.TapsAmid next k down)
    : h.TapsAmid next k down := by
  obtain ⟨early, sendsEarly, earlyOnly⟩ := first
  obtain ⟨before, after, sends, only, rfl⟩ := taps
  obtain ⟨beforeOnly, afterOnly⟩ := List.forall_mem_append.mp only
  refine ⟨early ++ before, after, ?_, ?_, ?_⟩
  · simpa only [List.append_assoc] using sendsEarly.append sends
  · exact List.forall_mem_append.mpr
      ⟨List.forall_mem_append.mpr ⟨earlyOnly, beforeOnly⟩, afterOnly⟩
  · rw [← sendsEarly.pressed, replayed, List.foldl_append]
    rfl

theorem TapsAmid.movesModifiers {h middle next : Host} {k : Key} {down : List Key}
    (taps : h.TapsAmid middle k down) (later : middle.MovesModifiers next)
    : h.TapsAmid next k down := by
  obtain ⟨before, after, sends, only, same⟩ := taps
  obtain ⟨late, sendsLate, lateOnly⟩ := later
  obtain ⟨beforeOnly, afterOnly⟩ := List.forall_mem_append.mp only
  refine ⟨before, after ++ late, ?_, ?_, same⟩
  · simpa only [List.append_assoc] using sends.append sendsLate
  · exact List.forall_mem_append.mpr
      ⟨beforeOnly, List.forall_mem_append.mpr ⟨afterOnly, lateOnly⟩⟩

-----------------------------------------------------------------------------------------
-- Guards and emissions
-----------------------------------------------------------------------------------------

/-- Replacing the held modifiers moves keys of the old and the new ones only. -/
theorem movesModifiers_setMods (h : Host) (mods : Mods) : h.MovesModifiers (h.setMods mods) := by
  obtain ⟨sent, sends, only⟩ := exists_sends_exchange (h.record (.setMods mods))
    (h.mods.keys.filter (!mods.keys.contains ·)).reverse
    (mods.keys.filter (!h.mods.keys.contains ·))
  refine ⟨sent, ⟨sends.reports, sends.history, sends.pressed⟩, ?_⟩
  intro r member
  rcases only r member with ⟨k, gone, rfl⟩ | ⟨k, new, rfl⟩
  · exact Mods.isModifier_of_mem_keys (List.mem_filter.mp (List.mem_reverse.mp gone)).1
  · exact Mods.isModifier_of_mem_keys (List.mem_filter.mp new).1

theorem movesModifiers_suspend (h : Host) (suppress : Mods)
    : h.MovesModifiers (h.suspend suppress) :=
  suspend_keeps (fun host mods moved => moved.trans (movesModifiers_setMods host mods))
    (.refl h) suppress

theorem movesModifiers_resume (h : Host) (saved : Mods) : h.MovesModifiers (h.resume saved) :=
  resume_keeps (fun host mods moved => moved.trans (movesModifiers_setMods host mods))
    (.refl h) saved

/-- A key by itself is tapped amid the keys that are down. -/
theorem Covered.tapsAmid_tap {h : Host} (covered : h.Covered) {k : Key}
    (plain : ¬ k.IsModifier)
    : h.TapsAmid (h.tap k) k h.pressed.toList := by
  have up : k ∉ (h.record (.tap k)).pressed :=
    fun down => plain (Mods.isModifier_of_mem_keys (covered k down))
  have recorded : h.Sends [] (h.record (.tap k)) := .none rfl rfl
  exact ⟨[], [], recorded.append (sends_tapped up), by simp, rfl⟩

/-- The key of a combo is tapped amid the keys that have been readied for it. -/
theorem Covered.tapsAmid_tapCombo {h : Host} (covered : h.Covered) {c : Combo}
    (plain : ¬ c.key.IsModifier)
    : h.TapsAmid (h.tapCombo c) c.key (h.readied c).pressed.toList := by
  obtain ⟨before, after, ready, sends, moved⟩ := covered.exists_sends_tapCombo plain
  refine ⟨before, after, sends, ?_, ready.pressed⟩
  intro r member
  rcases moved r member with ⟨k, rfl, ⟨held, _⟩ | pressed⟩ | ⟨k, rfl, held | pressed⟩
  · exact Mods.isModifier_of_mem_keys held
  · exact Combo.isModifier_of_mem_press pressed
  · exact Mods.isModifier_of_mem_keys held
  · exact Combo.isModifier_of_mem_press pressed

/-- An emission taps the key of its combo: amid the held keys if the combo is bare, and else amid
keys of its modifiers, at least one for each of them.
-/
theorem Settled.exists_tapsAmid_emit {h : Host} (settled : h.Settled) {c : Combo}
    (plain : ¬ c.key.IsModifier)
    : ∃ down,
      h.TapsAmid (h.emit c) c.key down
      ∧ (c.isBare = true → ∀ k, k ∈ down ↔ k ∈ h.mods.keys)
      ∧ (c.isBare = false
        → (∀ m ∈ c.modifiers, ∃ k ∈ m.keys, k ∈ down)
          ∧ ∀ k ∈ down, ∃ m ∈ c.modifiers, k ∈ m.keys) := by
  unfold Host.emit
  split
  case isTrue bare =>
    refine ⟨_, settled.covered.tapsAmid_tap plain, fun _ => settled, ?_⟩
    intro chord
    exact absurd (bare.symm.trans chord) (by decide)
  case isFalse chord =>
    refine ⟨_, settled.covered.tapsAmid_tapCombo plain, fun bare => absurd bare chord, fun _ => ?_⟩
    exact ⟨fun m listed => settled.exists_mem_readied listed,
      fun k => settled.covered.accepts_of_mem_readied⟩

/-- A tap amid modifier keys presses its key once, if that is no modifier key. -/
theorem count_press_tapped {before after : List Report} {k : Key} (plain : ¬ k.IsModifier)
    (only : ∀ r ∈ before ++ after, r.key.IsModifier)
    : (before ++ [Report.press k, .release k] ++ after).count (Report.press k) = 1 := by
  have others : (before ++ after).count (Report.press k) = 0 :=
    List.count_eq_zero.mpr fun member => plain (only _ member)
  have tapped : [Report.press k, .release k].count (Report.press k) = 1 := by simp
  rw [List.count_append] at others
  rw [List.count_append, List.count_append, tapped]
  omega

-----------------------------------------------------------------------------------------
-- Rules
-----------------------------------------------------------------------------------------

/-- A rule is applied from one end to the other. The calls are the emission and, around it if a
suppressed modifier is held, those that set the modifiers without the suppressed ones and as they
were. The reports press the key of the combo once and move only modifier keys besides. When the
key goes down, the keys that are down are those of the held modifiers that are not suppressed, if
the combo is bare; otherwise each modifier of the combo has a key down, and no other keys are. In
the end the held modifiers and the keys that are down are what they were.
-/
theorem applyRule_end_to_end {h : Host} (settled : h.Settled) {r : Override.Rule}
    (plain : ¬ r.emit.key.IsModifier)
    : let k := r.emit.key
      let emission : Event := if r.emit.isBare then .tap k else .tapCombo r.emit
      let unsuppressed := h.mods.without r.suppress
      (h.applyRule r).events
          = h.events
            ++ (if h.mods.meets r.suppress then
                [.setMods unsuppressed, emission, .setMods h.mods]
              else [emission])
      ∧ (∃ before after : List Report,
          let sent := before ++ [.press k, .release k] ++ after
          let down := replayed h.pressed.toList before
          h.Sends sent (h.applyRule r)
          ∧ sent.count (.press k) = 1
          ∧ (∀ report ∈ before ++ after, report.key.IsModifier)
          ∧ (r.emit.isBare = true → ∀ x, x ∈ down ↔ x ∈ unsuppressed.keys)
          ∧ (r.emit.isBare = false
            → (∀ m ∈ r.emit.modifiers, ∃ x ∈ m.keys, x ∈ down)
              ∧ ∀ x ∈ down, ∃ m ∈ r.emit.modifiers, x ∈ m.keys))
      ∧ (h.applyRule r).mods = h.mods
      ∧ ∀ x, x ∈ (h.applyRule r).pressed ↔ x ∈ h.pressed := by
  intro k emission unsuppressed
  have entered : (h.suspend r.suppress).Settled :=
    suspend_keeps (fun _ mods start => start.setMods mods) settled r.suppress
  obtain ⟨down, emitted, bare, chord⟩ := entered.exists_tapsAmid_emit plain
  rw [suspend_mods] at bare
  have taps : h.TapsAmid (h.applyRule r) k down :=
    ((movesModifiers_suspend h r.suppress).tapsAmid emitted).movesModifiers
      (movesModifiers_resume _ h.mods)
  obtain ⟨before, after, sends, only, rfl⟩ := taps
  have ends : (h.applyRule r).Settled := by
    refine settled.run (o := .applyRule r) fun tapped same => ?_
    obtain rfl := Option.some.inj same
    exact plain
  refine ⟨?_, ⟨before, after, sends, count_press_tapped plain only, only, bare, chord⟩,
    applyRule_mods h r, ?_⟩
  · rw [applyRule_events]
    unfold guardCalls
    split
    · simp [emission, unsuppressed, k, Event.ofEmission]
    · simp [emission, k, Event.ofEmission]
  · intro x
    rw [ends x, settled x, applyRule_mods]

/-- The guard takes away the held right shift key, which the combo asks for again on either side;
the combo also lifts the held alt key, since it asks for the other one. All of them are put back.
-/
theorem applyRule_end_to_end_overlapping
    : let shift : Modifier := ⟨.shift, .right⟩
      let alt : Modifier := ⟨.alt, .left⟩
      let h := holding (.ofModifiers [shift, alt])
      let r : Override.Rule :=
        { name := "shifted", required := [shift], exact := false,
          suppress := (Modifier.generic .shift).mask
          emit := .ofList [.generic .shift, ⟨.alt, .right⟩] .grave }
      h.Settled
      ∧ ¬ r.emit.key.IsModifier
      ∧ (h.applyRule r).reports
        = [.release .rightShift, .release .leftAlt, .press .leftShift, .press .rightAlt,
            .press .grave, .release .grave, .release .rightAlt, .release .leftShift,
            .press .leftAlt, .press .rightShift]
      ∧ (h.applyRule r).events = [.setMods alt.mask, .tapCombo r.emit, .setMods h.mods]
      ∧ (∃ before after,
          h.Sends (before ++ [.press .grave, .release .grave] ++ after) (h.applyRule r)
          ∧ ∀ m ∈ r.emit.modifiers, ∃ x ∈ m.keys, x ∈ replayed h.pressed.toList before)
      ∧ ∀ x, x ∈ (h.applyRule r).pressed ↔ x ∈ h.pressed := by
  intro shift alt h r
  have settled : h.Settled := settled_holding _
  have plain : ¬ r.emit.key.IsModifier := by decide
  obtain ⟨_, ⟨before, after, sends, _, _, _, chord⟩, _, same⟩ :=
    applyRule_end_to_end settled plain
  exact ⟨settled, plain, by decide, by decide, ⟨before, after, sends, (chord (by decide)).1⟩, same⟩

end EscapeKey.Host
