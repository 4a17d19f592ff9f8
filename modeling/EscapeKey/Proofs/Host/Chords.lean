import EscapeKey.Proofs.Host.Reports
import EscapeKey.Proofs.Host.StuckKeys

/-! A tapped combo goes out as a chord. When its key goes down, every modifier of the combo has a
key down and no key is down that the combo does not ask for; before and after, the held keys are
down, and those that the combo accepts have not moved in between.
-/

namespace EscapeKey.Host

variable {h : Host} {c : Combo}

-----------------------------------------------------------------------------------------
-- The keys that are down when the main key is tapped
-----------------------------------------------------------------------------------------

theorem mem_readied {x : Key}
    : x ∈ (h.readied c).pressed
      ↔ (x ∈ h.pressed ∧ ¬ (x ∈ h.mods.keys ∧ ¬ c.accepts x = true))
        ∨ x ∈ (c.strokes h.mods).press := by
  have recorded : x ∈ (h.record (.tapCombo c)).pressed ↔ x ∈ h.pressed := Iff.rfl
  rw [readied, mem_ready, Combo.mem_release_strokes, recorded]

/-- Every key that is down belongs to a modifier of the combo.
Witness: it was held and has not been let go, or it has been pressed for a modifier.
-/
theorem Covered.accepts_of_mem_readied (covered : h.Covered) {x : Key}
    (down : x ∈ (h.readied c).pressed)
    : ∃ m ∈ c.modifiers, x ∈ m.keys := by
  rcases mem_readied.mp down with ⟨before, stayed⟩ | pressed
  · by_contra unwanted
    exact stayed ⟨covered x before, mt Combo.accepts_iff.mp unwanted⟩
  · obtain ⟨m, listed, _, rfl⟩ := Combo.mem_press_strokes.mp pressed
    exact ⟨m, listed, m.key_mem_keys⟩

/-- Every modifier of the combo has a key that is down, a held one or else the one that has been
pressed for it.
-/
theorem Settled.exists_mem_readied (settled : h.Settled) {m : Modifier}
    (listed : m ∈ c.modifiers)
    : ∃ k ∈ m.keys, k ∈ (h.readied c).pressed := by
  by_cases held : h.mods.holds m = true
  · obtain ⟨k, member, heldKey⟩ := Mods.holds_iff_keys.mp held
    have accepted : c.accepts k = true := Combo.accepts_iff.mpr ⟨m, listed, member⟩
    have stays : ¬ (k ∈ h.mods.keys ∧ ¬ c.accepts k = true) := fun both => both.2 accepted
    exact ⟨k, member, mem_readied.mpr (.inl ⟨(settled k).mpr heldKey, stays⟩)⟩
  · have pressed : m.key ∈ (c.strokes h.mods).press :=
      Combo.mem_press_strokes.mpr ⟨m, listed, held, rfl⟩
    exact ⟨m.key, m.key_mem_keys, mem_readied.mpr (.inr pressed)⟩

/-- A main key that is no modifier key is up when its turn comes. -/
theorem Covered.key_not_mem_readied (covered : h.Covered) (plain : ¬ c.key.IsModifier)
    : c.key ∉ (h.readied c).pressed := by
  intro down
  obtain ⟨m, _, member⟩ := covered.accepts_of_mem_readied down
  exact plain (Modifier.isModifier_of_mem_keys member)

-----------------------------------------------------------------------------------------
-- The reports around the tap of the main key
-----------------------------------------------------------------------------------------

/-- Pressing and releasing a key that is up is reported as just that. -/
theorem sends_tapped {k : Key} (up : k ∉ h.pressed)
    : h.Sends [.press k, .release k] ((h.press k).release k) :=
  (sends_press up).append (sends_release (mem_press.mpr (.inr rfl)))

/-- A combo is sent in three bursts, one that readies the modifiers, the tap of its key, and one
that undoes the first. The bursts around the tap release only held keys that the combo does not
accept and keys that it pressed, and press only the latter and held keys.
-/
theorem Covered.exists_sends_tapCombo (covered : h.Covered) (plain : ¬ c.key.IsModifier)
    : ∃ before after,
      h.Sends before (h.readied c)
      ∧ h.Sends (before ++ [.press c.key, .release c.key] ++ after) (h.tapCombo c)
      ∧ ∀ r ∈ before ++ after,
        (∃ k, r = .release k
          ∧ (k ∈ h.mods.keys ∧ ¬ c.accepts k = true ∨ k ∈ (c.strokes h.mods).press))
        ∨ (∃ k, r = .press k ∧ (k ∈ h.mods.keys ∨ k ∈ (c.strokes h.mods).press)) := by
  have recorded : h.Sends [] (h.record (.tapCombo c)) := .none rfl rfl
  obtain ⟨before, readies, beforeOnly⟩ := exists_sends_exchange (h.record (.tapCombo c))
    (c.strokes h.mods).release (c.strokes h.mods).press
  have ready : h.Sends before (h.readied c) := recorded.append readies
  have tapped := sends_tapped (covered.key_not_mem_readied plain)
  obtain ⟨after, undoes, afterOnly⟩ := exists_sends_exchange
    (((h.readied c).press c.key).release c.key)
    (c.strokes h.mods).press.reverse (c.strokes h.mods).restore
  refine ⟨before, after, ready, (ready.append tapped).append undoes, ?_⟩
  intro r member
  rcases List.mem_append.mp member with early | late
  · rcases beforeOnly r early with ⟨k, gone, rfl⟩ | ⟨k, new, rfl⟩
    · exact .inl ⟨k, rfl, .inl (Combo.mem_release_strokes.mp gone)⟩
    · exact .inr ⟨k, rfl, .inr new⟩
  · rcases afterOnly r late with ⟨k, gone, rfl⟩ | ⟨k, new, rfl⟩
    · exact .inl ⟨k, rfl, .inr (List.mem_reverse.mp gone)⟩
    · exact .inr ⟨k, rfl, .inl (Combo.mem_restore_strokes.mp new).1⟩

/-- A combo is tapped as a chord. While its key goes down and up, the keys that are down belong to
its modifiers, and each of its modifiers has one of its keys down. Around that only modifier keys
move. The held keys that the combo accepts are not released, all held keys are down in the end,
and the held modifiers are the same.
-/
theorem tapCombo_chord (settled : h.Settled) (plain : ¬ c.key.IsModifier)
    : ∃ before after,
      h.Sends (before ++ [.press c.key, .release c.key] ++ after) (h.tapCombo c)
      ∧ (∀ r ∈ before ++ after, r.key.IsModifier)
      ∧ (∀ k ∈ replayed h.pressed.toList before, ∃ m ∈ c.modifiers, k ∈ m.keys)
      ∧ (∀ m ∈ c.modifiers, ∃ k ∈ m.keys, k ∈ replayed h.pressed.toList before)
      ∧ (∀ k ∈ h.mods.keys,
          (∃ m ∈ c.modifiers, k ∈ m.keys) → .release k ∉ before ++ after)
      ∧ (∀ k, k ∈ (h.tapCombo c).pressed ↔ k ∈ h.mods.keys)
      ∧ (h.tapCombo c).mods = h.mods := by
  obtain ⟨before, after, ready, sends, moved⟩ := settled.covered.exists_sends_tapCombo plain
  have ends := settled.tapCombo plain
  rw [Settled, tapCombo_mods] at ends
  refine ⟨before, after, sends, ?_, ?_, ?_, ?_, ends, tapCombo_mods ..⟩
  · intro r member
    rcases moved r member with ⟨k, rfl, ⟨held, _⟩ | pressed⟩ | ⟨k, rfl, held | pressed⟩
    · exact Mods.isModifier_of_mem_keys held
    · exact Combo.isModifier_of_mem_press pressed
    · exact Mods.isModifier_of_mem_keys held
    · exact Combo.isModifier_of_mem_press pressed
  · intro k down
    rw [ready.pressed] at down
    exact settled.covered.accepts_of_mem_readied down
  · intro m listed
    rw [ready.pressed]
    exact settled.exists_mem_readied listed
  · intro k held accepted released
    rcases moved _ released with ⟨x, same, ⟨_, unwanted⟩ | pressed⟩ | ⟨x, other, _⟩
    · cases same
      exact unwanted (Combo.accepts_iff.mpr accepted)
    · cases same
      exact Combo.not_held_of_mem_press pressed held
    · cases other

/-- The held right shift key stays for the generic modifier and the left one is pressed besides;
the held control key counts for the generic control and the other one is pressed; the held alt key
is let go and comes back.
-/
theorem tapCombo_chord_both_sides
    : let h := holding (.ofModifiers [⟨.shift, .right⟩, ⟨.control, .left⟩, ⟨.alt, .left⟩])
      let c : Combo :=
        .ofList [.generic .shift, ⟨.shift, .left⟩, ⟨.control, .right⟩, .generic .control] .grave
      (h.tapCombo c).reports
        = [.release .leftAlt, .press .leftShift, .press .rightCtrl, .press .grave,
            .release .grave, .release .rightCtrl, .release .leftShift, .press .leftAlt]
      ∧ ¬ c.key.IsModifier
      ∧ ∃ before after,
        h.Sends (before ++ [.press c.key, .release c.key] ++ after) (h.tapCombo c)
        ∧ (∀ k ∈ replayed h.pressed.toList before, ∃ m ∈ c.modifiers, k ∈ m.keys)
        ∧ (∀ m ∈ c.modifiers, ∃ k ∈ m.keys, k ∈ replayed h.pressed.toList before) := by
  intro h c
  have plain : ¬ c.key.IsModifier := by decide
  obtain ⟨before, after, sends, _, nothingElse, complete, _⟩ :=
    tapCombo_chord (settled_holding _ : h.Settled) plain
  exact ⟨by decide, plain, before, after, sends, nothingElse, complete⟩

end EscapeKey.Host
