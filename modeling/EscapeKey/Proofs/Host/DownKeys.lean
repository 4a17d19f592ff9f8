import EscapeKey.Host
import EscapeKey.Proofs.Combo.StrokeKeys

/-! Which keys are down after each operation of the host. -/

namespace EscapeKey

namespace PressedKeys

instance : Membership Key PressedKeys where
  mem p k := k ∈ p.toList

theorem contains_iff {p : PressedKeys} {k : Key} : p.contains k = true ↔ k ∈ p :=
  List.contains_iff_mem

theorem mem_insert {p : PressedKeys} {k x : Key} : x ∈ p.insert k ↔ x ∈ p ∨ x = k := by
  by_cases down : p.contains k = true
  · have member : k ∈ p := contains_iff.mp down
    rw [insert, dif_pos down]
    exact ⟨.inl, fun either => either.elim id (· ▸ member)⟩
  · rw [insert, dif_neg down]
    change x ∈ p.toList ++ [k] ↔ x ∈ p.toList ∨ x = k
    rw [List.mem_append, List.mem_singleton]

theorem mem_erase {p : PressedKeys} {k x : Key} : x ∈ p.erase k ↔ x ∈ p ∧ x ≠ k :=
  p.nodup.mem_erase_iff.trans and_comm

end PressedKeys

namespace Host

theorem mem_press {h : Host} {k x : Key}
    : x ∈ (h.press k).pressed ↔ x ∈ h.pressed ∨ x = k := by
  unfold press
  split
  case isTrue down =>
    have member : k ∈ h.pressed := PressedKeys.contains_iff.mp down
    exact ⟨.inl, fun either => either.elim id (· ▸ member)⟩
  case isFalse => exact PressedKeys.mem_insert

theorem mem_release {h : Host} {k x : Key}
    : x ∈ (h.release k).pressed ↔ x ∈ h.pressed ∧ x ≠ k := by
  unfold release
  split
  case isTrue => exact PressedKeys.mem_erase
  case isFalse up =>
    have absent : k ∉ h.pressed := fun member => up (PressedKeys.contains_iff.mpr member)
    exact ⟨fun down => ⟨down, fun same => absent (same ▸ down)⟩, And.left⟩

theorem mem_foldl_press {h : Host} {ks : List Key} {x : Key}
    : x ∈ (ks.foldl press h).pressed ↔ x ∈ h.pressed ∨ x ∈ ks := by
  induction ks generalizing h with
  | nil => simp
  | cons k rest ih => rw [List.foldl_cons, ih, mem_press, List.mem_cons, or_assoc]

theorem mem_foldl_release {h : Host} {ks : List Key} {x : Key}
    : x ∈ (ks.foldl release h).pressed ↔ x ∈ h.pressed ∧ x ∉ ks := by
  induction ks generalizing h with
  | nil => simp
  | cons k rest ih => rw [List.foldl_cons, ih, mem_release, List.mem_cons, not_or, and_assoc]

/-- Changing the held modifiers changes only the keys that one side holds and the other does
not.
-/
theorem mem_holdMods {h : Host} {mods : Mods} {x : Key}
    : x ∈ (h.holdMods mods).pressed
      ↔ (x ∈ h.pressed ∧ ¬ (x ∈ h.mods.keys ∧ x ∉ mods.keys))
        ∨ (x ∈ mods.keys ∧ x ∉ h.mods.keys) := by
  unfold holdMods
  rw [mem_foldl_press, mem_foldl_release]
  simp

theorem mem_setMods {h : Host} {mods : Mods} {x : Key}
    : x ∈ (h.setMods mods).pressed ↔ x ∈ (h.holdMods mods).pressed := by
  rw [setMods, mem_holdMods, mem_holdMods]
  rfl

/-- A tapped key is up in the end, even if it was down before. -/
theorem mem_tap {h : Host} {k x : Key}
    : x ∈ (h.tap k).pressed ↔ x ∈ h.pressed ∧ x ≠ k := by
  have recorded : x ∈ (h.record (.tap k)).pressed ↔ x ∈ h.pressed := Iff.rfl
  rw [tap, mem_release, mem_press, recorded]
  tauto

theorem mem_ready {h : Host} {s : Combo.Strokes} {x : Key}
    : x ∈ (h.ready s).pressed ↔ (x ∈ h.pressed ∧ x ∉ s.release) ∨ x ∈ s.press := by
  rw [ready, mem_foldl_press, mem_foldl_release]

/-- Of the keys that were down, the strokes leave up only the main key and those they pressed,
and they leave down all that they restore, provided that they release no more than that.
-/
theorem mem_send {h : Host} {s : Combo.Strokes} {x : Key}
    (restores : ∀ k, k ∈ s.release ↔ k ∈ s.restore)
    : x ∈ (h.send s).pressed
      ↔ (x ∈ h.pressed ∧ x ≠ s.main ∧ x ∉ s.press) ∨ x ∈ s.restore := by
  rw [send, mem_foldl_press, mem_foldl_release, mem_release, mem_press, mem_ready, restores,
    List.mem_reverse]
  tauto

/-- A tapped combo leaves up its main key and the keys it presses and leaves down the held keys
that it does not accept.
-/
theorem mem_tapCombo {h : Host} {c : Combo} {x : Key}
    : x ∈ (h.tapCombo c).pressed
      ↔ (x ∈ h.pressed ∧ x ≠ c.key ∧ x ∉ (c.strokes h.mods).press)
        ∨ (x ∈ h.mods.keys ∧ ¬ c.accepts x = true) := by
  have restores (k : Key)
      : k ∈ (c.strokes h.mods).release ↔ k ∈ (c.strokes h.mods).restore := by
    rw [Combo.mem_release_strokes, Combo.mem_restore_strokes]
  rw [tapCombo, mem_send restores, Combo.mem_restore_strokes]
  rfl

/-- At first exactly the held modifier keys are down. -/
theorem mem_holding {mods : Mods} {x : Key} : x ∈ (holding mods).pressed ↔ x ∈ mods.keys := by
  have fold (ks : List Key) (p : PressedKeys) : x ∈ ks.foldl .insert p ↔ x ∈ p ∨ x ∈ ks := by
    induction ks generalizing p with
    | nil => simp
    | cons k rest ih => rw [List.foldl_cons, ih, PressedKeys.mem_insert, List.mem_cons, or_assoc]
  have none : ¬ x ∈ (∅ : PressedKeys) := List.not_mem_nil
  exact (fold mods.keys ∅).trans (or_iff_right none)

end Host

end EscapeKey
