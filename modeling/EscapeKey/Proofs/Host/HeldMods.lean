import EscapeKey.Host.Guard
import EscapeKey.Proofs.Mods.HeldKeys

/-! What the operations of the host leave of the modifier byte. Key strokes do not touch it, so
taps, combos and rules keep it; only replacing the held modifiers changes it.
-/

namespace EscapeKey.Host

/-- A part of the host that no single stroke touches is as it was after all of them. -/
theorem foldl_leaves {α : Type} {part : Host → α} {move : Host → Key → Host}
    (alone : ∀ h k, part (move h k) = part h) (h : Host) (ks : List Key)
    : part (ks.foldl move h) = part h := by
  induction ks generalizing h with
  | nil => rfl
  | cons k rest ih => rw [List.foldl_cons, ih, alone]

@[simp]
theorem press_mods (h : Host) (k : Key) : (h.press k).mods = h.mods := by
  unfold press
  split <;> rfl

@[simp]
theorem release_mods (h : Host) (k : Key) : (h.release k).mods = h.mods := by
  unfold release
  split <;> rfl

@[simp]
theorem record_mods (h : Host) (e : Event) : (h.record e).mods = h.mods :=
  rfl

@[simp]
theorem foldl_press_mods (h : Host) (ks : List Key) : (ks.foldl press h).mods = h.mods :=
  foldl_leaves press_mods h ks

@[simp]
theorem foldl_release_mods (h : Host) (ks : List Key)
    : (ks.foldl release h).mods = h.mods :=
  foldl_leaves release_mods h ks

@[simp]
theorem holdMods_mods (h : Host) (mods : Mods) : (h.holdMods mods).mods = mods :=
  rfl

/-- Holding what is held already moves no key. -/
theorem holdMods_self (h : Host) : h.holdMods h.mods = h := by
  have none : h.mods.keys.filter (!h.mods.keys.contains ·) = [] := by
    rw [List.filter_eq_nil_iff]
    intro k held
    simpa using held
  rw [holdMods, none]
  rfl

@[simp]
theorem setMods_mods (h : Host) (mods : Mods) : (h.setMods mods).mods = mods :=
  rfl

@[simp]
theorem tap_mods (h : Host) (k : Key) : (h.tap k).mods = h.mods := by
  simp [tap]

@[simp]
theorem ready_mods (h : Host) (s : Combo.Strokes) : (h.ready s).mods = h.mods := by
  simp [ready]

@[simp]
theorem send_mods (h : Host) (s : Combo.Strokes) : (h.send s).mods = h.mods := by
  simp only [send, foldl_press_mods, foldl_release_mods, press_mods, release_mods, ready_mods]

@[simp]
theorem tapCombo_mods (h : Host) (c : Combo) : (h.tapCombo c).mods = h.mods := by
  simp [tapCombo]

/-- An emission keeps the modifiers, whichever way the combo is sent. -/
@[simp]
theorem emit_mods (h : Host) (c : Combo) : (h.emit c).mods = h.mods := by
  unfold emit
  split <;> simp

/-- A guard takes its keys away, and where none of them is held that needs no call. -/
@[simp]
theorem suspend_mods (h : Host) (suppress : Mods)
    : (h.suspend suppress).mods = h.mods.without suppress := by
  unfold suspend
  split
  case isTrue => rfl
  case isFalse apart =>
    exact (Mods.without_eq_self_iff.mpr (Bool.eq_false_iff.mpr apart)).symm

/-- A guard puts back what it found, whether or not the call to do so is needed. -/
@[simp]
theorem guarded_mods (h : Host) (suppress : Mods) (body : Host → Host)
    : (h.guarded suppress body).mods = h.mods := by
  unfold guarded resume
  split
  case isTrue same => exact same
  case isFalse => rfl

@[simp]
theorem applyRule_mods (h : Host) (r : Override.Rule) : (h.applyRule r).mods = h.mods :=
  guarded_mods h r.suppress _

end EscapeKey.Host
