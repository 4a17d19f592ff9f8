import Mathlib.Data.List.Dedup
import EscapeKey.Proofs.Combo.StrokeSides
import EscapeKey.Proofs.Host.Chords

/-! How many reports a tapped combo sends. A reported press puts one more key down and a reported
release puts one up, so that the reports of a burst can be told from the keys that are down before
and after it. A key that is to move twice in a burst moves once, and the count of the strokes is
right exactly if no key is to be pressed twice.
-/

namespace EscapeKey.Host

/-- The number of keys that are down. -/
def downCount (h : Host) : Nat :=
  h.pressed.toList.length

-----------------------------------------------------------------------------------------
-- Reports and the number of keys down
-----------------------------------------------------------------------------------------

theorem length_reports_press (h : Host) (k : Key)
    : (h.press k).reports.length + h.downCount = h.reports.length + (h.press k).downCount := by
  by_cases down : k ∈ h.pressed
  · rw [press, if_pos (PressedKeys.contains_iff.mpr down)]
  · have sends := sends_press down
    have added : (h.press k).downCount = h.downCount + 1 := by
      rw [downCount, ← sends.pressed]
      exact List.length_append
    rw [sends.reports, List.length_append, List.length_singleton, added]
    omega

theorem length_reports_release (h : Host) (k : Key)
    : (h.release k).reports.length + (h.release k).downCount
      = h.reports.length + h.downCount := by
  by_cases down : k ∈ h.pressed
  · have sends := sends_release down
    have removed : (h.release k).downCount + 1 = h.downCount := by
      rw [downCount, ← sends.pressed]
      exact List.length_erase_add_one down
    rw [sends.reports, List.length_append, List.length_singleton]
    omega
  · rw [release, if_neg (mt PressedKeys.contains_iff.mp down)]

theorem length_reports_foldl_press (h : Host) (ks : List Key)
    : (ks.foldl press h).reports.length + h.downCount
      = h.reports.length + (ks.foldl press h).downCount := by
  induction ks generalizing h with
  | nil => rfl
  | cons k rest ih =>
      have first := length_reports_press h k
      have later := ih (h.press k)
      rw [List.foldl_cons]
      omega

theorem length_reports_foldl_release (h : Host) (ks : List Key)
    : (ks.foldl release h).reports.length + (ks.foldl release h).downCount
      = h.reports.length + h.downCount := by
  induction ks generalizing h with
  | nil => rfl
  | cons k rest ih =>
      have first := length_reports_release h k
      have later := ih (h.release k)
      rw [List.foldl_cons]
      omega

-----------------------------------------------------------------------------------------
-- Bursts of keys that all move
-----------------------------------------------------------------------------------------

variable {h : Host} {ks : List Key}

/-- Keys that are up go down with one report for each of them, even if they are listed twice.
Witness: the keys that are down afterwards are those before and these.
-/
theorem length_reports_of_up (up : ∀ k ∈ ks, k ∉ h.pressed)
    : (ks.foldl press h).reports.length = h.reports.length + ks.dedup.length := by
  have both : (h.pressed.toList ++ ks.dedup).Nodup := by
    refine List.nodup_append.mpr ⟨h.pressed.nodup, ks.nodup_dedup, ?_⟩
    rintro k before _ listed rfl
    exact up k (List.mem_dedup.mp listed) before
  have after : (ks.foldl press h).pressed.toList.Perm (h.pressed.toList ++ ks.dedup) := by
    refine (List.perm_ext_iff_of_nodup (ks.foldl press h).pressed.nodup both).mpr fun k => ?_
    rw [List.mem_append, List.mem_dedup]
    exact mem_foldl_press
  have count : (ks.foldl press h).downCount = h.downCount + ks.dedup.length := by
    rw [downCount, after.length_eq, List.length_append, downCount]
  have balance := length_reports_foldl_press h ks
  omega

/-- Keys that are down go up with one report for each of them, even if they are listed twice.
Witness: the keys that were down before are those afterwards and these.
-/
theorem length_reports_of_down (down : ∀ k ∈ ks, k ∈ h.pressed)
    : (ks.foldl release h).reports.length = h.reports.length + ks.dedup.length := by
  have both : ((ks.foldl release h).pressed.toList ++ ks.dedup).Nodup := by
    refine List.nodup_append.mpr ⟨PressedKeys.nodup _, ks.nodup_dedup, ?_⟩
    rintro k after _ listed rfl
    exact (mem_foldl_release.mp after).2 (List.mem_dedup.mp listed)
  have before : h.pressed.toList.Perm ((ks.foldl release h).pressed.toList ++ ks.dedup) := by
    refine (List.perm_ext_iff_of_nodup h.pressed.nodup both).mpr fun k => ?_
    have still : k ∈ (ks.foldl release h).pressed.toList ↔ k ∈ h.pressed ∧ k ∉ ks :=
      mem_foldl_release
    rw [List.mem_append, List.mem_dedup, still]
    by_cases listed : k ∈ ks
    · exact iff_of_true (down k listed) (.inr listed)
    · simp only [listed, not_false_eq_true, and_true, or_false]
      rfl
  have count : h.downCount = (ks.foldl release h).downCount + ks.dedup.length := by
    rw [downCount, before.length_eq, List.length_append, downCount]
  have balance := length_reports_foldl_release h ks
  omega

-----------------------------------------------------------------------------------------
-- The reports of a tapped combo
-----------------------------------------------------------------------------------------

variable {c : Combo}

/-- A combo is tapped with two reports for its key and two for each other key that moves, which
all bursts move once.
-/
theorem Settled.length_reports_tapCombo (settled : h.Settled) (plain : ¬ c.key.IsModifier)
    : (h.tapCombo c).reports.length
      = h.reports.length + (2 * (c.strokes h.mods).release.length
        + 2 * (c.strokes h.mods).press.dedup.length + 2) := by
  let recorded := h.record (.tapCombo c)
  let released := (c.strokes h.mods).release.foldl release recorded
  let tapped := ((h.readied c).press c.key).release c.key
  let undone := (c.strokes h.mods).press.reverse.foldl release tapped
  have lifts : released.reports.length
      = h.reports.length + (c.strokes h.mods).release.dedup.length := by
    refine length_reports_of_down (h := recorded) fun k gone => ?_
    exact (settled k).mpr (Combo.mem_release_strokes.mp gone).1
  have presses : (h.readied c).reports.length
      = released.reports.length + (c.strokes h.mods).press.dedup.length := by
    refine length_reports_of_up fun k new down => ?_
    have before : k ∈ h.pressed := (mem_foldl_release.mp down).1
    exact Combo.not_held_of_mem_press new ((settled k).mp before)
  have taps : tapped.reports.length = (h.readied c).reports.length + 2 := by
    rw [(sends_tapped (settled.covered.key_not_mem_readied plain)).reports]
    exact List.length_append
  have undoes : undone.reports.length
      = tapped.reports.length + (c.strokes h.mods).press.reverse.dedup.length := by
    refine length_reports_of_down fun k listed => ?_
    have new := List.mem_reverse.mp listed
    have other : k ≠ c.key := by
      rintro rfl
      exact plain (Combo.isModifier_of_mem_press new)
    exact mem_release.mpr ⟨mem_press.mpr (.inl (mem_readied.mpr (.inr new))), other⟩
  have restores : (h.tapCombo c).reports.length
      = undone.reports.length + (c.strokes h.mods).restore.dedup.length := by
    refine length_reports_of_up fun k gone down => ?_
    obtain ⟨held, unwanted⟩ := Combo.mem_restore_strokes.mp gone
    obtain ⟨late, moved⟩ := mem_foldl_release.mp down
    rcases mem_press.mp (mem_release.mp late).1 with ready | rfl
    · rcases mem_readied.mp ready with ⟨_, stayed⟩ | new
      · exact stayed ⟨held, unwanted⟩
      · exact moved (List.mem_reverse.mpr new)
    · exact plain (Mods.isModifier_of_mem_keys held)
  have once := (c.strokes h.mods).press.reverse_perm.dedup.length_eq
  have lifted := (c.nodup_release_strokes h.mods)
  rw [Combo.restore_strokes, (List.nodup_reverse.mpr lifted).dedup, List.length_reverse]
    at restores
  rw [lifted.dedup] at lifts
  omega

/-- The strokes of a combo count the reports that it sends, except that a key is counted each time
it is to be pressed and moves only once. So the count is right exactly if no key is to be pressed
twice, that is, unless the combo names both the generic and the left modifier of a kind of which no
key is held. In any case no key is pressed that is held, and the modifiers stay as they are exactly
if the combo sends no more than the two reports of its key.
-/
theorem tapCombo_count (settled : h.Settled) (plain : ¬ c.key.IsModifier)
    : let strokes := c.strokes h.mods
      ∃ sent,
        (h.tapCombo c).reports = h.reports ++ sent
        ∧ sent.length + 2 * strokes.press.length = strokes.count + 2 * strokes.press.dedup.length
        ∧ (sent.length = strokes.count ↔ strokes.press.Nodup)
        ∧ (strokes.press.Nodup
          ↔ ∀ kind,
            .generic kind ∈ c.modifiers
            → .left kind ∈ c.modifiers
            → h.mods.holds (.generic kind) = true)
        ∧ (∀ k ∈ strokes.press, k ∉ h.mods.keys)
        ∧ (strokes.changesModifiers = false ↔ sent.length = 2) := by
  intro strokes
  obtain ⟨before, after, _, sends, _⟩ := settled.covered.exists_sends_tapCombo plain
  let sent := before ++ [.press c.key, .release c.key] ++ after
  have length
      : sent.length = 2 * strokes.release.length + 2 * strokes.press.dedup.length + 2 := by
    have total := settled.length_reports_tapCombo plain
    rw [sends.reports, List.length_append] at total
    exact Nat.add_left_cancel total
  have restored : strokes.restore.length = strokes.release.length := by
    rw [Combo.restore_strokes, List.length_reverse]
  have counted : strokes.count = 2 * strokes.release.length + 2 * strokes.press.length + 2 := by
    rw [Combo.Strokes.count, restored]
    omega
  have once : strokes.press.dedup.length = strokes.press.length ↔ strokes.press.Nodup :=
    strokes.press.dedup_sublist.length_eq.trans List.dedup_eq_self
  have nothing : strokes.press.dedup.length = 0 ↔ strokes.press = [] :=
    List.length_eq_zero_iff.trans (List.dedup_eq_nil _)
  refine ⟨sent, sends.reports, by omega, ?count, Combo.nodup_press_iff,
    fun k => Combo.not_held_of_mem_press, ?unchanged⟩
  case count =>
    rw [← once]
    omega
  case unchanged =>
    have none : strokes.release.length = 0 ↔ strokes.release = [] := List.length_eq_zero_iff
    rw [Combo.Strokes.changesModifiers, Bool.or_eq_false_iff, Bool.not_eq_false',
      Bool.not_eq_false', List.isEmpty_iff, List.isEmpty_iff, ← none, ← nothing]
    omega

/-- The held right shift key satisfies the generic modifier, so that the left one is pressed only
once besides; both control keys are pressed, and the held alt key is let go and comes back.
-/
theorem tapCombo_count_both_sides
    : let h := holding (.ofModifiers [.right .shift, .left .alt])
      let c : Combo :=
        .ofList [.generic .shift, .left .shift, .right .control, .generic .control] .grave
      let strokes := c.strokes h.mods
      ¬ c.key.IsModifier
      ∧ strokes.press = [.leftShift, .rightCtrl, .leftCtrl]
      ∧ strokes.count = 10
      ∧ ∃ sent,
        (h.tapCombo c).reports = h.reports ++ sent
        ∧ (sent.length = strokes.count ↔ strokes.press.Nodup)
        ∧ (∀ k ∈ strokes.press, k ∉ h.mods.keys)
        ∧ (strokes.changesModifiers = false ↔ sent.length = 2) := by
  intro h c strokes
  have plain : ¬ c.key.IsModifier := by decide
  obtain ⟨sent, reports, _, counts, _, up, unchanged⟩ :=
    tapCombo_count (settled_holding _ : h.Settled) plain
  exact ⟨plain, by decide, by decide, sent, reports, counts, up, unchanged⟩

/-- With no key held, the left shift key is to be pressed both for the generic modifier and for the
one that names its side. It moves once, so that the combo sends four reports where its strokes
count six.
-/
theorem tapCombo_count_generic_and_left
    : let c : Combo := .ofList [.generic .shift, .left .shift] .grave
      let strokes := c.strokes idle.mods
      idle.Settled
      ∧ ¬ c.key.IsModifier
      ∧ strokes.press = [.leftShift, .leftShift]
      ∧ ¬ strokes.press.Nodup
      ∧ strokes.count = 6
      ∧ (idle.tapCombo c).reports
        = idle.reports
          ++ [.press .leftShift, .press .grave, .release .grave, .release .leftShift] := by
  intro c strokes
  exact ⟨settled_holding ∅, by decide, by decide, by decide, by decide, by decide⟩

end EscapeKey.Host
