import Mathlib.Data.List.Nodup
import EscapeKey.Combo.Strokes
import EscapeKey.Proofs.Mods.HeldKeys

/-! The modifier keys that the strokes of a combo move. Offering every held key to every modifier
leaves the held keys that the combo does not accept, which are released, and the modifiers of
which no key is held, for which one is pressed.
-/

namespace EscapeKey.Combo

/-- The key satisfies one of the combo's modifiers. -/
def accepts (c : Combo) (k : Key) : Bool :=
  c.modifiers.any (·.keys.contains k)

theorem accepts_iff {c : Combo} {k : Key}
    : c.accepts k = true ↔ ∃ m ∈ c.modifiers, k ∈ m.keys := by
  simp [accepts]

-----------------------------------------------------------------------------------------
-- Offering the held keys to the modifiers
-----------------------------------------------------------------------------------------

/-- Claiming a key, or not, as one filter of the keys and one of the modifiers. -/
theorem claim_eq (k : Key) (m : Modifier) {gap : Gap} (nodup : gap.missing.Nodup)
    : gap.claim k m
      = { lift := gap.lift.filter fun x => !(x == k && m.keys.contains k)
          missing := gap.missing.filter fun n => !(n == m && m.keys.contains k) } := by
  unfold Gap.claim
  split
  case isTrue accepted =>
    simp only [accepted, Bool.and_true]
    -- a modifier is missing at most once, so erasing it leaves no other copy
    rw [nodup.erase_eq_filter]
    rfl
  case isFalse refused =>
    rw [Bool.not_eq_true] at refused
    simp only [refused, Bool.and_false, Bool.not_false, List.filter_true]

/-- A key that is offered to some modifiers stays if one of them accepts it, and those that do
are no longer missing, by induction on the modifiers.
-/
theorem foldl_claim (k : Key) (ms : List Modifier) {gap : Gap} (nodup : gap.missing.Nodup)
    : ms.foldl (Gap.claim k) gap
      = { lift := gap.lift.filter fun x => !(x == k && ms.any (·.keys.contains k))
          missing := gap.missing.filter fun m => !(ms.contains m && m.keys.contains k) } := by
  induction ms generalizing gap with
  | nil => simp
  | cons m rest ih =>
      have still := nodup.filter fun n => !(n == m && m.keys.contains k)
      rw [List.foldl_cons, claim_eq k m nodup, ih still, List.filter_filter, List.filter_filter]
      congr 1
      · apply List.filter_congr
        intro x _
        grind
      · apply List.filter_congr
        intro n _
        grind

/-- Of the keys that are offered the accepted ones stay, and the modifiers that accept one of
them are no longer missing, by induction on the keys.
-/
theorem foldl_foldl_claim (c : Combo) (ks : List Key) {gap : Gap} (nodup : gap.missing.Nodup)
    : ks.foldl (fun gap k => c.modifiers.foldl (Gap.claim k) gap) gap
      = { lift := gap.lift.filter fun x => !(ks.contains x && c.accepts x)
          missing := gap.missing.filter fun m =>
            !(c.modifiers.contains m && m.keys.any ks.contains) } := by
  induction ks generalizing gap with
  | nil =>
      have none (m : Modifier) : m.keys.any [].contains = false := by
        rw [List.any_eq_false]
        simp
      simp [none]
  | cons k rest ih =>
      have still := nodup.filter fun m => !(c.modifiers.contains m && m.keys.contains k)
      rw [List.foldl_cons, foldl_claim k c.modifiers nodup, ih still, List.filter_filter,
        List.filter_filter]
      congr 1
      · apply List.filter_congr
        intro x _
        grind [accepts]
      · apply List.filter_congr
        intro x _
        grind

/-- The held keys leave a gap of those that the combo does not accept and of the modifiers that
are not held.
-/
theorem gap_eq (c : Combo) (held : Mods)
    : c.gap held
      = { lift := held.keys.filter (!c.accepts ·)
          missing := c.modifiers.filter (!held.holds ·) } := by
  rw [gap, foldl_foldl_claim c held.keys c.nodup]
  congr 1
  · apply List.filter_congr
    intro x listed
    simp [listed]
  · apply List.filter_congr
    intro m listed
    have holds : held.holds m = m.keys.any held.keys.contains := by
      rw [Bool.eq_iff_iff, Mods.holds_iff_keys]
      simp
    simp [listed, holds]

-----------------------------------------------------------------------------------------
-- The keys that move
-----------------------------------------------------------------------------------------

theorem mem_release_strokes {c : Combo} {held : Mods} {k : Key}
    : k ∈ (c.strokes held).release ↔ k ∈ held.keys ∧ ¬ c.accepts k = true := by
  simp [strokes, gap_eq]

theorem mem_restore_strokes {c : Combo} {held : Mods} {k : Key}
    : k ∈ (c.strokes held).restore ↔ k ∈ held.keys ∧ ¬ c.accepts k = true := by
  simp [strokes, gap_eq]

theorem mem_press_strokes {c : Combo} {held : Mods} {k : Key}
    : k ∈ (c.strokes held).press
      ↔ ∃ m ∈ c.modifiers, ¬ held.holds m = true ∧ m.key = k := by
  simp [strokes, gap_eq, and_assoc]

/-- No key is released twice. -/
theorem nodup_release_strokes (c : Combo) (held : Mods) : (c.strokes held).release.Nodup := by
  rw [strokes, gap_eq, List.nodup_reverse]
  exact held.nodup_keys.filter _

/-- The keys that are restored are those that were released, the last one first. -/
theorem restore_strokes (c : Combo) (held : Mods)
    : (c.strokes held).restore = (c.strokes held).release.reverse :=
  (List.reverse_reverse _).symm

/-- A key is pressed for a modifier only if no key of the modifier is held. -/
theorem not_held_of_mem_press {c : Combo} {held : Mods} {k : Key}
    (member : k ∈ (c.strokes held).press)
    : k ∉ held.keys := by
  obtain ⟨m, _, missing, rfl⟩ := mem_press_strokes.mp member
  intro listed
  exact missing (Mods.holds_iff_keys.mpr ⟨m.key, m.key_mem_keys, listed⟩)

/-- Only modifier keys are pressed besides the main key. -/
theorem isModifier_of_mem_press {c : Combo} {held : Mods} {k : Key}
    (member : k ∈ (c.strokes held).press)
    : k.IsModifier := by
  obtain ⟨m, _, _, rfl⟩ := mem_press_strokes.mp member
  exact Modifier.isModifier_of_mem_keys m.key_mem_keys

end EscapeKey.Combo
