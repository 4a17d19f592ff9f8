import EscapeKey.Proofs.Combo.StrokeSides
import EscapeKey.Proofs.Host.Chords
import EscapeKey.Proofs.Mods.Bits

/-! Combos that are alike, as chords. They cover the same modifier keys, so that the same held keys
stay down for them. Which keys are pressed besides may differ, since a generic modifier covers both
sides and has only one of them pressed.
-/

namespace EscapeKey

namespace Modifier

/-- A sided modifier meets the mask of a modifier exactly if its key is one of the modifier's. -/
theorem mask_meets_iff {m s : Modifier} (known : s ∈ sided)
    : m.mask.meets s.mask = true ↔ s.key ∈ m.keys := by
  obtain ⟨kind, rfl | rfl⟩ := eq_left_or_right known <;> obtain ⟨other, side⟩ := m <;>
    cases side <;> cases other <;> cases kind <;> decide

theorem left_key_mem_keys_iff {m : Modifier} {kind : Kind}
    : (left kind).key ∈ m.keys ↔ m = generic kind ∨ m = left kind := by
  obtain ⟨other, side⟩ := m
  cases side <;> cases other <;> cases kind <;> decide

end Modifier

namespace Combo

open Modifier (generic left right)

variable {a b c : Combo} {held : Mods} {kind : Modifier.Kind}

-----------------------------------------------------------------------------------------
-- The keys that alike combos accept
-----------------------------------------------------------------------------------------

/-- A combo accepts the keys of its mask. -/
theorem accepts_iff_mask_holds {s : Modifier} (known : s ∈ Modifier.sided)
    : c.accepts s.key = true ↔ c.mask.holds s = true := by
  rw [accepts_iff, mask, Mods.holds_ofModifiers]
  simp only [Modifier.mask_meets_iff known]

/-- Alike combos accept the same modifier keys. -/
theorem Alike.accepts_eq (alike : a.Alike b) {s : Modifier} (known : s ∈ Modifier.sided)
    : a.accepts s.key = b.accepts s.key := by
  rw [Bool.eq_iff_iff, accepts_iff_mask_holds known, accepts_iff_mask_holds known, alike.1]

theorem Alike.release_eq (alike : a.Alike b) (held : Mods)
    : (a.strokes held).release = (b.strokes held).release := by
  have lift : held.keys.filter (!a.accepts ·) = held.keys.filter (!b.accepts ·) := by
    apply List.filter_congr
    intro k listed
    obtain ⟨s, member, rfl⟩ := List.mem_map.mp listed
    rw [alike.accepts_eq (List.mem_filter.mp member).1]
  rw [strokes, strokes, gap_eq, gap_eq]
  exact congrArg List.reverse lift

theorem Alike.restore_eq (alike : a.Alike b) (held : Mods)
    : (a.strokes held).restore = (b.strokes held).restore := by
  rw [restore_strokes, restore_strokes, alike.release_eq]

theorem accepts_left_iff
    : c.accepts (left kind).key = true
      ↔ generic kind ∈ c.modifiers ∨ left kind ∈ c.modifiers := by
  simp only [accepts_iff, Modifier.left_key_mem_keys_iff]
  constructor
  · rintro ⟨m, listed, rfl | rfl⟩
    · exact .inl listed
    · exact .inr listed
  · rintro (listed | listed)
    · exact ⟨_, listed, .inl rfl⟩
    · exact ⟨_, listed, .inr rfl⟩

/-- If one of two alike combos names the generic or the left modifier of a kind, so does the
other.
-/
theorem Alike.names_left (alike : a.Alike b)
    : generic kind ∈ a.modifiers ∨ left kind ∈ a.modifiers
      ↔ generic kind ∈ b.modifiers ∨ left kind ∈ b.modifiers := by
  rw [← accepts_left_iff, ← accepts_left_iff, alike.accepts_eq (Modifier.left_mem_sided kind)]

-----------------------------------------------------------------------------------------
-- The keys that alike combos press
-----------------------------------------------------------------------------------------

/-- Besides the held keys both combos ask for the same sides: both or neither name the right
modifier of a kind whose right key is up, and both or neither name the left one of a kind of which
only the right key is held.
-/
def AsksAs (a b : Combo) (held : Mods) : Prop :=
  ∀ kind,
    (¬ held.holds (right kind) = true
      → (right kind ∈ a.modifiers ↔ right kind ∈ b.modifiers))
    ∧ (held.holds (right kind) = true
      → ¬ held.holds (left kind) = true
      → (left kind ∈ a.modifiers ↔ left kind ∈ b.modifiers))

/-- Two combos press the same keys exactly if they press the same sides of each kind. -/
theorem press_iff_sides
    : (∀ k, k ∈ (a.strokes held).press ↔ k ∈ (b.strokes held).press)
      ↔ ∀ kind : Modifier.Kind,
        (kind.leftKey ∈ (a.strokes held).press ↔ kind.leftKey ∈ (b.strokes held).press)
        ∧ (kind.rightKey ∈ (a.strokes held).press
          ↔ kind.rightKey ∈ (b.strokes held).press) := by
  constructor
  · exact fun same kind => ⟨same kind.leftKey, same kind.rightKey⟩
  · intro sides k
    by_cases side : ∃ kind : Modifier.Kind, k = kind.leftKey ∨ k = kind.rightKey
    · obtain ⟨kind, rfl | rfl⟩ := side
      · exact (sides kind).1
      · exact (sides kind).2
    · exact iff_of_false (mt exists_kind_of_mem_press side) (mt exists_kind_of_mem_press side)

/-- Alike combos press the same keys exactly if they ask for the same sides.
Witness: while both keys of a kind are up, the left one is pressed for the generic and for the left
modifier, and if one of two alike combos names one of these, so does the other.
-/
theorem Alike.press_iff (alike : a.Alike b)
    : (∀ k, k ∈ (a.strokes held).press ↔ k ∈ (b.strokes held).press) ↔ a.AsksAs b held := by
  rw [press_iff_sides]
  refine forall_congr' fun kind => ?_
  have lefts : left kind ∈ a.modifiers ∨ generic kind ∈ a.modifiers
      ↔ left kind ∈ b.modifiers ∨ generic kind ∈ b.modifiers :=
    or_comm.trans (alike.names_left.trans or_comm)
  rw [leftKey_mem_press, leftKey_mem_press, rightKey_mem_press, rightKey_mem_press,
    Mods.holds_generic]
  by_cases leftHeld : held.holds (left kind) = true
  · by_cases rightHeld : held.holds (right kind) = true
    · simp [leftHeld, rightHeld]
    · simp [leftHeld, rightHeld]
  · by_cases rightHeld : held.holds (right kind) = true
    · simp [leftHeld, rightHeld]
    · simp [leftHeld, rightHeld, lefts]

/-- Two combos ask for the same sides, whatever is held, exactly if they name the same sided
modifiers.
Witness: with nothing held they are asked about the right sides, and with the right key of a kind
held about the left one.
-/
theorem forall_asksAs_iff
    : (∀ held, a.AsksAs b held)
      ↔ ∀ m ∈ Modifier.sided, (m ∈ a.modifiers ↔ m ∈ b.modifiers) := by
  constructor
  · intro asks m known
    obtain ⟨kind, rfl | rfl⟩ := Modifier.eq_left_or_right known
    · exact (asks (right kind).mask kind).2 (by cases kind <;> decide) (by cases kind <;> decide)
    · exact (asks ∅ kind).1 (by cases kind <;> decide)
  · intro same held kind
    exact ⟨fun _ => same _ (Modifier.right_mem_sided kind),
      fun _ _ => same _ (Modifier.left_mem_sided kind)⟩

end Combo

namespace Host

open Modifier (generic left right)

/-- Alike combos that ask for the same sides have the same keys down when their key is tapped. -/
theorem mem_readied_of_alike {a b : Combo} {h : Host} (alike : a.Alike b)
    (asks : a.AsksAs b h.mods) (k : Key)
    : k ∈ (h.readied a).pressed ↔ k ∈ (h.readied b).pressed := by
  rw [mem_readied, mem_readied, ← Combo.mem_release_strokes, ← Combo.mem_release_strokes,
    alike.release_eq, alike.press_iff.mpr asks k]

/-- Alike combos as chords. They have the same main key, and they release and restore the same keys
in the same order. They press the same keys besides exactly if they ask for the same sides besides
the held keys, which is so for all held keys only if they name the same sided modifiers; and then
the same keys are down when their key is tapped, whatever was down before.
-/
theorem alike_chords {a b : Combo} (alike : a.Alike b)
    : (∀ held,
        let strokes := a.strokes held
        let others := b.strokes held
        strokes.main = others.main
        ∧ strokes.release = others.release
        ∧ strokes.restore = others.restore
        ∧ ((∀ k, k ∈ strokes.press ↔ k ∈ others.press) ↔ a.AsksAs b held))
      ∧ ((∀ held, a.AsksAs b held)
        ↔ ∀ m ∈ Modifier.sided, (m ∈ a.modifiers ↔ m ∈ b.modifiers))
      ∧ ∀ h : Host,
        a.AsksAs b h.mods
        → ∀ k, k ∈ (h.readied a).pressed ↔ k ∈ (h.readied b).pressed := by
  refine ⟨?strokes, Combo.forall_asksAs_iff, fun h asks => mem_readied_of_alike alike asks⟩
  case strokes =>
    intro held strokes others
    exact ⟨alike.2, alike.release_eq held, alike.restore_eq held, alike.press_iff⟩

/-- One combo lists the generic modifiers and another one the left ones as well. With the left alt
key and both control keys held they ask for the same sides, although they do not name the same
ones: both press the left shift key and let the control keys go.
-/
theorem alike_chords_left_besides
    : let a : Combo := .ofList [generic .shift, generic .alt] .grave
      let b : Combo := .ofList [left .alt, left .shift, generic .alt, generic .shift] .grave
      let h := holding (.ofModifiers [left .alt, generic .control])
      a.Alike b
      ∧ a.AsksAs b h.mods
      ∧ (a.strokes h.mods).release = [.rightCtrl, .leftCtrl]
      ∧ (a.strokes h.mods).release = (b.strokes h.mods).release
      ∧ (a.strokes h.mods).restore = (b.strokes h.mods).restore
      ∧ (∀ k, k ∈ (a.strokes h.mods).press ↔ k ∈ (b.strokes h.mods).press)
      ∧ ∀ k, k ∈ (h.readied a).pressed ↔ k ∈ (h.readied b).pressed := by
  intro a b h
  have alike : a.Alike b := by decide
  have asks : a.AsksAs b h.mods := fun kind => by cases kind <;> decide
  obtain ⟨strokes, _, chords⟩ := alike_chords alike
  obtain ⟨_, release, restore, press⟩ := strokes h.mods
  exact ⟨alike, asks, by decide, release, restore, press.mpr asks, chords h asks⟩

/-- The generic shift modifier covers the same keys as those of both sides, but only the left key
is pressed for it, so that these alike combos go out as different chords.
-/
theorem alike_chords_differ
    : let a : Combo := .ofList [generic .shift] .grave
      let b : Combo := .ofList [left .shift, right .shift] .grave
      a.Alike b
      ∧ (a.strokes ∅).press = [.leftShift]
      ∧ (b.strokes ∅).press = [.leftShift, .rightShift]
      ∧ ¬ (∀ k, k ∈ (a.strokes ∅).press ↔ k ∈ (b.strokes ∅).press)
      ∧ (idle.readied a).pressed.toList = [.leftShift]
      ∧ (idle.readied b).pressed.toList = [.leftShift, .rightShift] := by
  intro a b
  have generics : (a.strokes ∅).press = [.leftShift] := by decide
  have sides : (b.strokes ∅).press = [.leftShift, .rightShift] := by decide
  refine ⟨by decide, generics, sides, ?_, by decide, by decide⟩
  intro same
  have both := (same .rightShift).mpr (by rw [sides]; decide)
  rw [generics] at both
  exact absurd both (by decide)

end Host

end EscapeKey
