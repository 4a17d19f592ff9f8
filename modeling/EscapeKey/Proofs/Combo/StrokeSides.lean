import EscapeKey.Proofs.Combo.StrokeKeys

/-! The sides that the strokes of a combo press. The right key of a kind is pressed only for the
modifier that names it, but the left one for the generic modifier as well, so that a combo can ask
for the left key twice.
-/

namespace EscapeKey

namespace Modifier

/-- The modifier of a kind that names its left side. -/
def left (kind : Kind) : Modifier :=
  ⟨kind, .left⟩

/-- The modifier of a kind that names its right side. -/
def right (kind : Kind) : Modifier :=
  ⟨kind, .right⟩

theorem left_mem_sided (kind : Kind) : left kind ∈ sided := by
  cases kind <;> decide

theorem right_mem_sided (kind : Kind) : right kind ∈ sided := by
  cases kind <;> decide

/-- A sided modifier is the left or the right one of its kind. -/
theorem eq_left_or_right {s : Modifier} (known : s ∈ sided)
    : ∃ kind, s = left kind ∨ s = right kind := by
  obtain ⟨kind, side⟩ := s
  refine ⟨kind, ?_⟩
  cases side with
  | either => exact absurd (List.mem_filter.mp known).2 nofun
  | left => exact .inl rfl
  | right => exact .inr rfl

theorem key_eq_rightKey_iff {m : Modifier} {kind : Kind}
    : m.key = kind.rightKey ↔ m = right kind := by
  obtain ⟨other, side⟩ := m
  cases side <;> cases other <;> cases kind <;> decide

theorem key_eq_leftKey_iff {m : Modifier} {kind : Kind}
    : m.key = kind.leftKey ↔ m = generic kind ∨ m = left kind := by
  obtain ⟨other, side⟩ := m
  cases side <;> cases other <;> cases kind <;> decide

/-- Every modifier has the left or the right key of its kind pressed. -/
theorem exists_key_eq (m : Modifier)
    : ∃ kind : Kind, m.key = kind.leftKey ∨ m.key = kind.rightKey := by
  obtain ⟨kind, side⟩ := m
  cases side with
  | either | left => exact ⟨kind, .inl rfl⟩
  | right => exact ⟨kind, .inr rfl⟩

end Modifier

namespace Mods

/-- A generic modifier is held when either side is. -/
theorem holds_generic {m : Mods} {kind : Modifier.Kind}
    : m.holds (.generic kind) = true
      ↔ m.holds (.left kind) = true ∨ m.holds (.right kind) = true := by
  rw [holds_iff_sides]
  simp [Modifier.sides, Modifier.generic, Modifier.left, Modifier.right]

end Mods

namespace Combo

open Modifier (generic left right)

variable {c : Combo} {held : Mods} {kind : Modifier.Kind}

theorem rightKey_mem_press
    : kind.rightKey ∈ (c.strokes held).press
      ↔ right kind ∈ c.modifiers ∧ ¬ held.holds (right kind) = true := by
  simp only [mem_press_strokes, Modifier.key_eq_rightKey_iff]
  constructor
  · rintro ⟨m, listed, missing, rfl⟩
    exact ⟨listed, missing⟩
  · rintro ⟨listed, missing⟩
    exact ⟨_, listed, missing, rfl⟩

theorem leftKey_mem_press
    : kind.leftKey ∈ (c.strokes held).press
      ↔ (left kind ∈ c.modifiers ∧ ¬ held.holds (left kind) = true)
        ∨ (generic kind ∈ c.modifiers ∧ ¬ held.holds (generic kind) = true) := by
  simp only [mem_press_strokes, Modifier.key_eq_leftKey_iff]
  constructor
  · rintro ⟨m, listed, missing, rfl | rfl⟩
    · exact .inr ⟨listed, missing⟩
    · exact .inl ⟨listed, missing⟩
  · rintro (⟨listed, missing⟩ | ⟨listed, missing⟩)
    · exact ⟨_, listed, missing, .inr rfl⟩
    · exact ⟨_, listed, missing, .inl rfl⟩

/-- Only left and right keys of the kinds are pressed besides the main key. -/
theorem exists_kind_of_mem_press {k : Key} (member : k ∈ (c.strokes held).press)
    : ∃ kind : Modifier.Kind, k = kind.leftKey ∨ k = kind.rightKey := by
  obtain ⟨m, _, _, rfl⟩ := mem_press_strokes.mp member
  exact m.exists_key_eq

/-- No key is to be pressed twice exactly if the combo does not name both the generic and the left
modifier of a kind of which no key is held.
Witness: no other two modifiers have the same key pressed.
-/
theorem nodup_press_iff
    : (c.strokes held).press.Nodup
      ↔ ∀ kind, generic kind ∈ c.modifiers → left kind ∈ c.modifiers
        → held.holds (generic kind) = true := by
  have missing : (c.modifiers.filter (!held.holds ·)).Nodup := c.nodup.filter _
  have listed {m : Modifier} (member : m ∈ c.modifiers.filter (!held.holds ·))
      : m ∈ c.modifiers ∧ ¬ held.holds m = true := by
    simpa using member
  rw [strokes, gap_eq, List.nodup_map_iff_inj_on missing]
  constructor
  · intro once kind both sided
    by_contra up
    have leftUp : ¬ held.holds (left kind) = true :=
      fun down => up (Mods.holds_generic.mpr (.inl down))
    have same := once (generic kind) (by simp [both, up]) (left kind)
      (by simp [sided, leftUp]) rfl
    cases same
  · intro apart a first b second same
    obtain ⟨kind, key | key⟩ := a.exists_key_eq
    · rcases Modifier.key_eq_leftKey_iff.mp key with rfl | rfl
      · rcases Modifier.key_eq_leftKey_iff.mp (same.symm.trans key) with rfl | rfl
        · rfl
        · exact absurd (apart kind (listed first).1 (listed second).1) (listed first).2
      · rcases Modifier.key_eq_leftKey_iff.mp (same.symm.trans key) with rfl | rfl
        · exact absurd (apart kind (listed second).1 (listed first).1) (listed second).2
        · rfl
    · rw [Modifier.key_eq_rightKey_iff.mp key,
        Modifier.key_eq_rightKey_iff.mp (same.symm.trans key)]

end Combo

end EscapeKey
