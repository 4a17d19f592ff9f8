import Mathlib.Tactic.Tauto
import EscapeKey.Mods.Held

/-! The modifier byte read as a set of modifier keys. A modifier is held exactly when one of its
keys is, so whatever is asked of the byte can be asked of these keys.
-/

namespace EscapeKey

/-- A key that stands for a sided modifier. -/
def Key.IsModifier (k : Key) : Prop :=
  (Modifier.ofKey? k).isSome = true

instance (k : Key) : Decidable k.IsModifier :=
  inferInstanceAs (Decidable (_ = true))

namespace Modifier

/-- The sided modifiers of which each satisfies the modifier. -/
def sides (m : Modifier) : List Modifier :=
  match m.side with
  | .either => [⟨m.kind, .left⟩, ⟨m.kind, .right⟩]
  | .left | .right => [m]

/-- The sides are sided modifiers, by cases on kind and side. -/
theorem sided_of_mem_sides {m s : Modifier} (member : s ∈ m.sides) : s ∈ sided := by
  obtain ⟨kind, side⟩ := m
  cases side <;> cases kind <;> revert s <;> decide

theorem keys_eq_sides (m : Modifier) : m.keys = m.sides.map key := by
  obtain ⟨kind, side⟩ := m
  cases side <;> rfl

theorem key_mem_keys (m : Modifier) : m.key ∈ m.keys := by
  obtain ⟨kind, side⟩ := m
  cases side <;> simp [key, keys]

theorem eq_of_key_eq : ∀ a ∈ sided, ∀ b ∈ sided, a.key = b.key → a = b := by
  decide

/-- The sided modifier of a key is the one with this key, which no other has. -/
theorem ofKey?_key {s : Modifier} (known : s ∈ sided) : ofKey? s.key = some s := by
  revert s
  decide

/-- Every key of a modifier is a modifier key, namely that of one of its sides. -/
theorem isModifier_of_mem_keys {m : Modifier} {k : Key} (member : k ∈ m.keys)
    : k.IsModifier := by
  rw [keys_eq_sides] at member
  obtain ⟨s, side, rfl⟩ := List.mem_map.mp member
  rw [Key.IsModifier, ofKey?_key (sided_of_mem_sides side)]
  rfl

end Modifier

namespace Mods

/-- Taking away the keys of a mask changes nothing exactly when none of them is in the set. -/
theorem without_eq_self_iff {m mask : Mods} : m.without mask = m ↔ m.meets mask = false := by
  have bits : m.without mask = m ↔ m.bits &&& ~~~mask.bits = m.bits :=
    ⟨congrArg Mods.bits, congrArg Mods.mk⟩
  rw [bits, meets, bne_eq_false_iff_eq]
  constructor
  · intro same
    rw [← same, BitVec.and_assoc, BitVec.not_and_self]
    exact BitVec.and_zero
  · intro apart
    calc m.bits &&& ~~~mask.bits
      _ = (m.bits &&& mask.bits) ||| (m.bits &&& ~~~mask.bits) := by
        rw [apart, BitVec.zero_or]
      _ = m.bits &&& (mask.bits ||| ~~~mask.bits) := BitVec.and_or_distrib_left.symm
      _ = m.bits := by rw [BitVec.or_not_self, BitVec.and_allOnes]

/-- Two sets have a key in common with a union exactly when they do with a part of it. -/
theorem meets_union (m a b : Mods) : m.meets (a ∪ b) = (m.meets a || m.meets b) := by
  have split : m.bits &&& (a.bits ||| b.bits) = (m.bits &&& a.bits) ||| (m.bits &&& b.bits) :=
    BitVec.and_or_distrib_left
  rw [Bool.eq_iff_iff]
  change (m.bits &&& (a.bits ||| b.bits) != 0#8) = true ↔ _
  simp only [meets, Bool.or_eq_true, bne_iff_ne, ne_eq, split, BitVec.or_eq_zero_iff]
  tauto

/-- A modifier is held when one of its sides is, the mask being the union of theirs. -/
theorem holds_iff_sides (m : Mods) (modifier : Modifier)
    : m.holds modifier = true ↔ ∃ s ∈ modifier.sides, m.holds s = true := by
  obtain ⟨kind, side⟩ := modifier
  cases side with
  | either =>
      have union : (⟨kind, .either⟩ : Modifier).mask
          = (⟨kind, .left⟩ : Modifier).mask ∪ (⟨kind, .right⟩ : Modifier).mask := rfl
      simp [Modifier.sides, holds, union, meets_union]
  | left | right => simp [Modifier.sides]

/-- The key of a sided modifier is among the held keys exactly when the modifier is held. -/
theorem key_mem_keys_iff {m : Mods} {s : Modifier} (known : s ∈ Modifier.sided)
    : s.key ∈ m.keys ↔ m.holds s = true := by
  simp only [keys, sided, List.mem_map, List.mem_filter]
  constructor
  · rintro ⟨other, ⟨listed, held⟩, same⟩
    exact Modifier.eq_of_key_eq other listed s known same ▸ held
  · intro held
    exact ⟨s, ⟨known, held⟩, rfl⟩

/-- A modifier is held exactly when one of its keys is. -/
theorem holds_iff_keys {m : Mods} {modifier : Modifier}
    : m.holds modifier = true ↔ ∃ k ∈ modifier.keys, k ∈ m.keys := by
  rw [holds_iff_sides, Modifier.keys_eq_sides]
  constructor
  · rintro ⟨s, side, held⟩
    have listed := (key_mem_keys_iff (Modifier.sided_of_mem_sides side)).mpr held
    exact ⟨s.key, List.mem_map_of_mem side, listed⟩
  · rintro ⟨k, member, listed⟩
    obtain ⟨s, side, rfl⟩ := List.mem_map.mp member
    exact ⟨s, side, (key_mem_keys_iff (Modifier.sided_of_mem_sides side)).mp listed⟩

theorem isModifier_of_mem_keys {m : Mods} {k : Key} (member : k ∈ m.keys)
    : k.IsModifier := by
  obtain ⟨s, held, rfl⟩ := List.mem_map.mp member
  rw [Key.IsModifier, Modifier.ofKey?_key (List.mem_filter.mp held).1]
  rfl

/-- No key is held twice. -/
theorem nodup_keys (m : Mods) : m.keys.Nodup := by
  have all : (Modifier.sided.map Modifier.key).Nodup := by decide
  exact all.sublist (List.filter_sublist.map Modifier.key)

@[simp]
theorem keys_empty : (∅ : Mods).keys = [] := by
  decide

end Mods

end EscapeKey
