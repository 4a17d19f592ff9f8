import Mathlib.Data.List.Basic
import EscapeKey.Mods.Held

/-! The modifier byte read as a set of bits. Whether two bytes meet, one lies in the other, or a
union of masks covers a key is told bit by bit, and every bit belongs to one generic modifier.
-/

namespace EscapeKey

namespace Mods

theorem bits_eq_zero_iff {bits : BitVec 8} : bits = 0#8 ↔ ∀ i, bits.getLsbD i = false := by
  constructor
  · rintro rfl i
    exact BitVec.getLsbD_zero
  · intro clear
    exact BitVec.eq_of_getLsbD_eq fun i _ => (clear i).trans BitVec.getLsbD_zero.symm

/-- Two sets meet in one of their bits. -/
theorem meets_iff_bit {a b : Mods}
    : a.meets b = true ↔ ∃ i, a.bits.getLsbD i = true ∧ b.bits.getLsbD i = true := by
  rw [meets, bne_iff_ne, ne_eq, bits_eq_zero_iff]
  simp [BitVec.getLsbD_and]

/-- A set lies in another with all its bits. -/
theorem isWithin_iff_bit {a b : Mods}
    : a.isWithin b = true ↔ ∀ i, a.bits.getLsbD i = true → b.bits.getLsbD i = true := by
  rw [isWithin, beq_iff_eq, bits_eq_zero_iff]
  refine forall_congr' fun i => ?_
  rw [BitVec.getLsbD_and, BitVec.getLsbD_not, Bool.and_eq_false_imp]
  refine imp_congr_right fun set => ?_
  simp [BitVec.lt_of_getLsbD set]

/-- A union of masks has the bits of each of them, by induction on the masks. -/
theorem bit_ofModifiers {ms : List Modifier} {i : Nat}
    : (ofModifiers ms).bits.getLsbD i = true
      ↔ ∃ m ∈ ms, m.mask.bits.getLsbD i = true := by
  have joined (acc : Mods)
      : (ms.foldl (fun acc m => acc ∪ m.mask) acc).bits.getLsbD i = true
        ↔ acc.bits.getLsbD i = true ∨ ∃ m ∈ ms, m.mask.bits.getLsbD i = true := by
    induction ms generalizing acc with
    | nil => simp
    | cons m rest ih =>
        have first : (acc ∪ m.mask).bits.getLsbD i
            = (acc.bits.getLsbD i || m.mask.bits.getLsbD i) :=
          BitVec.getLsbD_or
        rw [List.foldl_cons, ih, first, Bool.or_eq_true, List.exists_mem_cons_iff, or_assoc]
  rw [ofModifiers, joined]
  exact or_iff_right (by simp [EmptyCollection.emptyCollection])

/-- A union of masks does not depend on the order of the modifiers or on repetitions. -/
theorem ofModifiers_congr {ms others : List Modifier} (same : ∀ m, m ∈ ms ↔ m ∈ others)
    : ofModifiers ms = ofModifiers others := by
  have bits : (ofModifiers ms).bits = (ofModifiers others).bits := by
    refine BitVec.eq_of_getLsbD_eq fun i _ => ?_
    rw [Bool.eq_iff_iff, bit_ofModifiers, bit_ofModifiers]
    simp only [same]
  exact congrArg Mods.mk bits

/-- A union of masks holds a modifier when one of the masks does. -/
theorem holds_ofModifiers {ms : List Modifier} {s : Modifier}
    : (ofModifiers ms).holds s = true ↔ ∃ m ∈ ms, m.mask.meets s.mask = true := by
  simp only [holds, meets_iff_bit, bit_ofModifiers]
  constructor
  · rintro ⟨i, ⟨m, listed, covered⟩, asked⟩
    exact ⟨m, listed, i, covered, asked⟩
  · rintro ⟨m, listed, i, covered, asked⟩
    exact ⟨i, ⟨m, listed, covered⟩, asked⟩

/-- What is held stays held when more keys are. -/
theorem holds_of_isWithin {a b : Mods} (within : a.isWithin b = true) {m : Modifier}
    (held : a.holds m = true)
    : b.holds m = true := by
  obtain ⟨i, set, covered⟩ := meets_iff_bit.mp held
  exact meets_iff_bit.mpr ⟨i, isWithin_iff_bit.mp within i set, covered⟩

end Mods

-----------------------------------------------------------------------------------------
-- Generic modifiers
-----------------------------------------------------------------------------------------

namespace Modifier

/-- Every bit belongs to a generic modifier. -/
theorem exists_generic_of_bit
    : ∀ i < 8, ∃ g ∈ generics, g.mask.bits.getLsbD i = true := by
  decide

/-- No bit belongs to two generic modifiers. -/
theorem generic_of_bit
    : ∀ i < 8, ∀ g ∈ generics, ∀ other ∈ generics,
      g.mask.bits.getLsbD i = true → other.mask.bits.getLsbD i = true → g = other := by
  decide

end Modifier

namespace Mods

theorem mem_generics {held : Mods} {g : Modifier}
    : g ∈ held.generics ↔ g ∈ Modifier.generics ∧ held.holds g = true :=
  List.mem_filter

/-- Nothing is held besides generic modifiers exactly if every generic modifier that is held is
one of them. Witness: each bit of the held keys belongs to one generic modifier.
-/
theorem isWithin_ofModifiers_iff {held : Mods} {ms : List Modifier}
    (generic : ∀ m ∈ ms, m ∈ Modifier.generics)
    : held.isWithin (ofModifiers ms) = true ↔ ∀ g ∈ held.generics, g ∈ ms := by
  rw [isWithin_iff_bit]
  constructor
  · intro within g member
    obtain ⟨known, holds⟩ := mem_generics.mp member
    obtain ⟨i, set, covered⟩ := meets_iff_bit.mp holds
    obtain ⟨m, listed, also⟩ := bit_ofModifiers.mp (within i set)
    have same := Modifier.generic_of_bit i (BitVec.lt_of_getLsbD set) g known m (generic m listed)
      covered also
    exact same ▸ listed
  · intro listed i set
    obtain ⟨g, known, covered⟩ := Modifier.exists_generic_of_bit i (BitVec.lt_of_getLsbD set)
    have holds : held.holds g = true := meets_iff_bit.mpr ⟨i, set, covered⟩
    exact bit_ofModifiers.mpr ⟨g, listed g (mem_generics.mpr ⟨known, holds⟩), covered⟩

end Mods

end EscapeKey
