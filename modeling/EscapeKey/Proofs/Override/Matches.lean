import EscapeKey.Override
import EscapeKey.Proofs.Mods.Bits

/-! When rules match. A rule matches if all that it requires is held and, if it is exact, nothing
else, whatever the order and the repetitions of what it requires. Where nothing is held no rule
does, so that the first rule of a table that matches is the one that applies.
-/

namespace EscapeKey.Override

/-- The place in the table, from zero, of the rule that applies. -/
def resolvedAt (rules : List Rule) (held : Mods) : Option Nat :=
  if held.isEmpty then none else rules.findIdx? (·.isMatch held)

namespace Rule

variable {r s : Rule} {held : Mods}

theorem isMatch_iff
    : r.isMatch held = true
      ↔ r.required ≠ []
        ∧ (∀ m ∈ r.required, held.holds m = true)
        ∧ (r.exact = true → held.isWithin (.ofModifiers r.required) = true) := by
  cases exact : r.exact with
  | true => simp [isMatch, exact, and_assoc]
  | false => simp [isMatch, exact]

/-- The rules agree in all but the order and the repetitions of what they require. -/
def RequiresAlike (r s : Rule) : Prop :=
  { r with required := s.required } = s ∧ ∀ m, m ∈ r.required ↔ m ∈ s.required

theorem RequiresAlike.isMatch_eq (alike : r.RequiresAlike s) (held : Mods)
    : r.isMatch held = s.isMatch held := by
  obtain ⟨rest, same⟩ := alike
  have exact : r.exact = s.exact := by rw [← rest]
  have empty : r.required = [] ↔ s.required = [] := by
    simp only [List.eq_nil_iff_forall_not_mem, same]
  rw [Bool.eq_iff_iff, isMatch_iff, isMatch_iff, ne_eq, ne_eq, empty, exact,
    Mods.ofModifiers_congr same]
  simp only [same]

/-- Where nothing is held no rule matches, because a rule requires something. -/
theorem isMatch_of_isEmpty (nothing : held.isEmpty = true) (r : Rule)
    : r.isMatch held = false := by
  rw [Bool.eq_false_iff]
  intro applies
  obtain ⟨nonempty, all, _⟩ := isMatch_iff.mp applies
  obtain ⟨m, listed⟩ := List.exists_mem_of_ne_nil _ nonempty
  obtain ⟨i, set, _⟩ := Mods.meets_iff_bit.mp (all m listed)
  have clear := Mods.bits_eq_zero_iff.mp (beq_iff_eq.mp nothing) i
  exact absurd (set.symm.trans clear) nofun

/-- A rule that is not exact still matches when more keys are held. -/
theorem isMatch_of_isWithin {more : Mods} (within : held.isWithin more = true)
    (loose : r.exact = false) (applies : r.isMatch held = true)
    : r.isMatch more = true := by
  obtain ⟨nonempty, all, _⟩ := isMatch_iff.mp applies
  refine isMatch_iff.mpr ⟨nonempty, fun m listed => ?_, fun exact => ?_⟩
  · exact Mods.holds_of_isWithin within (all m listed)
  · exact absurd (loose.symm.trans exact) nofun

end Rule

variable {rules : List Rule} {held : Mods}

/-- Leaving the trigger to its timing where nothing is held hides no rule. -/
theorem resolve_eq_find? (rules : List Rule) (held : Mods)
    : resolve rules held = rules.find? (·.isMatch held) := by
  unfold resolve
  split
  case isTrue nothing =>
    symm
    rw [List.find?_eq_none]
    exact fun r _ => Bool.eq_false_iff.mp (Rule.isMatch_of_isEmpty nothing r)
  case isFalse => rfl

theorem resolvedAt_eq_findIdx? (rules : List Rule) (held : Mods)
    : resolvedAt rules held = rules.findIdx? (·.isMatch held) := by
  unfold resolvedAt
  split
  case isTrue nothing =>
    symm
    rw [List.findIdx?_eq_none_iff]
    exact fun r _ => Rule.isMatch_of_isEmpty nothing r
  case isFalse => rfl

end EscapeKey.Override
