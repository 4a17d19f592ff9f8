import Mathlib.Algebra.Group.Nat.Defs
import Mathlib.Data.BitVec
import EscapeKey.Counter

/-! What a counter that starts again from zero measures between two times. -/

namespace EscapeKey.Counter

/-- Between two times such a counter measures their distance up to its period.
Witness: write the later time as the earlier one and a rest, which the subtraction leaves.
-/
theorem elapsed_ofNat {w earlier now : Nat} (ordered : earlier ≤ now)
    : elapsed (BitVec.ofNat w now) (BitVec.ofNat w earlier) = (now - earlier) % 2 ^ w := by
  obtain ⟨gap, rfl⟩ := Nat.exists_eq_add_of_le ordered
  have rest : BitVec.ofNat w (earlier + gap) - BitVec.ofNat w earlier = BitVec.ofNat w gap := by
    rw [BitVec.ofNat_add, BitVec.add_comm, BitVec.add_sub_cancel]
  change (BitVec.ofNat w (earlier + gap) - BitVec.ofNat w earlier).toNat = _
  rw [rest, BitVec.toNat_ofNat, Nat.add_sub_cancel_left]

theorem elapsed_self {w : Nat} (now : BitVec w) : elapsed now now = 0 :=
  congrArg BitVec.toNat (BitVec.sub_self now)

/-- Two readings that are moved on by the same time are as far apart as before, wherever the
counter starts again from zero.
-/
theorem elapsed_later {w : Nat} (now earlier : BitVec w) (ms : Nat)
    : elapsed (later now ms) (later earlier ms) = elapsed now earlier :=
  congrArg BitVec.toNat (add_sub_add_right_eq_sub now earlier (BitVec.ofNat w ms))

/-- Some reading comes as late as the window ends exactly if the window is shorter than the period.
Witness: the reading at the end of the window.
-/
theorem exists_le_elapsed_iff {w window : Nat} (earlier : BitVec w)
    : (∃ now, window ≤ elapsed now earlier) ↔ window < 2 ^ w := by
  constructor
  · rintro ⟨now, late⟩
    exact Nat.lt_of_le_of_lt late (now - earlier).isLt
  · intro short
    refine ⟨later earlier window, Nat.le_of_eq ?_⟩
    have rest : earlier + BitVec.ofNat w window - earlier = BitVec.ofNat w window := by
      rw [BitVec.add_comm, BitVec.add_sub_cancel]
    change window = (earlier + BitVec.ofNat w window - earlier).toNat
    rw [rest, BitVec.toNat_ofNat, Nat.mod_eq_of_lt short]

end EscapeKey.Counter
