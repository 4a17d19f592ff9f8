import EscapeKey.Proofs.Counter.Elapsed
import EscapeKey.Proofs.Tap.Readings

/-! How far back a press asks. The latest press may be up to a period of the counter ago. The first
press of a run is older, but a run that is still counted was within the term at the latest press,
so the term and the latest gap bound its age together.
-/

namespace EscapeKey.Tap

/-- The gaps between presses over which a counter of `w` bits times them as if it never started
again from zero.
-/
def Policy.Bridges (w : Nat) : Policy → Nat → Prop
  | .toggle, gap => gap < 2 ^ w
  | .multiTap _ term, gap => gap < 2 ^ w ∧ gap + term.toNat ≤ 2 ^ w

instance (w : Nat) : (policy : Policy) → (gap : Nat) → Decidable (policy.Bridges w gap)
  | .toggle, gap => inferInstanceAs (Decidable (gap < 2 ^ w))
  | .multiTap _ term, gap =>
    inferInstanceAs (Decidable (gap < 2 ^ w ∧ gap + term.toNat ≤ 2 ^ w))

theorem Policy.Bridges.lt {w gap : Nat} {policy : Policy} (bridged : policy.Bridges w gap)
    : gap < 2 ^ w := by
  cases policy with
  | toggle => exact bridged
  | multiTap taps term => exact bridged.1

/-- What a counter bridges, a wider one bridges as well. -/
theorem Policy.Bridges.mono {w wider gap : Nat} {policy : Policy}
    (bridged : policy.Bridges w gap) (le : w ≤ wider)
    : policy.Bridges wider gap := by
  have grows : 2 ^ w ≤ 2 ^ wider := Nat.pow_le_pow_right (by decide) le
  cases policy with
  | toggle => exact Nat.lt_of_lt_of_le bridged grows
  | multiTap taps term =>
      exact ⟨Nat.lt_of_lt_of_le bridged.1 grows, Nat.le_trans bridged.2 grows⟩

namespace State

/-- If a run is counted, the machine is idle under the multi-tap policy, and the latest press is
the first of the run or came within the term of it.
-/
def RunIsYoung (s : Settings) (st : State Nat) : Prop :=
  ∀ start ∈ st.runStart,
    st.mode = .idle
    ∧ ∃ taps term last,
        s.policy = .multiTap taps term
        ∧ st.lastPress = some last
        ∧ start ≤ last
        ∧ (last = start ∨ last - start < term.toNat)

theorem runIsYoung_initial (s : Settings) : (initial : State Nat).RunIsYoung s := by
  intro start member
  cases member

/-- A press that does not precede the latest one keeps a run young, by cases on what it does. -/
theorem Pressed.runIsYoung {s : Settings} {now : Nat} {st after : State Nat}
    {decision : Decision} (pressed : Pressed s now st decision after)
    (young : st.RunIsYoung s) (ordered : ∀ last ∈ st.lastPress, last ≤ now)
    : after.RunIsYoung s := by
  intro start member
  cases pressed with
  | stay soon => exact absurd (young start member).1 (by simp)
  | unlatch policy late => exact absurd (young start member).1 (by simp)
  | latch policy soon | wait policy late =>
      obtain ⟨_, taps, term, last, counts, _⟩ := young start member
      exact absurd (policy.symm.trans counts) (by simp)
  | complete policy soon enough => cases member
  | restart policy late | begin policy late =>
      obtain rfl : now = start := Option.some.inj member
      exact ⟨rfl, _, _, now, policy, rfl, Nat.le_refl now, .inl rfl⟩
  | @proceed _ counted _ _ term policy soon short =>
      obtain ⟨_, _, _, last, _, latest, began, _⟩ := young start member
      obtain rfl : counted = some start := member
      have within : now - start < term.toNat := by
        simpa [isWithin, Counter.elapsed] using soon
      exact ⟨rfl, _, _, now, policy, rfl, Nat.le_trans began (ordered last latest), .inr within⟩

/-- Over less than a period the counter sees the same windows as if it never started again. -/
theorem isWithin_ofNat {w earlier now : Nat} (window : UInt32) (ordered : earlier ≤ now)
    (near : now - earlier < 2 ^ w)
    : isWithin (BitVec.ofNat w now) window (some (BitVec.ofNat w earlier))
      = isWithin now window (some earlier) := by
  have same : Counter.elapsed (BitVec.ofNat w now) (BitVec.ofNat w earlier) = now - earlier := by
    rw [Counter.elapsed_ofNat ordered, Nat.mod_eq_of_lt near]
  simp only [isWithin, Option.any_some, same]
  rfl

/-- After a gap that the counter bridges, it answers all that a press asks as if it never started
again. Witness: the start of a young run lies less than a period back.
-/
theorem keepsWindows_ofNat {w now : Nat} {s : Settings} {st : State Nat}
    (young : st.RunIsYoung s) (ordered : ∀ last ∈ st.lastPress, last ≤ now)
    (bridged : ∀ last ∈ st.lastPress, s.policy.Bridges w (now - last))
    : st.KeepsWindows (BitVec.ofNat w) s now where
  last := by
    cases latest : st.lastPress with
    | none => rfl
    | some last =>
        exact isWithin_ofNat s.timeout (ordered last latest) (bridged last latest).lt
  run := by
    intro taps term policy _
    cases counted : st.runStart with
    | none => rfl
    | some start =>
        obtain ⟨_, taps', term', last, policy', latest, began, age⟩ := young start counted
        obtain ⟨rfl, rfl⟩ := Policy.multiTap.inj (policy.symm.trans policy')
        have passed := ordered last latest
        have gap := bridged last latest
        rw [policy] at gap
        obtain ⟨near, room⟩ := gap
        -- The age of the run is the latest gap and its age then, which is below the term.
        have recent : now - start < 2 ^ w := by omega
        exact isWithin_ofNat term (Nat.le_trans began passed) recent

end State

end EscapeKey.Tap
