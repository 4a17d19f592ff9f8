import EscapeKey.Proofs.Override.Matches

/-! Rules that name no side. Such a rule only sees which generic modifiers are held, and an exact
one matches exactly if these are the ones that it requires. Exact rules that require different
modifiers exclude each other, so that their order in the table is free.
-/

namespace EscapeKey.Override

namespace Rule

variable {r s : Rule} {held : Mods}

/-- The rule requires only modifiers that either side satisfies. -/
def IsGeneric (r : Rule) : Prop :=
  ∀ m ∈ r.required, m ∈ Modifier.generics

instance (r : Rule) : Decidable r.IsGeneric :=
  inferInstanceAs (Decidable (∀ m ∈ r.required, m ∈ Modifier.generics))

/-- The rules require different modifiers, apart from order and repetitions. -/
def RequiresApart (r s : Rule) : Prop :=
  ¬ ∀ m, m ∈ r.required ↔ m ∈ s.required

instance (r s : Rule) : Decidable (r.RequiresApart s) :=
  decidable_of_iff
    (¬ ((∀ m ∈ r.required, m ∈ s.required) ∧ ∀ m ∈ s.required, m ∈ r.required))
    (not_congr
      ⟨fun both m => ⟨both.1 m, both.2 m⟩,
        fun same => ⟨fun m => (same m).mp, fun m => (same m).mpr⟩⟩)

/-- A generic rule matches if it requires something, all of it is among the generic modifiers that
are held and, if it is exact, all of these are required.
-/
theorem IsGeneric.isMatch_iff (generic : r.IsGeneric)
    : r.isMatch held = true
      ↔ r.required ≠ []
        ∧ (∀ m ∈ r.required, m ∈ held.generics)
        ∧ (r.exact = true → ∀ g ∈ held.generics, g ∈ r.required) := by
  have held_iff
      : (∀ m ∈ r.required, held.holds m = true) ↔ ∀ m ∈ r.required, m ∈ held.generics :=
    forall₂_congr fun m listed =>
      ⟨fun holds => Mods.mem_generics.mpr ⟨generic m listed, holds⟩,
        fun member => (Mods.mem_generics.mp member).2⟩
  rw [Rule.isMatch_iff, held_iff, Mods.isWithin_ofModifiers_iff generic]

/-- An exact generic rule matches exactly if it requires the generic modifiers that are held, and
there are some.
-/
theorem IsGeneric.isMatch_iff_of_exact (generic : r.IsGeneric) (exact : r.exact = true)
    : r.isMatch held = true
      ↔ r.required ≠ [] ∧ ∀ m, m ∈ r.required ↔ m ∈ held.generics := by
  rw [generic.isMatch_iff]
  refine and_congr_right fun _ => ⟨?_, ?_⟩
  · rintro ⟨all, only⟩ m
    exact ⟨all m, only exact m⟩
  · intro same
    exact ⟨fun m => (same m).mp, fun _ m => (same m).mpr⟩

/-- Generic rules do not tell apart which side is held. -/
theorem IsGeneric.isMatch_congr (generic : r.IsGeneric) {a b : Mods}
    (same : a.generics = b.generics)
    : r.isMatch a = r.isMatch b := by
  rw [Bool.eq_iff_iff, generic.isMatch_iff, generic.isMatch_iff, same]

/-- Exact generic rules that require different modifiers do not both match. -/
theorem IsGeneric.not_both_match (first : r.IsGeneric) (second : s.IsGeneric)
    (firstExact : r.exact = true) (secondExact : s.exact = true) (apart : r.RequiresApart s)
    (firstMatch : r.isMatch held = true)
    : ¬ s.isMatch held = true := by
  intro secondMatch
  obtain ⟨_, firstHeld⟩ := (first.isMatch_iff_of_exact firstExact).mp firstMatch
  obtain ⟨_, secondHeld⟩ := (second.isMatch_iff_of_exact secondExact).mp secondMatch
  exact apart fun m => (firstHeld m).trans (secondHeld m).symm

end Rule

variable {rules others : List Rule} {held : Mods}

/-- The first of the rules that match, where those are listed by themselves. -/
theorem resolve_eq_head?_filter (rules : List Rule) (held : Mods)
    : resolve rules held = (rules.filter (·.isMatch held)).head? := by
  rw [resolve_eq_find?, List.head?_filter]

/-- If only one rule of a table matches, it applies wherever it stands. -/
theorem resolve_perm (once : (rules.filter (·.isMatch held)).length ≤ 1)
    (reordered : rules.Perm others)
    : resolve others held = resolve rules held := by
  have same := reordered.filter (·.isMatch held)
  rw [resolve_eq_head?_filter, resolve_eq_head?_filter]
  cases found : rules.filter (·.isMatch held) with
  | nil =>
      rw [found] at same
      rw [same.symm.eq_nil]
  | cons r rest =>
      rw [found] at same once
      obtain rfl : rest = [] :=
        List.length_eq_zero_iff.mp (Nat.le_zero.mp (Nat.le_of_succ_le_succ once))
      rw [same.symm.eq_singleton]

/-- At most one rule of a table matches if no two of them do. -/
theorem length_filter_isMatch_le
    (apart : rules.Pairwise fun r s => r.isMatch held = true → ¬ s.isMatch held = true)
    : (rules.filter (·.isMatch held)).length ≤ 1 := by
  have only := apart.filter (·.isMatch held)
  have all : ∀ r ∈ rules.filter (·.isMatch held), r.isMatch held = true :=
    fun r member => (List.mem_filter.mp member).2
  cases found : rules.filter (·.isMatch held) with
  | nil => exact Nat.zero_le 1
  | cons r rest =>
      rw [found] at only all
      cases rest with
      | nil => exact Nat.le_refl 1
      | cons s rest =>
          have firstMatch := all r List.mem_cons_self
          have secondMatch := all s (List.mem_cons_of_mem r List.mem_cons_self)
          have never := List.rel_of_pairwise_cons only List.mem_cons_self firstMatch
          exact absurd secondMatch never

theorem pairwise_not_both_match (held : Mods) (generic : ∀ r ∈ rules, r.IsGeneric)
    (exact : ∀ r ∈ rules, r.exact = true) (apart : rules.Pairwise Rule.RequiresApart)
    : rules.Pairwise fun r s => r.isMatch held = true → ¬ s.isMatch held = true :=
  apart.imp_of_mem fun first second different =>
    (generic _ first).not_both_match (generic _ second) (exact _ first) (exact _ second) different

/-- A table of rules that name no side does not tell sides apart. What applies is the same for all
snapshots with the same generic modifiers. If the rules are exact and no two of them require the
same modifiers, at most one of them matches a snapshot, and what applies is the same for every
order of the table.
-/
theorem resolve_sideless (generic : ∀ r ∈ rules, r.IsGeneric)
    : (∀ a b : Mods, a.generics = b.generics → resolve rules a = resolve rules b)
      ∧ ((∀ r ∈ rules, r.exact = true)
        → rules.Pairwise Rule.RequiresApart
        → ∀ held,
          (rules.filter (·.isMatch held)).length ≤ 1
          ∧ ∀ others, rules.Perm others → resolve others held = resolve rules held) := by
  refine ⟨?sides, ?order⟩
  case sides =>
    intro a b same
    have each : ∀ r ∈ rules, r.isMatch a = r.isMatch b :=
      fun r listed => (generic r listed).isMatch_congr same
    rw [resolve_eq_head?_filter, resolve_eq_head?_filter, List.filter_congr each]
  case order =>
    intro exact apart held
    have once := length_filter_isMatch_le (pairwise_not_both_match held generic exact apart)
    exact ⟨once, fun others reordered => resolve_perm once reordered⟩

/-- Three exact rules, of which the second one lists a modifier twice, in two orders. Shift is held
on the left or on both sides, and alt on either side.
-/
theorem resolve_sideless_mixed
    : let rule := fun name required =>
        ({ name, required, exact := true, suppress := ∅, emit := .bare .grave } : Rule)
      let rules :=
        [rule "shift" [.generic .shift],
          rule "alt-shift" [.generic .alt, .generic .shift, .generic .alt],
          rule "alt" [.generic .alt]]
      let one : Mods := ⟨0x06#8⟩
      let both : Mods := ⟨0x62#8⟩
      (∀ r ∈ rules, r.IsGeneric)
      ∧ one.generics = both.generics
      ∧ resolve rules one = resolve rules both
      ∧ (∀ r ∈ rules, r.exact = true)
      ∧ rules.Pairwise Rule.RequiresApart
      ∧ (rules.filter (·.isMatch both)).length ≤ 1
      ∧ resolve rules.reverse both = resolve rules both
      ∧ (resolve rules both).map (·.name) = some "alt-shift" := by
  intro rule rules one both
  have generic : ∀ r ∈ rules, r.IsGeneric := by decide
  have exact : ∀ r ∈ rules, r.exact = true := by decide
  have apart : rules.Pairwise Rule.RequiresApart := by decide
  have same : one.generics = both.generics := by decide
  obtain ⟨sides, order⟩ := resolve_sideless generic
  obtain ⟨once, reordered⟩ := order exact apart both
  exact ⟨generic, same, sides one both same, exact, apart, once,
    reordered _ (List.reverse_perm rules).symm, by decide⟩

end EscapeKey.Override
