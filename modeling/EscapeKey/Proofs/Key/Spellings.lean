import EscapeKey.Proofs.Key.Names

/-! Spellings of keys. A text spells a key if its upper-case form is one of the names of the key.
Upper-casing keeps blanks and hyphens and names have none, so that spellings have none either.
-/

namespace EscapeKey

namespace Text

theorem upper?_cons_eq_some_iff {c : Char} {s t : List Char}
    : upper? (c :: s) = some t
      ↔ ∃ first later, upperChar? c = some first ∧ upper? s = some later ∧ first ++ later = t := by
  simp only [upper?, List.mapM_cons, Option.map_eq_some_iff, Option.bind_eq_bind,
    Option.bind_eq_some_iff, Option.pure_def, Option.some.injEq]
  constructor
  · rintro ⟨_, ⟨first, upper, later, each, rfl⟩, rfl⟩
    exact ⟨first, later.flatten, upper, ⟨later, each, rfl⟩, rfl⟩
  · rintro ⟨first, _, upper, ⟨later, each, rfl⟩, rfl⟩
    exact ⟨first :: later, ⟨first, upper, later, each, rfl⟩, rfl⟩

/-- A character that stays in its own upper-case form stays in that of a text, by induction on the
text.
-/
theorem mem_of_upper? {c : Char} (stays : ∀ t, upperChar? c = some t → c ∈ t)
    {s t : List Char} (upper : upper? s = some t) (member : c ∈ s)
    : c ∈ t := by
  induction s generalizing t with
  | nil => contradiction
  | cons x rest ih =>
      obtain ⟨first, later, upperFirst, upperLater, rfl⟩ := upper?_cons_eq_some_iff.mp upper
      rcases List.mem_cons.mp member with rfl | member
      · exact List.mem_append_left later (stays first upperFirst)
      · exact List.mem_append_right first (ih upperLater member)

theorem not_blank_of_mem_foreignUppercase
    : ∀ entry ∈ foreignUppercase, isBlank entry.1 = false := by
  decide +kernel

/-- A blank is no letter, so that it is its own upper-case form if it has one that is ASCII. -/
theorem upperChar?_of_isBlank {c : Char} (blank : isBlank c = true) {t : List Char}
    (upper : upperChar? c = some t)
    : c ∈ t := by
  rw [upperChar?] at upper
  split at upper
  case isTrue ascii =>
    obtain rfl := Option.some.inj upper
    have small : ¬ ('a'.val ≤ c.val ∧ c.val ≤ 'z'.val) := by
      rintro ⟨low, high⟩
      have low : 97 ≤ c.toNat := UInt32.le_iff_toNat_le.mp low
      have high : c.toNat ≤ 122 := UInt32.le_iff_toNat_le.mp high
      simp only [isBlank, Bool.or_eq_true, Bool.and_eq_true, decide_eq_true_eq, beq_iff_eq] at blank
      omega
    have same : c.toUpper = c := dif_neg small
    rw [same]
    exact List.mem_singleton_self c
  case isFalse =>
    obtain ⟨before, after, table, _⟩ := List.lookup_eq_some_iff.mp upper
    have listed : (c, t) ∈ foreignUppercase := by simp [table]
    have solid : isBlank c = false := not_blank_of_mem_foreignUppercase (c, t) listed
    rw [blank] at solid
    contradiction

end Text

namespace Key

/-- A text spells a key if its upper-case form is a name that the table lists for the key. -/
def IsSpelling (k : Key) (s : List Char) : Prop :=
  ∃ name, (name, k.code) ∈ names ∧ Text.upper? s = some name.toList

theorem hyphen_not_mem_names : ∀ entry ∈ names, '-' ∉ entry.1.toList := by
  decide +kernel

/-- A spelling of a key has no blank and no hyphen in it, since these would be in the name. -/
theorem IsSpelling.plain {k : Key} {s : List Char} (spelt : k.IsSpelling s)
    : s ≠ [] ∧ (∀ c ∈ s, Text.isBlank c = false) ∧ '-' ∉ s := by
  obtain ⟨name, listed, upper⟩ := spelt
  have word : Text.IsWord name.toList := (names_plain _ listed).1
  refine ⟨?_, ?_, ?_⟩
  · rintro rfl
    exact word.1 (Option.some.inj upper).symm
  · intro c member
    by_contra blank
    rw [Bool.not_eq_false] at blank
    have inside := Text.mem_of_upper? (fun _ => Text.upperChar?_of_isBlank blank) upper member
    exact absurd (blank.symm.trans (word.not_blank inside)) nofun
  · intro member
    have stays (t : List Char) (upper : Text.upperChar? '-' = some t) : '-' ∈ t := by
      obtain rfl : ['-'] = t := Option.some.inj upper
      exact List.mem_singleton_self _
    exact hyphen_not_mem_names _ listed (Text.mem_of_upper? stays upper member)

theorem read?_eq_some_iff {k : Key} {s : List Char}
    : read? s = some k ↔ k.IsSpelling (Text.trim s) := by
  simp only [read?, Option.bind_eq_bind, Option.bind_eq_some_iff, Option.pure_def,
    Option.some.injEq]
  constructor
  · rintro ⟨spelled, upper, entry, found, rfl⟩
    have same : entry.1 = String.ofList spelled := by simpa using List.find?_some found
    refine ⟨entry.1, List.mem_of_find?_eq_some found, ?_⟩
    rw [upper, same, String.toList_ofList]
  · rintro ⟨name, listed, upper⟩
    refine ⟨name.toList, upper, (name, k.code), ?_, rfl⟩
    rw [String.ofList_toList]
    exact find?_name _ listed

end Key

end EscapeKey
