import EscapeKey.Mods.Spelling
import EscapeKey.Proofs.Mods.HeldKeys
import EscapeKey.Proofs.Text.Words

/-! Labels of modifiers. A modifier reads back from its label, and a modifier byte from the text
that lists the labels of the held keys.
-/

namespace EscapeKey

namespace Modifier

theorem ofSpelling?_label (m : Modifier) : ofSpelling? m.label = some m := by
  obtain ⟨kind, side⟩ := m
  cases kind <;> cases side <;> decide +kernel

/-- Labels are words without the signs that join them. -/
theorem label_plain (m : Modifier)
    : Text.IsWord m.label.toList ∧ '+' ∉ m.label.toList ∧ '-' ∉ m.label.toList := by
  obtain ⟨kind, side⟩ := m
  cases kind <;> cases side <;> decide +kernel

end Modifier

namespace Mods

/-- A byte is made up of the sided modifiers that it holds. -/
theorem ofModifiers_sided (m : Mods) : ofModifiers m.sided = m := by
  obtain ⟨bits⟩ := m
  revert bits
  decide +kernel

/-- The held modifiers, of which there are some unless the byte is empty. -/
theorem sided_ne_nil {m : Mods} (held : m.isEmpty = false) : m.sided ≠ [] := by
  intro absent
  have empty := ofModifiers_sided m
  rw [absent] at empty
  rw [← empty] at held
  contradiction

theorem readPart?_label (m : Modifier) : readPart? m.label.toList = some m := by
  rw [readPart?, m.label_plain.1.trim_eq, String.ofList_toList, m.ofSpelling?_label]

theorem mapM_readPart?_labels (ms : List Modifier)
    : (ms.map (·.label.toList)).mapM readPart? = some ms := by
  induction ms with
  | nil => rfl
  | cons m rest ih =>
      rw [List.map_cons, List.mapM_cons, readPart?_label, ih]
      rfl

theorem toList_text {m : Mods} (held : m.isEmpty = false)
    : m.text.toList = ['+'].intercalate (m.sided.map (·.label.toList)) := by
  rw [text, held]
  simp [String.toList_intercalate, List.map_map, Function.comp_def]

/-- Splitting the text at its joints gives the labels. -/
theorem splitOn_text {m : Mods} (held : m.isEmpty = false)
    : m.text.toList.splitOn '+' = m.sided.map (·.label.toList) := by
  rw [toList_text held]
  apply List.splitOn_intercalate
  · intro label listed
    obtain ⟨modifier, _, rfl⟩ := List.mem_map.mp listed
    exact modifier.label_plain.2.1
  · exact mt List.map_eq_nil_iff.mp (sided_ne_nil held)

/-- The text of held modifiers is none that stands for an empty byte, since its first piece is a
label.
-/
theorem toList_text_ne {m : Mods} (held : m.isEmpty = false) {s : List Char} (short : '+' ∉ s)
    (unlabelled : ∀ modifier : Modifier, modifier.label.toList ≠ s)
    : m.text.toList ≠ s := by
  intro same
  have split := splitOn_text held
  rw [same, List.splitOn_eq_singleton short] at split
  obtain ⟨modifier, _, label⟩ := List.mem_map.mp (split ▸ List.mem_singleton_self s)
  exact unlabelled modifier label

theorem eq_empty {m : Mods} (free : m.isEmpty = true) : m = ∅ :=
  congrArg Mods.mk (beq_iff_eq.mp free)

/-- The text of a modifier byte is a word. -/
theorem isWord_text (m : Mods) : Text.IsWord m.text.toList := by
  cases held : m.isEmpty with
  | true =>
      rw [eq_empty held]
      decide
  | false =>
      refine ⟨toList_text_ne held (by simp) fun modifier => modifier.label_plain.1.1, ?_⟩
      rw [toList_text held, List.all_eq_true]
      intro c member
      rcases Text.mem_intercalate member with joint | ⟨label, listed, inside⟩
      · rw [List.mem_singleton.mp joint]
        decide
      · obtain ⟨modifier, _, rfl⟩ := List.mem_map.mp listed
        exact List.all_eq_true.mp modifier.label_plain.1.2 c inside

/-- A modifier byte reads back from its text. -/
theorem read?_text (m : Mods) : read? m.text.toList = some m := by
  cases held : m.isEmpty with
  | true =>
      rw [eq_empty held]
      decide
  | false =>
      -- neither of the texts that list nothing is written for keys that are held
      have written : m.text.toList ≠ [] := (isWord_text m).1
      have notDash : m.text.toList ≠ ['-'] := by
        refine toList_text_ne held (by decide) fun modifier same => ?_
        have absent := modifier.label_plain.2.2
        simp [same] at absent
      rw [read?, (isWord_text m).trim_eq]
      split
      case h_1 blank => exact absurd blank written
      case h_2 dash => exact absurd dash notDash
      case h_3 => rw [splitOn_text held, mapM_readPart?_labels, Option.map_some, ofModifiers_sided]

end Mods

end EscapeKey
