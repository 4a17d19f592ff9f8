import EscapeKey.Proofs.Combo.Language
import EscapeKey.Proofs.Mods.Labels

/-! Combos read back from their texts. The text of a combo spells its modifiers one by one and then
its key, so that it reads as that very combo, and no other combo has the same text.
-/

namespace EscapeKey.Combo

theorem isModifierPiece_label (m : Modifier) : IsModifierPiece m.label.toList m := by
  rw [isModifierPiece_iff, m.label_plain.1.trim_eq, ← Modifier.ofSpelling?_eq_some_iff,
    String.ofList_toList, m.ofSpelling?_label]

theorem isKeyPiece_name {k : Key} (named : k.Named) : IsKeyPiece k.name.toList k :=
  isKeyPiece_iff.mpr (Key.read?_eq_some_iff.mp named.read?_name)

/-- Labels joined by hyphens, with a name of a key at the end, spell just what they label, by
induction on the modifiers.
-/
theorem spells_labels (ms : List Modifier) {k : Key} (named : k.Named)
    : Spells (['-'].intercalate (ms.map (·.label.toList) ++ [k.name.toList])) ms k := by
  induction ms with
  | nil =>
      rw [List.map_nil, List.nil_append, List.intercalate_singleton]
      exact .key (isKeyPiece_name named)
  | cons m rest ih =>
      rw [List.map_cons, List.cons_append, List.intercalate_cons_of_ne_nil (by simp),
        List.append_assoc]
      exact .modifier (isModifierPiece_label m) ih

theorem toList_text (c : Combo)
    : c.text.toList
      = ['-'].intercalate (c.modifiers.map (·.label.toList) ++ [c.key.name.toList]) := by
  rw [text, String.toList_intercalate, List.map_append, List.map_map]
  rfl

theorem spells_text {c : Combo} (named : c.key.Named)
    : Spells c.text.toList c.modifiers c.key := by
  rw [toList_text]
  exact spells_labels c.modifiers named

/-- A combo with a named key reads back from its text, with its modifiers in their order. -/
theorem read_text {c : Combo} (named : c.key.Named) : read c.text.toList = .ok c := by
  rw [(spells_text named).read_eq, ofList_modifiers]

theorem eq_of_text_eq {c d : Combo} (namedLeft : c.key.Named) (namedRight : d.key.Named)
    (same : c.text = d.text)
    : c = d := by
  have left := read_text namedLeft
  rw [same, read_text namedRight] at left
  exact (Except.ok.inj left).symm

/-- A combo of any modifiers and a named key reads back from its text, and so no two such combos
that differ in the list of their modifiers or in their key share a text. Whatever text a combo is
read from, writing it and reading it again changes nothing, since only named keys are read.
-/
theorem text_reads_back
    : (∀ ms k, k.Named → parse (ofList ms k).text = .ok (ofList ms k))
      ∧ (∀ ms ns k l, k.Named → l.Named → (ofList ms k).text = (ofList ns l).text
        → (ofList ms k).modifiers = (ofList ns l).modifiers ∧ k = l)
      ∧ ∀ s c, parse s = .ok c → parse c.text = .ok c := by
  refine ⟨fun ms k named => read_text named, ?_, fun s c spelt => read_text (named_of_parse spelt)⟩
  intro ms ns k l namedLeft namedRight same
  have alike : ofList ms k = ofList ns l := eq_of_text_eq namedLeft namedRight same
  exact ⟨congrArg modifiers alike, congrArg key alike⟩

/-- Modifiers on either side and on one side are kept apart, though the latter add nothing to the
keys that are covered; the key is written by the first of its names, whichever it is read from.
-/
theorem text_reads_back_renamed
    : let control := Modifier.generic .control
      let left : Modifier := ⟨.control, .left⟩
      let c := ofList [control, left, control] .grave
      let d := ofList [control, left] .grave
      c.text = "Ctrl-LCtrl-GRAVE"
      ∧ parse c.text = .ok c
      ∧ c.modifiers = [control, left]
      ∧ c.modifiers = d.modifiers
      ∧ parse "C - LC - backtick" = .ok c
      ∧ parse c.text = parse "C - LC - backtick" := by
  intro control left c d
  have named : Key.grave.Named := by decide
  obtain ⟨written, alone, again⟩ := text_reads_back
  have spelt : parse "C - LC - backtick" = .ok c := by decide +kernel
  have same := alone [control, left, control] [control, left] .grave .grave named named (by decide)
  exact ⟨by decide, written _ _ named, by decide, same.1, spelt,
    (again _ _ spelt).trans spelt.symm⟩

end EscapeKey.Combo
