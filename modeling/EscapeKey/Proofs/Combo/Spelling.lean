import EscapeKey.Combo.Spelling
import EscapeKey.Proofs.Except
import EscapeKey.Proofs.Key.Names

/-! What is read from the spelling of a combo or of a list of modifiers: the key is named, and the
modifiers come without repetitions and are none only if none are spelled.
-/

namespace EscapeKey.Combo

/-- A list without repetitions has none to drop, by induction on it. -/
theorem eraseDups_of_nodup {α : Type} [BEq α] [LawfulBEq α] {l : List α} (nodup : l.Nodup)
    : l.eraseDups = l := by
  induction l with
  | nil => rfl
  | cons a rest ih =>
      obtain ⟨absent, later⟩ := List.nodup_cons.mp nodup
      have others : rest.filter (fun b => !b == a) = rest := by
        rw [List.filter_eq_self]
        intro b member
        simpa using ne_of_mem_of_not_mem member absent
      rw [List.eraseDups_cons, others, ih later]

/-- Repetitions may be dropped before a combo is made, which drops them anyway. -/
theorem ofList_eraseDups (modifiers : List Modifier) (k : Key)
    : ofList modifiers.eraseDups k = ofList modifiers k := by
  simp only [ofList, eraseDups_of_nodup (nodup_eraseDups modifiers)]

theorem ofList_modifiers (c : Combo) : ofList c.modifiers c.key = c := by
  simp only [ofList, eraseDups_of_nodup c.nodup]

theorem readModifier_error? (piece : List Char)
    : (readModifier piece).error?
      = if (Modifier.ofSpelling? (String.ofList (Text.trim piece))).isSome then none
        else some ⟨String.ofList (Text.trim piece)⟩ := by
  simp only [readModifier]
  cases Modifier.ofSpelling? (String.ofList (Text.trim piece)) <;> rfl

/-- A list of modifiers fails at the first piece that spells none. -/
theorem readModifiers_error? (pieces : List (List Char))
    : (readModifiers pieces).error?
      = pieces.findSome? (fun piece => (readModifier piece).error?) := by
  rw [readModifiers, Except.error?_map, Except.error?_mapM]

theorem parseModifiers_error? (pieces : List String)
    : (parseModifiers pieces).error?
      = pieces.findSome? (fun piece => (readModifier piece.toList).error?) := by
  rw [parseModifiers, readModifiers_error?, List.findSome?_map]
  rfl

theorem nodup_of_parseModifiers {pieces : List String} {modifiers : List Modifier}
    (read : parseModifiers pieces = .ok modifiers)
    : modifiers.Nodup := by
  obtain ⟨all, _, rfl⟩ := Except.map_eq_ok_iff.mp read
  exact nodup_eraseDups all

/-- Dropping repetitions leaves none of the modifiers out altogether. -/
theorem eq_nil_iff_of_parseModifiers {pieces : List String} {modifiers : List Modifier}
    (read : parseModifiers pieces = .ok modifiers)
    : modifiers = [] ↔ pieces = [] := by
  obtain ⟨all, each, rfl⟩ := Except.map_eq_ok_iff.mp read
  have lengths := (Except.forall₂_of_mapM_eq_ok each).length_eq
  rw [List.length_map] at lengths
  have same : all.eraseDups = [] ↔ all = [] := by
    simp only [List.eq_nil_iff_forall_not_mem, List.mem_eraseDups]
  rw [same, ← List.length_eq_zero_iff, ← List.length_eq_zero_iff, lengths]

theorem named_of_readKey {piece : List Char} {k : Key} (read : readKey piece = .ok k)
    : k.Named := by
  rw [readKey] at read
  split at read
  case h_1 other found =>
    obtain rfl := Except.ok.inj read
    exact Key.named_of_read? found
  case h_2 => contradiction

/-- The key of a combo that is read has a name. -/
theorem named_of_parse {s : String} {c : Combo} (read : parse s = .ok c) : c.key.Named := by
  rw [parse, Combo.read] at read
  split at read
  · contradiction
  split at read
  · contradiction
  obtain ⟨k, key, read⟩ := Except.bind_eq_ok_iff.mp read
  obtain ⟨modifiers, _, same⟩ := Except.bind_eq_ok_iff.mp read
  obtain rfl := Except.ok.inj same
  exact named_of_readKey key

end EscapeKey.Combo
