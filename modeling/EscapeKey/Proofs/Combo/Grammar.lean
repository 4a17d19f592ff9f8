import EscapeKey.Combo.Spelling
import EscapeKey.Proofs.Key.Spellings
import EscapeKey.Proofs.Text.Pieces

/-! The grammar of combo texts. A text spells a combo by spellings of modifiers and then one of a
key, joined by hyphens and with blanks around them. No spelling has a hyphen or a blank in it, so
that what a text spells can be told from its pieces.
-/

namespace EscapeKey

-----------------------------------------------------------------------------------------
-- Spellings of modifiers
-----------------------------------------------------------------------------------------

namespace Modifier

/-- A text spells a modifier by its canonical name or an alias, in exactly this case. -/
def IsSpelling (m : Modifier) (s : List Char) : Prop :=
  String.ofList s = m.name ∨ String.ofList s ∈ m.aliases

theorem mem_all (m : Modifier) : m ∈ all := by
  obtain ⟨kind, side⟩ := m
  cases kind <;> cases side <;> decide

/-- Spellings of modifiers are words without hyphens, and none spells two modifiers. -/
theorem spellings_plain
    : ∀ m ∈ all, ∀ s ∈ m.name :: m.aliases,
        Text.IsWord s.toList ∧ '-' ∉ s.toList ∧ ofSpelling? s = some m := by
  decide +kernel

theorem IsSpelling.plain {m : Modifier} {s : List Char} (spelt : m.IsSpelling s)
    : Text.IsWord s ∧ '-' ∉ s ∧ ofSpelling? (String.ofList s) = some m := by
  have listed : String.ofList s ∈ m.name :: m.aliases := List.mem_cons.mpr spelt
  simpa only [String.toList_ofList] using spellings_plain m m.mem_all _ listed

theorem ofSpelling?_eq_some_iff {m : Modifier} {s : List Char}
    : ofSpelling? (String.ofList s) = some m ↔ m.IsSpelling s := by
  refine ⟨fun found => ?_, fun spelt => spelt.plain.2.2⟩
  rw [ofSpelling?, ofName?, Option.orElse_eq_orElse, Option.orElse_eq_or,
    Option.or_eq_some_iff] at found
  rcases found with named | ⟨_, aliased⟩
  · have same : m.name = String.ofList s := by simpa using List.find?_some named
    exact .inl same.symm
  · exact .inr (by simpa using List.find?_some aliased)

end Modifier

namespace Combo

-----------------------------------------------------------------------------------------
-- The grammar
-----------------------------------------------------------------------------------------

/-- The piece of a text is a spelling of the modifier with blanks around it. -/
def IsModifierPiece (piece : List Char) (m : Modifier) : Prop :=
  ∃ spelling, m.IsSpelling spelling ∧ Text.Padded spelling piece

/-- The piece of a text is a spelling of the key with blanks around it. -/
def IsKeyPiece (piece : List Char) (k : Key) : Prop :=
  ∃ spelling, k.IsSpelling spelling ∧ Text.Padded spelling piece

/-- The text spells the modifiers, as often as they are listed, and then the key, with a hyphen
behind each of the modifiers.
-/
inductive Spells : List Char → List Modifier → Key → Prop where
  | key {piece k} (key : IsKeyPiece piece k) : Spells piece [] k
  | modifier {piece rest m ms k} (modifier : IsModifierPiece piece m)
    (later : Spells rest ms k)
    : Spells (piece ++ '-' :: rest) (m :: ms) k

/-- Trimming leaves just the spelling, which has no blanks. -/
theorem isModifierPiece_iff {piece : List Char} {m : Modifier}
    : IsModifierPiece piece m ↔ m.IsSpelling (Text.trim piece) := by
  constructor
  · rintro ⟨spelling, spelt, padded⟩
    rwa [padded.trim_eq, spelt.plain.1.trim_eq]
  · exact fun spelt => ⟨_, spelt, Text.padded_trim piece⟩

theorem isKeyPiece_iff {piece : List Char} {k : Key}
    : IsKeyPiece piece k ↔ k.IsSpelling (Text.trim piece) := by
  constructor
  · rintro ⟨spelling, spelt, padded⟩
    rwa [padded.trim_eq, Text.trim_of_forall_not_blank spelt.plain.2.1]
  · exact fun spelt => ⟨_, spelt, Text.padded_trim piece⟩

/-- Blanks around a text without hyphens add none. -/
theorem hyphen_not_mem_of_padded {spelling piece : List Char} (plain : '-' ∉ spelling)
    (padded : Text.Padded spelling piece)
    : '-' ∉ piece := by
  obtain ⟨before, after, blankBefore, blankAfter, rfl⟩ := padded
  have solid : Text.isBlank '-' = false := by decide
  simp [plain, blankBefore.not_mem solid, blankAfter.not_mem solid]

theorem IsModifierPiece.whole {piece : List Char} {m : Modifier}
    (modifier : IsModifierPiece piece m)
    : '-' ∉ piece := by
  obtain ⟨_, spelt, padded⟩ := modifier
  exact hyphen_not_mem_of_padded spelt.plain.2.1 padded

theorem IsKeyPiece.whole {piece : List Char} {k : Key} (key : IsKeyPiece piece k)
    : '-' ∉ piece := by
  obtain ⟨_, spelt, padded⟩ := key
  exact hyphen_not_mem_of_padded spelt.plain.2.2 padded

/-- What a text spells can be told from its pieces, up to the blanks around them.
Witness: induction on the grammar and, to go back, on the pieces.
-/
theorem spells_iff {s : List Char} {ms : List Modifier} {k : Key}
    : Spells s ms k
      ↔ ∃ front last,
        (s.splitOn '-').map Text.trim = front ++ [last]
        ∧ front.Forall₂ (fun spelling m => m.IsSpelling spelling) ms
        ∧ k.IsSpelling last := by
  constructor
  · intro spells
    induction spells with
    | key key =>
        refine ⟨[], _, ?_, .nil, isKeyPiece_iff.mp key⟩
        rw [List.splitOn_eq_singleton key.whole]
        rfl
    | modifier modifier _ ih =>
        obtain ⟨front, last, split, each, key⟩ := ih
        refine ⟨_ :: front, last, ?_, .cons (isModifierPiece_iff.mp modifier) each, key⟩
        rw [List.splitOn_append_cons_self_of_not_mem modifier.whole, List.map_cons, split]
        rfl
  · rintro ⟨front, last, split, each, key⟩
    induction s using Text.pieces_induction '-' generalizing front ms with
    | last piece whole =>
        rw [List.splitOn_eq_singleton whole, List.map_singleton] at split
        obtain ⟨rfl, same⟩ | ⟨_, none⟩ := List.singleton_eq_append_iff.mp split
        · cases each
          obtain rfl := List.singleton_inj.mp same
          exact .key (isKeyPiece_iff.mpr key)
        · contradiction
    | more piece rest whole ih =>
        rw [List.splitOn_append_cons_self_of_not_mem whole, List.map_cons] at split
        rcases List.cons_eq_append_iff.mp split with ⟨_, single⟩ | ⟨later, rfl, tail⟩
        · have none := (List.cons.inj single).2
          exact absurd (List.map_eq_nil_iff.mp none.symm) (List.splitOn_ne_nil _ _)
        · cases each with
          | cons first each =>
              exact .modifier (isModifierPiece_iff.mpr first) (ih later tail each)

/-- Blanks around a text do not matter. -/
theorem spells_trim {s : List Char} {ms : List Modifier} {k : Key}
    : Spells (Text.trim s) ms k ↔ Spells s ms k := by
  rw [spells_iff, spells_iff, Text.map_trim_splitOn_trim (by decide)]

end Combo

end EscapeKey
