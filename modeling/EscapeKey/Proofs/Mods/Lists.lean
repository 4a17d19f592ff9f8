import EscapeKey.Mods.Spelling
import EscapeKey.Proofs.Mods.Bits
import EscapeKey.Proofs.Text.Pieces

/-! Lists of modifiers as texts. What a list is read as is the union of the keys of its modifiers,
so that their order and repetitions do not matter.
-/

namespace EscapeKey.Mods

variable {s t : List Char}

/-- The pieces of the text between the signs `+` are modifiers. -/
def IsList (s : List Char) : Prop :=
  ∀ piece ∈ s.splitOn '+', (readPart? piece).isSome = true

instance (s : List Char) : Decidable (IsList s) :=
  inferInstanceAs (Decidable (∀ piece ∈ s.splitOn '+', (readPart? piece).isSome = true))

/-- The modifiers that a text lists. -/
def listed (s : List Char) : List Modifier :=
  (s.splitOn '+').filterMap readPart?

/-- The texts list modifiers, and the same ones apart from order and repetitions. -/
def ListedAlike (s t : List Char) : Prop :=
  IsList s ∧ ∀ piece, piece ∈ s.splitOn '+' ↔ piece ∈ t.splitOn '+'

instance (s t : List Char) : Decidable (ListedAlike s t) :=
  decidable_of_iff
    (IsList s
      ∧ (∀ piece ∈ s.splitOn '+', piece ∈ t.splitOn '+')
      ∧ ∀ piece ∈ t.splitOn '+', piece ∈ s.splitOn '+')
    (and_congr_right fun _ =>
      ⟨fun both piece => ⟨both.1 piece, both.2 piece⟩,
        fun same => ⟨fun piece => (same piece).mp, fun piece => (same piece).mpr⟩⟩)

theorem ListedAlike.isList (alike : ListedAlike s t) : IsList t :=
  fun piece member => alike.1 piece ((alike.2 piece).mpr member)

theorem ListedAlike.mem_listed_iff (alike : ListedAlike s t) (m : Modifier)
    : m ∈ listed s ↔ m ∈ listed t := by
  simp only [listed, List.mem_filterMap, alike.2]

theorem readPart?_trim (piece : List Char) : readPart? (Text.trim piece) = readPart? piece := by
  have padded := Text.padded_trim piece
  rw [readPart?, readPart?, ← padded.trim_eq]

/-- Pieces that are modifiers are all read, by induction on the pieces. -/
theorem mapM_readPart?_eq {pieces : List (List Char)}
    (all : ∀ piece ∈ pieces, (readPart? piece).isSome = true)
    : pieces.mapM readPart? = some (pieces.filterMap readPart?) := by
  induction pieces with
  | nil => rfl
  | cons piece rest ih =>
      obtain ⟨first, later⟩ := List.forall_mem_cons.mp all
      obtain ⟨m, read⟩ := Option.isSome_iff_exists.mp first
      rw [List.mapM_cons, read, ih later, List.filterMap_cons_some read]
      rfl

/-- Blanks around a list do not matter, since they stand around its pieces. -/
theorem listed_trim (s : List Char) : listed (Text.trim s) = listed s := by
  have pieces (s : List Char)
      : listed s = ((s.splitOn '+').map Text.trim).filterMap readPart? := by
    simp [listed, List.filterMap_map, readPart?_trim]
  rw [pieces, pieces, Text.map_trim_splitOn_trim (by decide)]

theorem isList_trim_iff : IsList (Text.trim s) ↔ IsList s := by
  have pieces (s : List Char)
      : IsList s ↔ ∀ piece ∈ (s.splitOn '+').map Text.trim, (readPart? piece).isSome = true := by
    simp [IsList, readPart?_trim]
  rw [pieces, pieces, Text.map_trim_splitOn_trim (by decide)]

/-- A list of modifiers is read as the keys of the modifiers that it lists. -/
theorem IsList.read?_eq (list : IsList s) : read? s = some (ofModifiers (listed s)) := by
  have trimmed : IsList (Text.trim s) := isList_trim_iff.mpr list
  rw [read?]
  split
  case h_1 blank =>
    rw [blank] at trimmed
    exact absurd trimmed (by decide +kernel)
  case h_2 dash =>
    rw [dash] at trimmed
    exact absurd trimmed (by decide +kernel)
  case h_3 =>
    have read : ((Text.trim s).splitOn '+').mapM readPart? = some (listed (Text.trim s)) :=
      mapM_readPart?_eq trimmed
    rw [read, Option.map_some, listed_trim]

theorem ListedAlike.read?_eq (alike : ListedAlike s t) : read? s = read? t := by
  rw [alike.1.read?_eq, alike.isList.read?_eq, ofModifiers_congr alike.mem_listed_iff]

end EscapeKey.Mods
