import EscapeKey.Proofs.Combo.Grammar
import EscapeKey.Proofs.Combo.Spelling

/-! The language of combo texts. A text is read as a combo exactly if it spells one, and any other
text is refused for the first of four reasons: it is blank, it ends in a hyphen, its last piece
spells no key, or a piece before that spells no modifier.
-/

namespace EscapeKey.Combo

-----------------------------------------------------------------------------------------
-- Reading the pieces
-----------------------------------------------------------------------------------------

theorem readModifier_eq_ok_iff {piece : List Char} {m : Modifier}
    : readModifier piece = .ok m ↔ IsModifierPiece piece m := by
  rw [isModifierPiece_iff, ← Modifier.ofSpelling?_eq_some_iff]
  simp only [readModifier]
  cases Modifier.ofSpelling? (String.ofList (Text.trim piece)) <;> simp

/-- The modifiers of a list of pieces are those that the pieces spell, without repetitions. -/
theorem readModifiers_eq_ok_iff {pieces : List (List Char)} {modifiers : List Modifier}
    : readModifiers pieces = .ok modifiers
      ↔ ∃ ms, pieces.Forall₂ IsModifierPiece ms ∧ ms.eraseDups = modifiers := by
  constructor
  · intro succeeds
    obtain ⟨ms, read, same⟩ := Except.map_eq_ok_iff.mp succeeds
    have each := Except.forall₂_of_mapM_eq_ok read
    exact ⟨ms, each.imp fun _ _ => readModifier_eq_ok_iff.mp, same⟩
  · rintro ⟨ms, each, same⟩
    have read := Except.mapM_eq_ok_of_forall₂ (each.imp fun _ _ => readModifier_eq_ok_iff.mpr)
    exact Except.map_eq_ok_iff.mpr ⟨ms, read, same⟩

/-- A piece that spells no modifier is at fault, trimmed. -/
theorem readModifier_error?_eq_some_iff {piece : List Char} {fault : UnknownModifier}
    : (readModifier piece).error? = some fault
      ↔ (∀ m, ¬ IsModifierPiece piece m) ∧ fault = ⟨String.ofList (Text.trim piece)⟩ := by
  simp only [isModifierPiece_iff, ← Modifier.ofSpelling?_eq_some_iff, readModifier_error?]
  cases Modifier.ofSpelling? (String.ofList (Text.trim piece)) <;> simp [eq_comm]

/-- Of the pieces that spell no modifier the first one is at fault. -/
theorem readModifiers_eq_error_iff {pieces : List (List Char)} {fault : UnknownModifier}
    : readModifiers pieces = .error fault
      ↔ ∃ good bad rest,
        pieces = good ++ bad :: rest
        ∧ (∀ piece ∈ good, ∃ m, IsModifierPiece piece m)
        ∧ (∀ m, ¬ IsModifierPiece bad m)
        ∧ fault = ⟨String.ofList (Text.trim bad)⟩ := by
  rw [← Except.error?_eq_some_iff, readModifiers_error?, List.findSome?_eq_some_iff]
  simp only [readModifier_error?_eq_some_iff, Except.error?_eq_none_iff, readModifier_eq_ok_iff]
  constructor
  · rintro ⟨good, bad, rest, same, ⟨unknown, faulty⟩, known⟩
    exact ⟨good, bad, rest, same, known, unknown, faulty⟩
  · rintro ⟨good, bad, rest, same, known, unknown, faulty⟩
    exact ⟨good, bad, rest, same, ⟨unknown, faulty⟩, known⟩

theorem readKey_eq_ok_iff {piece : List Char} {k : Key}
    : readKey piece = .ok k ↔ IsKeyPiece piece k := by
  rw [isKeyPiece_iff, ← Key.read?_eq_some_iff, readKey]
  cases Key.read? piece <;> simp

/-- A piece that spells no key is at fault, with the blanks around it. -/
theorem readKey_eq_error_iff {piece : List Char} {e : SpellingError}
    : readKey piece = .error e
      ↔ (∀ k, ¬ IsKeyPiece piece k) ∧ e = .unknownKey (String.ofList piece) := by
  simp only [isKeyPiece_iff, ← Key.read?_eq_some_iff, readKey]
  cases Key.read? piece <;> simp [eq_comm]

-----------------------------------------------------------------------------------------
-- Reading a text
-----------------------------------------------------------------------------------------

theorem read_of_blank {s : List Char} (blank : Text.AllBlank s) : read s = .error .empty := by
  simp only [read]
  rw [if_pos (Text.isEmpty_trim_iff.mpr blank)]

theorem read_of_ends {s : List Char} (filled : ¬ Text.AllBlank s) (ends : ['-'] <:+ Text.trim s)
    : read s = .error .trailingHyphen := by
  simp only [read]
  rw [if_neg (mt Text.isEmpty_trim_iff.mp filled),
    if_pos (List.singleton_suffix_iff_getLast?_eq_some.mp ends)]

/-- A text that is not refused at once is read in the pieces that it has when trimmed. -/
theorem read_of_pieces {s : List Char} (filled : ¬ Text.AllBlank s)
    (closed : ¬ ['-'] <:+ Text.trim s) {front : List (List Char)} {last : List Char}
    (pieces : Text.IsJoined '-' (front ++ [last]) (Text.trim s))
    : read s
      = do
        let key ← readKey last
        let modifiers ← (readModifiers front).mapError .unknownModifier
        return .ofList modifiers key := by
  simp only [read]
  rw [if_neg (mt Text.isEmpty_trim_iff.mp filled),
    if_neg (mt List.singleton_suffix_iff_getLast?_eq_some.mpr closed), pieces.splitOn_eq,
    List.getLast?_concat, List.dropLast_concat]
  rfl

/-- A trimmed text spells what its pieces do. -/
theorem spells_iff_of_pieces {s : List Char} {front : List (List Char)} {last : List Char}
    (pieces : Text.IsJoined '-' (front ++ [last]) (Text.trim s)) {ms : List Modifier} {k : Key}
    : Spells s ms k ↔ front.Forall₂ IsModifierPiece ms ∧ IsKeyPiece last k := by
  rw [← spells_trim, spells_iff, pieces.splitOn_eq, List.map_append, List.map_singleton]
  constructor
  · rintro ⟨_, _, same, each, key⟩
    obtain ⟨rfl, lasts⟩ := List.append_inj' same rfl
    obtain rfl := List.singleton_inj.mp lasts
    have each := List.forall₂_map_left_iff.mp each
    exact ⟨each.imp fun _ _ => isModifierPiece_iff.mpr, isKeyPiece_iff.mpr key⟩
  · rintro ⟨each, key⟩
    refine ⟨_, _, rfl, List.forall₂_map_left_iff.mpr ?_, isKeyPiece_iff.mp key⟩
    exact each.imp fun _ _ => isModifierPiece_iff.mp

/-- A text whose last piece spells a key is neither blank nor does it end in a hyphen, since that
piece would be empty.
-/
theorem IsKeyPiece.filled {s : List Char} {front : List (List Char)} {last : List Char}
    {k : Key} (key : IsKeyPiece last k)
    (pieces : Text.IsJoined '-' (front ++ [last]) (Text.trim s))
    : ¬ Text.AllBlank s ∧ ¬ ['-'] <:+ Text.trim s := by
  have spelt : last ≠ [] := by
    rintro rfl
    exact (isKeyPiece_iff.mp key).plain.1 rfl
  constructor
  · intro blank
    have split := pieces.splitOn_eq
    rw [Text.trim_eq_nil_iff.mpr blank, List.splitOn_nil] at split
    have same := congrArg List.getLast? split
    rw [List.getLast?_concat] at same
    exact spelt (Option.some.inj same).symm
  · exact fun ends => spelt (pieces.last_eq_nil ends)

-----------------------------------------------------------------------------------------
-- Combos and refusals
-----------------------------------------------------------------------------------------

/-- What a text spells is read, with repetitions dropped. -/
theorem Spells.read_eq {s : List Char} {ms : List Modifier} {k : Key} (spells : Spells s ms k)
    : read s = .ok (.ofList ms k) := by
  obtain ⟨front, last, pieces⟩ := Text.exists_isJoined '-' (Text.trim s)
  obtain ⟨each, key⟩ := (spells_iff_of_pieces pieces).mp spells
  obtain ⟨filled, closed⟩ := key.filled pieces
  rw [read_of_pieces filled closed pieces, readKey_eq_ok_iff.mpr key,
    readModifiers_eq_ok_iff.mpr ⟨ms, each, rfl⟩]
  exact congrArg Except.ok (ofList_eraseDups ms k)

/-- The text is refused for a reason, which is the first one of the four that applies. -/
inductive Refuses (s : List Char) : SpellingError → Prop where
  | empty (blank : Text.AllBlank s) : Refuses s .empty
  | trailingHyphen (filled : ¬ Text.AllBlank s) (ends : ['-'] <:+ Text.trim s)
    : Refuses s .trailingHyphen
  | unknownKey {front last} (filled : ¬ Text.AllBlank s) (closed : ¬ ['-'] <:+ Text.trim s)
    (pieces : Text.IsJoined '-' (front ++ [last]) (Text.trim s))
    (unknown : ∀ k, ¬ IsKeyPiece last k)
    : Refuses s (.unknownKey (String.ofList last))
  | unknownModifier {good bad rest last k} (filled : ¬ Text.AllBlank s)
    (closed : ¬ ['-'] <:+ Text.trim s)
    (pieces : Text.IsJoined '-' (good ++ bad :: rest ++ [last]) (Text.trim s))
    (key : IsKeyPiece last k) (known : ∀ piece ∈ good, ∃ m, IsModifierPiece piece m)
    (unknown : ∀ m, ¬ IsModifierPiece bad m)
    : Refuses s (.unknownModifier ⟨String.ofList (Text.trim bad)⟩)

theorem Refuses.read_eq {s : List Char} {e : SpellingError} (refuses : Refuses s e)
    : read s = .error e := by
  cases refuses with
  | empty blank => exact read_of_blank blank
  | trailingHyphen filled ends => exact read_of_ends filled ends
  | unknownKey filled closed pieces unknown =>
      rw [read_of_pieces filled closed pieces, readKey_eq_error_iff.mpr ⟨unknown, rfl⟩]
      rfl
  | unknownModifier filled closed pieces key known unknown =>
      rw [read_of_pieces filled closed pieces, readKey_eq_ok_iff.mpr key,
        readModifiers_eq_error_iff.mpr ⟨_, _, _, rfl, known, unknown, rfl⟩]
      rfl

/-- Every text spells a combo or is refused, by the way it is read. -/
theorem spells_or_refuses (s : List Char) : (∃ ms k, Spells s ms k) ∨ ∃ e, Refuses s e := by
  by_cases blank : Text.AllBlank s
  · exact .inr ⟨_, .empty blank⟩
  by_cases ends : ['-'] <:+ Text.trim s
  · exact .inr ⟨_, .trailingHyphen blank ends⟩
  obtain ⟨front, last, pieces⟩ := Text.exists_isJoined '-' (Text.trim s)
  cases key : readKey last with
  | error e => exact .inr ⟨_, .unknownKey blank ends pieces (readKey_eq_error_iff.mp key).1⟩
  | ok k =>
      have key := readKey_eq_ok_iff.mp key
      cases listed : readModifiers front with
      | error fault =>
          obtain ⟨good, bad, rest, rfl, known, unknown, _⟩ := readModifiers_eq_error_iff.mp listed
          exact .inr ⟨_, .unknownModifier blank ends pieces key known unknown⟩
      | ok modifiers =>
          obtain ⟨ms, each, _⟩ := readModifiers_eq_ok_iff.mp listed
          exact .inl ⟨ms, k, (spells_iff_of_pieces pieces).mpr ⟨each, key⟩⟩

/-- A text is read as a combo exactly if it spells one. -/
theorem read_eq_ok_iff {s : List Char} {c : Combo}
    : read s = .ok c ↔ ∃ ms k, Spells s ms k ∧ c = .ofList ms k := by
  constructor
  · intro succeeds
    rcases spells_or_refuses s with ⟨ms, k, spells⟩ | ⟨e, refuses⟩
    · exact ⟨ms, k, spells, Except.ok.inj (succeeds.symm.trans spells.read_eq)⟩
    · exact absurd (succeeds.symm.trans refuses.read_eq) nofun
  · rintro ⟨ms, k, spells, rfl⟩
    exact spells.read_eq

theorem read_eq_error_iff {s : List Char} {e : SpellingError}
    : read s = .error e ↔ Refuses s e := by
  refine ⟨fun fails => ?_, Refuses.read_eq⟩
  rcases spells_or_refuses s with ⟨ms, k, spells⟩ | ⟨e', refuses⟩
  · exact absurd (fails.symm.trans spells.read_eq) nofun
  · exact Except.error.inj (fails.symm.trans refuses.read_eq) ▸ refuses

example : read "Shft-Escp".toList = .error (.unknownKey "Escp") := by decide +kernel

-----------------------------------------------------------------------------------------
-- The four reasons
-----------------------------------------------------------------------------------------

theorem refuses_empty_iff {s : List Char} : Refuses s .empty ↔ Text.AllBlank s :=
  ⟨fun | .empty blank => blank, .empty⟩

theorem refuses_trailingHyphen_iff {s : List Char}
    : Refuses s .trailingHyphen ↔ ¬ Text.AllBlank s ∧ ['-'] <:+ Text.trim s := by
  constructor
  · rintro (_ | ⟨filled, ends⟩)
    exact ⟨filled, ends⟩
  · rintro ⟨filled, ends⟩
    exact .trailingHyphen filled ends

theorem refuses_unknownKey_iff {s : List Char} {piece : String}
    : Refuses s (.unknownKey piece)
      ↔ ¬ Text.AllBlank s
        ∧ ¬ ['-'] <:+ Text.trim s
        ∧ ∃ front last,
          Text.IsJoined '-' (front ++ [last]) (Text.trim s)
          ∧ (∀ k, ¬ IsKeyPiece last k)
          ∧ piece = String.ofList last := by
  constructor
  · rintro (_ | _ | ⟨filled, closed, pieces, unknown⟩)
    exact ⟨filled, closed, _, _, pieces, unknown, rfl⟩
  · rintro ⟨filled, closed, _, _, pieces, unknown, rfl⟩
    exact .unknownKey filled closed pieces unknown

theorem refuses_unknownModifier_iff {s : List Char} {fault : UnknownModifier}
    : Refuses s (.unknownModifier fault)
      ↔ ¬ Text.AllBlank s
        ∧ ¬ ['-'] <:+ Text.trim s
        ∧ ∃ good bad rest last,
          Text.IsJoined '-' (good ++ bad :: rest ++ [last]) (Text.trim s)
          ∧ (∃ k, IsKeyPiece last k)
          ∧ (∀ piece ∈ good, ∃ m, IsModifierPiece piece m)
          ∧ (∀ m, ¬ IsModifierPiece bad m)
          ∧ fault = ⟨String.ofList (Text.trim bad)⟩ := by
  constructor
  · rintro (_ | _ | _ | ⟨filled, closed, pieces, key, known, unknown⟩)
    exact ⟨filled, closed, _, _, _, _, pieces, ⟨_, key⟩, known, unknown, rfl⟩
  · rintro ⟨filled, closed, _, _, _, _, pieces, ⟨_, key⟩, known, unknown, rfl⟩
    exact .unknownModifier filled closed pieces key known unknown

/-- The texts that parse are those that spell a combo, and they parse as the combo that they spell,
so that spelling it in another way changes nothing. Other texts are refused as blank, or else for
a hyphen at the end, or else for a last piece that spells no key, or else for the first of the
other pieces that spells no modifier.
-/
theorem parse_language (s : String)
    : (∀ c, parse s = .ok c ↔ ∃ ms k, Spells s.toList ms k ∧ c = .ofList ms k)
      ∧ (∀ t ms ns k, Spells s.toList ms k → Spells t.toList ns k
        → ms.eraseDups = ns.eraseDups → parse s = parse t)
      ∧ (parse s = .error .empty ↔ Text.AllBlank s.toList)
      ∧ (parse s = .error .trailingHyphen
        ↔ ¬ Text.AllBlank s.toList ∧ ['-'] <:+ Text.trim s.toList)
      ∧ (∀ piece, parse s = .error (.unknownKey piece)
        ↔ ¬ Text.AllBlank s.toList
          ∧ ¬ ['-'] <:+ Text.trim s.toList
          ∧ ∃ front last,
            Text.IsJoined '-' (front ++ [last]) (Text.trim s.toList)
            ∧ (∀ k, ¬ IsKeyPiece last k)
            ∧ piece = String.ofList last)
      ∧ (∀ fault, parse s = .error (.unknownModifier fault)
        ↔ ¬ Text.AllBlank s.toList
          ∧ ¬ ['-'] <:+ Text.trim s.toList
          ∧ ∃ good bad rest last,
            Text.IsJoined '-' (good ++ bad :: rest ++ [last]) (Text.trim s.toList)
            ∧ (∃ k, IsKeyPiece last k)
            ∧ (∀ piece ∈ good, ∃ m, IsModifierPiece piece m)
            ∧ (∀ m, ¬ IsModifierPiece bad m)
            ∧ fault = ⟨String.ofList (Text.trim bad)⟩) := by
  refine ⟨fun c => read_eq_ok_iff, ?_, read_eq_error_iff.trans refuses_empty_iff,
    read_eq_error_iff.trans refuses_trailingHyphen_iff,
    fun piece => read_eq_error_iff.trans refuses_unknownKey_iff,
    fun fault => read_eq_error_iff.trans refuses_unknownModifier_iff⟩
  intro t ms ns k spells respelt same
  calc parse s
    _ = .ok (.ofList ms k) := spells.read_eq
    _ = .ok (.ofList ns k) := by rw [← ofList_eraseDups, same, ofList_eraseDups]
    _ = parse t := respelt.read_eq.symm

/-- A modifier is spelt by its label and once more by an alias, and the key in small letters with
blanks around it; the combo is the one that the name of the modifier and another name of the key
spell.
-/
theorem parse_language_respelt
    : let shift := Modifier.generic .shift
      let spelt := " Shift-S\t- esc "
      let plain := "SHIFT-ESCAPE"
      Spells spelt.toList [shift, shift] .esc
      ∧ Spells plain.toList [shift] .esc
      ∧ [shift, shift].eraseDups = [shift].eraseDups
      ∧ parse spelt = parse plain
      ∧ parse spelt = .ok (.ofList [shift] .esc) := by
  intro shift spelt plain
  have label : IsModifierPiece " Shift".toList shift :=
    readModifier_eq_ok_iff.mp (by decide +kernel)
  have short : IsModifierPiece "S\t".toList shift := readModifier_eq_ok_iff.mp (by decide +kernel)
  have name : IsModifierPiece "SHIFT".toList shift := readModifier_eq_ok_iff.mp (by decide +kernel)
  have small : IsKeyPiece " esc ".toList .esc := readKey_eq_ok_iff.mp (by decide +kernel)
  have capital : IsKeyPiece "ESCAPE".toList .esc := readKey_eq_ok_iff.mp (by decide +kernel)
  have first : Spells spelt.toList [shift, shift] .esc := by
    simpa [spelt] using Spells.modifier label (.modifier short (.key small))
  have second : Spells plain.toList [shift] .esc := by
    simpa [plain] using Spells.modifier name (.key capital)
  obtain ⟨accepts, respells, _⟩ := parse_language spelt
  exact ⟨first, second, by decide, respells plain _ _ _ first second (by decide),
    (accepts _).mpr ⟨_, _, first, by decide⟩⟩

end EscapeKey.Combo
