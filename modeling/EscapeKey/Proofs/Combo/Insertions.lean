import EscapeKey.Proofs.Combo.Language
import EscapeKey.Proofs.Mods.Bits

/-! Combos built modifier by modifier. Inserting the modifiers of a list one after the other gives
the combo of the whole list, with each modifier at its first place, and reading them from texts
piece by piece gives the combo of the list that is read.
-/

namespace EscapeKey.Combo

variable {ms firsts others : List Modifier} {m : Modifier}

-----------------------------------------------------------------------------------------
-- Modifiers at their first places
-----------------------------------------------------------------------------------------

/-- The list has just the modifiers of `ms`, in the order of their first places there. So it has no
repetitions, since no modifier comes before itself.
-/
structure ListsFirsts (ms firsts : List Modifier) : Prop where
  mem_iff : ∀ m, m ∈ firsts ↔ m ∈ ms
  ordered : firsts.Pairwise fun a b => ms.idxOf a < ms.idxOf b

theorem ListsFirsts.nodup (lists : ListsFirsts ms firsts) : firsts.Nodup := by
  refine lists.ordered.imp fun {a b} before same => ?_
  subst same
  exact Nat.lt_irrefl _ before

/-- There is one such list, since two lists of the same modifiers in the same order are equal. -/
theorem ListsFirsts.unique (lists : ListsFirsts ms firsts) (also : ListsFirsts ms others)
    : firsts = others := by
  have same : firsts.Perm others :=
    (List.perm_ext_iff_of_nodup lists.nodup also.nodup).mpr fun m =>
      (lists.mem_iff m).trans (also.mem_iff m).symm
  exact same.eq_of_pairwise (fun _ _ _ _ before after => absurd before (Nat.lt_asymm after))
    lists.ordered also.ordered

/-- Modifiers that are listed keep their places when another one is listed behind them. -/
theorem ListsFirsts.ordered_concat (lists : ListsFirsts ms firsts) (m : Modifier)
    : firsts.Pairwise fun a b => (ms ++ [m]).idxOf a < (ms ++ [m]).idxOf b := by
  refine lists.ordered.imp_of_mem fun {a b} first second before => ?_
  rwa [List.idxOf_append_of_mem ((lists.mem_iff a).mp first),
    List.idxOf_append_of_mem ((lists.mem_iff b).mp second)]

/-- A repetition has no place of its own. -/
theorem ListsFirsts.again (lists : ListsFirsts ms firsts) (listed : m ∈ ms)
    : ListsFirsts (ms ++ [m]) firsts := by
  refine ⟨fun other => ?_, lists.ordered_concat m⟩
  rw [lists.mem_iff, List.mem_append, List.mem_singleton]
  refine ⟨.inl, ?_⟩
  rintro (old | rfl)
  · exact old
  · exact listed

/-- A modifier that is listed for the first time has its place behind all the others. -/
theorem ListsFirsts.new (lists : ListsFirsts ms firsts) (absent : m ∉ ms)
    : ListsFirsts (ms ++ [m]) (firsts ++ [m]) := by
  refine ⟨fun other => ?_, ?_⟩
  · rw [List.mem_append, List.mem_append, lists.mem_iff]
  · refine List.pairwise_append.mpr
      ⟨lists.ordered_concat m, List.pairwise_singleton _ _, fun a old b last => ?_⟩
    obtain rfl := List.mem_singleton.mp last
    have listed := (lists.mem_iff a).mp old
    rw [List.idxOf_append_of_mem listed, List.idxOf_append_of_notMem absent]
    exact Nat.lt_add_right _ (List.idxOf_lt_length_of_mem listed)

/-- Where repetitions are dropped, the last item goes too if it has occurred before. -/
theorem eraseDups_concat {α : Type} [BEq α] [LawfulBEq α] (l : List α) (a : α)
    : (l ++ [a]).eraseDups = if a ∈ l then l.eraseDups else l.eraseDups ++ [a] := by
  rw [List.eraseDups_append, List.removeAll]
  by_cases occurs : a ∈ l <;> simp [occurs, List.eraseDups_cons]

/-- Dropping repetitions keeps the first places, by induction on the list from its end. -/
theorem listsFirsts_eraseDups (ms : List Modifier) : ListsFirsts ms ms.eraseDups := by
  induction ms using List.reverseRecOn with
  | nil => exact ⟨fun _ => Iff.rfl, .nil⟩
  | append_singleton earlier m ih =>
      rw [eraseDups_concat]
      split
      case isTrue listed => exact ih.again listed
      case isFalse absent => exact ih.new absent

theorem listsFirsts_iff : ListsFirsts ms firsts ↔ firsts = ms.eraseDups := by
  constructor
  · exact fun lists => lists.unique (listsFirsts_eraseDups ms)
  · rintro rfl
    exact listsFirsts_eraseDups ms

-----------------------------------------------------------------------------------------
-- Insertions
-----------------------------------------------------------------------------------------

/-- A modifier is inserted behind the others unless it is among them. -/
theorem modifiers_insert (c : Combo) (m : Modifier)
    : (c.insert m).modifiers = if m ∈ c.modifiers then c.modifiers else c.modifiers ++ [m] := by
  simp only [insert, ofList, eraseDups_concat, eraseDups_of_nodup c.nodup]

/-- Inserting a modifier into the combo of a list lengthens the list, whether or not it repeats one:
what the combo has dropped from the list is among its modifiers.
-/
theorem insert_ofList (ms : List Modifier) (k : Key) (m : Modifier)
    : (ofList ms k).insert m = ofList (ms ++ [m]) k := by
  have same : (ms.eraseDups ++ [m]).eraseDups = (ms ++ [m]).eraseDups := by
    simp only [eraseDups_concat, eraseDups_of_nodup (nodup_eraseDups ms), List.mem_eraseDups]
  simp only [insert, ofList, same]

/-- So does inserting several, by induction on them for every list that they lengthen. -/
theorem foldl_insert_ofList (ms more : List Modifier) (k : Key)
    : more.foldl insert (ofList ms k) = ofList (ms ++ more) k := by
  induction more generalizing ms with
  | nil => rw [List.foldl_nil, List.append_nil]
  | cons m rest ih =>
      rw [List.foldl_cons, insert_ofList, ih, List.append_assoc, List.singleton_append]

/-- Repetitions cover nothing new. -/
theorem mask_ofList (ms : List Modifier) (k : Key) : (ofList ms k).mask = .ofModifiers ms :=
  Mods.ofModifiers_congr fun _ => List.mem_eraseDups

-----------------------------------------------------------------------------------------
-- Modifiers from texts
-----------------------------------------------------------------------------------------

theorem parseModifiers_eq_ok_iff {aliases : List String} {modifiers : List Modifier}
    : parseModifiers aliases = .ok modifiers
      ↔ ∃ ms,
        aliases.Forall₂ (fun piece m => IsModifierPiece piece.toList m) ms
        ∧ ms.eraseDups = modifiers := by
  simp only [parseModifiers, readModifiers_eq_ok_iff, List.forall₂_map_left_iff]

/-- Modifiers are inserted while they are read just as if all of them were read before, by
induction on the pieces; the first piece that is no modifier stops both.
-/
theorem foldlM_insert_ofList (pieces : List (List Char)) (ms : List Modifier) (k : Key)
    : pieces.foldlM (fun c piece => (readModifier piece).map c.insert) (ofList ms k)
      = (pieces.mapM readModifier).map fun more => ofList (ms ++ more) k := by
  induction pieces generalizing ms with
  | nil =>
      change Except.ok (ofList ms k) = .ok (ofList (ms ++ []) k)
      rw [List.append_nil]
  | cons piece rest ih =>
      rw [List.foldlM_cons, List.mapM_cons]
      cases readModifier piece with
      | error fault => rfl
      | ok m =>
          change rest.foldlM _ ((ofList ms k).insert m) = _
          rw [insert_ofList, ih]
          cases rest.mapM readModifier with
          | error fault => rfl
          | ok later =>
              change Except.ok (ofList (ms ++ [m] ++ later) k) = .ok (ofList (ms ++ m :: later) k)
              rw [List.append_assoc, List.singleton_append]

/-- Reading modifiers into a bare combo gives the combo of the list that is read. -/
theorem foldlM_insert_bare (aliases : List String) (k : Key)
    : aliases.foldlM (fun c piece => (readModifier piece.toList).map c.insert) (bare k)
      = (parseModifiers aliases).map fun modifiers => ofList modifiers k := by
  have pieces
      : aliases.foldlM (fun c piece => (readModifier piece.toList).map c.insert) (bare k)
        = (aliases.map String.toList).foldlM
          (fun c piece => (readModifier piece).map c.insert) (ofList [] k) := by
    rw [List.foldlM_map]
    rfl
  rw [pieces, foldlM_insert_ofList, parseModifiers, readModifiers]
  cases (aliases.map String.toList).mapM readModifier with
  | error fault => rfl
  | ok ms => exact congrArg Except.ok (ofList_eraseDups ms k).symm

/-- A combo that is built modifier by modifier is the one of the whole list. Each modifier goes
behind the others unless it is among them, so that in the end each stands where it came first and
the combo covers what any of them covers. Modifiers that are read from texts are inserted just as
if all of them were read before, where the list that is read has no repetitions to drop and gives
the same combo as the modifiers that are spelt, one by one.
-/
theorem built_by_insertions
    : (∀ (c : Combo) (m : Modifier),
        (c.insert m).modifiers = if m ∈ c.modifiers then c.modifiers else c.modifiers ++ [m])
      ∧ (∀ (ms more : List Modifier) (k : Key),
        let built := more.foldl insert (ofList ms k)
        built = ofList (ms ++ more) k
        ∧ (∀ firsts, ListsFirsts (ms ++ more) firsts ↔ firsts = built.modifiers)
        ∧ built.mask = .ofModifiers (ms ++ more)
        ∧ ∀ i, built.mask.bits.getLsbD i = true
          ↔ ∃ m ∈ ms ++ more, m.mask.bits.getLsbD i = true)
      ∧ (∀ (aliases : List String) (k : Key),
        aliases.foldlM (fun c piece => (readModifier piece.toList).map c.insert) (bare k)
          = (parseModifiers aliases).map fun modifiers => ofList modifiers k)
      ∧ ∀ (aliases : List String) (modifiers : List Modifier) (k : Key),
        parseModifiers aliases = .ok modifiers
        → (ofList modifiers k).modifiers = modifiers
          ∧ ∃ ms,
            aliases.Forall₂ (fun piece m => IsModifierPiece piece.toList m) ms
            ∧ ofList modifiers k = ofList ms k := by
  refine ⟨modifiers_insert, ?built, foldlM_insert_bare, ?read⟩
  case built =>
    intro ms more k built
    have whole : built = ofList (ms ++ more) k := foldl_insert_ofList ms more k
    have covers : built.mask = .ofModifiers (ms ++ more) := by rw [whole, mask_ofList]
    refine ⟨whole, fun firsts => ?_, covers, fun i => ?_⟩
    · rw [listsFirsts_iff, whole]
      rfl
    · rw [covers, Mods.bit_ofModifiers]
  case read =>
    intro aliases modifiers k read
    obtain ⟨ms, spelt, rfl⟩ := parseModifiers_eq_ok_iff.mp read
    exact ⟨eraseDups_of_nodup (nodup_eraseDups ms), ms, spelt, ofList_eraseDups ms k⟩

/-- Shift is given twice at once and inserted once more, its left side is kept apart from it, and
the same modifiers are spelt by labels, names and aliases.
-/
theorem built_by_insertions_repeated
    : let shift := Modifier.generic .shift
      let left : Modifier := ⟨.shift, .left⟩
      let gui := Modifier.generic .gui
      let built := [left, gui, shift, left].foldl insert (ofList [shift, shift] .grave)
      let aliases := ["S", " LShift", "SHIFT", "Win\t", "L_SHIFT"]
      built = ofList [shift, shift, left, gui, shift, left] .grave
      ∧ ListsFirsts [shift, shift, left, gui, shift, left] [shift, left, gui]
      ∧ built.modifiers = [shift, left, gui]
      ∧ built.mask = ⟨0xAA#8⟩
      ∧ parseModifiers aliases = .ok [shift, left, gui]
      ∧ (ofList [shift, left, gui] .grave).modifiers = [shift, left, gui]
      ∧ (∃ ms,
        aliases.Forall₂ (fun piece m => IsModifierPiece piece.toList m) ms
        ∧ ofList [shift, left, gui] .grave = ofList ms .grave)
      ∧ aliases.foldlM (fun c piece => (readModifier piece.toList).map c.insert) (bare .grave)
        = .ok built := by
  intro shift left gui built aliases
  obtain ⟨-, atOnce, reading, keeps⟩ := built_by_insertions
  obtain ⟨whole, firsts, covers, -⟩ := atOnce [shift, shift] [left, gui, shift, left] .grave
  have read : parseModifiers aliases = .ok [shift, left, gui] := by decide +kernel
  have listed : built.modifiers = [shift, left, gui] := by decide
  obtain ⟨kept, spelt⟩ := keeps aliases [shift, left, gui] .grave read
  refine ⟨whole, (firsts _).mpr listed.symm, listed, covers.trans (by decide), read, kept, spelt,
    ?_⟩
  rw [reading, read]
  decide

end EscapeKey.Combo
