import Mathlib.Data.List.DropRight
import EscapeKey.Proofs.Text.Words

/-! Texts in pieces. Trimming takes the blanks off both ends of a text and nothing else, splitting
leaves pieces without the separator, and blanks around the whole text only change the blanks
around its first and its last piece.
-/

namespace EscapeKey.Text

-----------------------------------------------------------------------------------------
-- Blanks around a text
-----------------------------------------------------------------------------------------

/-- The text has nothing but blanks, if anything. -/
def AllBlank (s : List Char) : Prop :=
  ∀ c ∈ s, isBlank c = true

instance : DecidablePred AllBlank := fun _ =>
  decidable_of_iff _ List.all_eq_true

/-- The text is its core with blanks around it. -/
def Padded (core s : List Char) : Prop :=
  ∃ before after, AllBlank before ∧ AllBlank after ∧ s = before ++ core ++ after

theorem trim_blank_append {before : List Char} (blank : AllBlank before) (s : List Char)
    : trim (before ++ s) = trim s := by
  rw [trim, trimStart, List.dropWhile_append_of_pos blank]
  rfl

theorem trimEnd_append_blank {after : List Char} (blank : AllBlank after) (s : List Char)
    : trimEnd (s ++ after) = trimEnd s := by
  have reversed : ∀ c ∈ after.reverse, isBlank c = true :=
    fun c member => blank c (List.mem_reverse.mp member)
  rw [trimEnd, List.reverse_append, List.dropWhile_append_of_pos reversed]
  rfl

theorem trim_append_blank {after : List Char} (blank : AllBlank after) (s : List Char)
    : trim (s ++ after) = trim s := by
  simp only [trim, trimStart, List.dropWhile_append]
  split
  case isTrue empty =>
    rw [List.isEmpty_iff.mp empty, List.dropWhile_eq_nil_iff.mpr blank]
  case isFalse => exact trimEnd_append_blank blank _

/-- What has been trimmed off a text is blank. -/
theorem padded_trim (s : List Char) : Padded (trim s) s := by
  refine ⟨s.takeWhile isBlank, (trimStart s).rtakeWhile isBlank, ?_, ?_, ?_⟩
  · exact fun c member => List.mem_takeWhile_imp member
  · exact fun c member => List.mem_rtakeWhile_imp member
  · have kept : trim s ++ (trimStart s).rtakeWhile isBlank = trimStart s :=
      List.rdropWhile_append_rtakeWhile
    rw [List.append_assoc, kept]
    exact List.takeWhile_append_dropWhile.symm

theorem Padded.trim_eq {core s : List Char} (padded : Padded core s) : trim s = trim core := by
  obtain ⟨before, after, blankBefore, blankAfter, rfl⟩ := padded
  rw [trim_append_blank blankAfter, trim_blank_append blankBefore]

theorem trim_eq_nil_iff {s : List Char} : trim s = [] ↔ AllBlank s := by
  constructor
  · intro nothing
    obtain ⟨before, after, blankBefore, blankAfter, same⟩ := padded_trim s
    rw [nothing, List.append_nil] at same
    rw [same]
    exact List.forall_mem_append.mpr ⟨blankBefore, blankAfter⟩
  · intro blank
    simpa [trim, trimStart, trimEnd] using trim_blank_append blank []

theorem isEmpty_trim_iff {s : List Char} : (trim s).isEmpty = true ↔ AllBlank s :=
  List.isEmpty_iff.trans trim_eq_nil_iff

-----------------------------------------------------------------------------------------
-- Pieces
-----------------------------------------------------------------------------------------

/-- What holds of every text without the separator, and of every such text with the separator and
a text that it holds of behind it, holds of all texts, by induction on the length.
-/
@[elab_as_elim]
theorem pieces_induction {α : Type} (sep : α) {motive : List α → Prop}
    (last : ∀ piece, sep ∉ piece → motive piece)
    (more : ∀ piece rest, sep ∉ piece → motive rest → motive (piece ++ sep :: rest))
    (s : List α)
    : motive s := by
  by_cases separated : sep ∈ s
  · obtain ⟨piece, rest, same, plain⟩ := List.eq_append_cons_of_mem separated
    have shorter : rest.length < s.length := by
      rw [same, List.length_append, List.length_cons]
      omega
    exact same ▸ more piece rest plain (pieces_induction sep last more rest)
  · exact last s separated
termination_by s.length

/-- The text is joined from the pieces by separators, and there is none in a piece. -/
def IsJoined {α : Type} (sep : α) (pieces : List (List α)) (s : List α) : Prop :=
  s = [sep].intercalate pieces ∧ ∀ piece ∈ pieces, sep ∉ piece

variable {α : Type} [BEq α]

variable [LawfulBEq α] {sep : α}

theorem not_mem_of_mem_splitOn {s piece : List α} (member : piece ∈ s.splitOn sep)
    : sep ∉ piece := by
  induction s using pieces_induction sep with
  | last whole plain =>
      rw [List.splitOn_eq_singleton plain, List.mem_singleton] at member
      exact member ▸ plain
  | more first rest plain ih =>
      rw [List.splitOn_append_cons_self_of_not_mem plain, List.mem_cons] at member
      exact member.elim (· ▸ plain) ih

/-- Splitting gives the one way in which a text is joined from pieces. -/
theorem splitOn_eq_iff {s : List α} {pieces : List (List α)} (nonempty : pieces ≠ [])
    : s.splitOn sep = pieces ↔ IsJoined sep pieces s := by
  constructor
  · rintro rfl
    exact ⟨(List.intercalate_splitOn sep).symm, fun _ => not_mem_of_mem_splitOn⟩
  · rintro ⟨rfl, plain⟩
    exact List.splitOn_intercalate sep plain nonempty

theorem IsJoined.splitOn_eq {s : List α} {front : List (List α)} {last : List α}
    (joined : IsJoined sep (front ++ [last]) s)
    : s.splitOn sep = front ++ [last] :=
  (splitOn_eq_iff (by simp)).mpr joined

/-- Every text is joined from pieces, of which there always is a last one. -/
theorem exists_isJoined (sep : α) (s : List α)
    : ∃ front last, IsJoined sep (front ++ [last]) s := by
  rcases List.eq_nil_or_concat (s.splitOn sep) with none | ⟨front, last, some⟩
  · exact absurd none (List.splitOn_ne_nil sep s)
  · rw [List.concat_eq_append] at some
    exact ⟨front, last, (splitOn_eq_iff (by simp)).mp some⟩

/-- A text that ends in the separator has an empty last piece. -/
theorem IsJoined.last_eq_nil {s : List α} {front : List (List α)} {last : List α}
    (joined : IsJoined sep (front ++ [last]) s) (ends : [sep] <:+ s)
    : last = [] := by
  have split := joined.splitOn_eq
  obtain ⟨before, rfl⟩ := ends
  rw [List.splitOn_append_cons_self, List.splitOn_nil] at split
  exact (List.singleton_inj.mp (List.append_inj' split rfl).2).symm

-----------------------------------------------------------------------------------------
-- Blanks around the pieces
-----------------------------------------------------------------------------------------

variable {sep : Char}

theorem AllBlank.not_mem {s : List Char} (blank : AllBlank s) (solid : isBlank sep = false)
    : sep ∉ s :=
  fun member => absurd ((blank sep member).symm.trans solid) nofun

/-- Blanks in front of a text stand in front of its first piece. -/
theorem map_trim_splitOn_blank_append (solid : isBlank sep = false) {before : List Char}
    (blank : AllBlank before) (s : List Char)
    : ((before ++ s).splitOn sep).map trim = (s.splitOn sep).map trim := by
  have plain := blank.not_mem solid
  induction s using pieces_induction sep with
  | last piece single =>
      have both : sep ∉ before ++ piece := by simp [plain, single]
      rw [List.splitOn_eq_singleton both, List.splitOn_eq_singleton single]
      exact congrArg (fun piece => [piece]) (trim_blank_append blank piece)
  | more piece rest single =>
      have both : sep ∉ before ++ piece := by simp [plain, single]
      rw [← List.append_assoc, List.splitOn_append_cons_self_of_not_mem both,
        List.splitOn_append_cons_self_of_not_mem single, List.map_cons, List.map_cons,
        trim_blank_append blank]

/-- Blanks behind a text stand behind its last piece, by induction on the pieces. -/
theorem map_trim_splitOn_append_blank (solid : isBlank sep = false) {after : List Char}
    (blank : AllBlank after) (s : List Char)
    : ((s ++ after).splitOn sep).map trim = (s.splitOn sep).map trim := by
  have plain := blank.not_mem solid
  induction s using pieces_induction sep with
  | last piece single =>
      have both : sep ∉ piece ++ after := by simp [plain, single]
      rw [List.splitOn_eq_singleton both, List.splitOn_eq_singleton single]
      exact congrArg (fun piece => [piece]) (trim_append_blank blank piece)
  | more piece rest single ih =>
      rw [List.append_assoc, List.cons_append, List.splitOn_append_cons_self_of_not_mem single,
        List.splitOn_append_cons_self_of_not_mem single, List.map_cons, List.map_cons, ih]

/-- The pieces of a text, up to the blanks around them, are those of the trimmed text. -/
theorem map_trim_splitOn_trim (solid : isBlank sep = false) (s : List Char)
    : ((trim s).splitOn sep).map trim = (s.splitOn sep).map trim := by
  obtain ⟨before, after, blankBefore, blankAfter, same⟩ := padded_trim s
  calc ((trim s).splitOn sep).map trim
    _ = ((before ++ trim s).splitOn sep).map trim :=
      (map_trim_splitOn_blank_append solid blankBefore _).symm
    _ = ((before ++ trim s ++ after).splitOn sep).map trim :=
      (map_trim_splitOn_append_blank solid blankAfter _).symm
    _ = (s.splitOn sep).map trim := by rw [← same]

end EscapeKey.Text
