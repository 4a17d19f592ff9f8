import EscapeKey.Proofs.Text.Pieces

/-! The lines of a text and their words. A line ends at a line feed, and the carriage return that
may stand in front of it is blank, so that it belongs to no word.
-/

namespace EscapeKey.Text

-----------------------------------------------------------------------------------------
-- Words between blanks
-----------------------------------------------------------------------------------------

/-- A blank ends a word, if it does not stand next to another blank. -/
theorem words_append_cons_blank {c : Char} (blank : isBlank c = true) (s t : List Char)
    : words (s ++ c :: t) = words s ++ words t := by
  rw [words, List.splitOnP_append_cons s t blank, List.filter_append]
  rfl

/-- Blanks in front of a text belong to no word, by induction on them. -/
theorem words_blank_append {run : List Char} (blank : AllBlank run) (s : List Char)
    : words (run ++ s) = words s := by
  induction run with
  | nil => rfl
  | cons c rest ih =>
      obtain ⟨first, later⟩ := List.forall_mem_cons.mp blank
      exact (words_append_cons_blank first [] (rest ++ s)).trans (ih later)

/-- It does not matter which blanks stand between two texts, and how many. -/
theorem words_append_blank_append {run : List Char} (nonempty : run ≠ []) (blank : AllBlank run)
    (s t : List Char)
    : words (s ++ (run ++ t)) = words s ++ words t := by
  obtain ⟨c, rest, rfl⟩ := List.exists_cons_of_ne_nil nonempty
  obtain ⟨first, later⟩ := List.forall_mem_cons.mp blank
  rw [List.cons_append, words_append_cons_blank first, words_blank_append later]

theorem words_append_blank {run : List Char} (blank : AllBlank run) (s : List Char)
    : words (s ++ run) = words s := by
  by_cases empty : run = []
  · rw [empty, List.append_nil]
  · simpa [words] using words_append_blank_append empty blank s []

/-- Only a text of blanks has no words, by induction on the text. -/
theorem words_eq_nil_iff {s : List Char} : words s = [] ↔ AllBlank s := by
  induction s with
  | nil => exact iff_of_true rfl (List.forall_mem_nil _)
  | cons c rest ih =>
      cases blank : isBlank c with
      | true =>
          have skipped : words (c :: rest) = words rest := words_append_cons_blank blank [] rest
          rw [skipped, ih]
          simp [AllBlank, blank]
      | false =>
          -- the first word begins with this character
          have begun : words (c :: rest) ≠ [] := by
            obtain ⟨piece, pieces, split⟩ := List.exists_cons_of_ne_nil
              (List.splitOnP_ne_nil isBlank rest)
            rw [words, List.splitOnP_cons_eq_if_modifyHead, blank, split]
            simp
          refine iff_of_false begun fun all => ?_
          exact Bool.false_ne_true (blank.symm.trans (all c List.mem_cons_self))

-----------------------------------------------------------------------------------------
-- Lines
-----------------------------------------------------------------------------------------

/-- A line without the carriage return at its end, if there is one. -/
def withoutReturn (line : List Char) : List Char :=
  if line.getLast? = some '\r' then line.dropLast else line

/-- The lines of a text. They end at line feeds, and a carriage return in front of a line feed
belongs to no line. What stands behind the last line feed is a line as well, unless it is empty.
-/
def lines (s : String) : List (List Char) :=
  let pieces := s.toList.splitOn '\n'
  pieces.dropLast.map withoutReturn ++ (pieces.getLast?.filter (!·.isEmpty)).toList

/-- Blanks behind a line add no word in front of its comment. -/
theorem words_cut_append_blank {comment : Char} {run : List Char} (absent : comment ∉ run)
    (blank : AllBlank run) (line : List Char)
    : words (cut comment (line ++ run)).1 = words (cut comment line).1 := by
  by_cases commented : comment ∈ line
  · rw [cut_fst_append_of_mem commented]
  · rw [cut_fst_append_of_not_mem commented, cut_of_not_mem absent, words_append_blank blank,
      cut_of_not_mem commented]

theorem words_cut_withoutReturn {comment : Char} (other : comment ≠ '\r') (line : List Char)
    : words (cut comment (withoutReturn line)).1 = words (cut comment line).1 := by
  unfold withoutReturn
  split
  case isTrue ends =>
    obtain ⟨before, rfl⟩ := List.getLast?_eq_some_iff.mp ends
    have blank : AllBlank ['\r'] := List.forall_mem_singleton.mpr (by decide)
    rw [List.dropLast_concat, words_cut_append_blank (mt List.mem_singleton.mp other) blank]
  case isFalse => rfl

end EscapeKey.Text
