import EscapeKey.CommandLine.Run
import EscapeKey.Proofs.Key.Names
import EscapeKey.Proofs.Text.Lines

/-! The section on key reports that a run may print, read back line by line. -/

namespace EscapeKey.CommandLine

-----------------------------------------------------------------------------------------
-- Printed lines
-----------------------------------------------------------------------------------------

/-- The text stands on one line, and it is not changed by the way the line ends. -/
def Unbroken (line : String) : Prop :=
  '\n' ∉ line.toList ∧ '\r' ∉ line.toList

theorem Unbroken.append {s t : String} (first : Unbroken s) (second : Unbroken t)
    : Unbroken (s ++ t) := by
  rw [Unbroken, String.toList_append, List.mem_append, List.mem_append, not_or, not_or]
  exact ⟨⟨first.1, second.1⟩, first.2, second.2⟩

theorem Unbroken.withoutReturn_eq {line : String} (unbroken : Unbroken line)
    : Text.withoutReturn line.toList = line.toList :=
  if_neg fun ends => unbroken.2 (List.mem_of_getLast? ends)

/-- Printed lines are split apart at their ends, behind the last of which nothing is left, by
induction on the lines.
-/
theorem splitOn_unlines {lines : List String} (unbroken : ∀ line ∈ lines, Unbroken line)
    : (unlines lines).toList.splitOn '\n' = lines.map String.toList ++ [[]] := by
  induction lines with
  | nil => rfl
  | cons first rest ih =>
      obtain ⟨firstUnbroken, restUnbroken⟩ := List.forall_mem_cons.mp unbroken
      have begun : (unlines (first :: rest)).toList
          = first.toList ++ '\n' :: (unlines rest).toList := by
        simp [unlines]
      rw [begun, List.splitOn_append_cons_self_of_not_mem firstUnbroken.1, ih restUnbroken]
      rfl

/-- Printed lines read back. -/
theorem lines_unlines {lines : List String} (unbroken : ∀ line ∈ lines, Unbroken line)
    : Text.lines (unlines lines) = lines.map String.toList := by
  have kept : lines.map (Text.withoutReturn ∘ String.toList) = lines.map String.toList :=
    List.map_congr_left fun line listed => (unbroken line listed).withoutReturn_eq
  simp only [Text.lines, splitOn_unlines unbroken, List.dropLast_concat, List.getLast?_concat,
    List.map_map, kept]
  exact List.append_nil _

-----------------------------------------------------------------------------------------
-- Key reports
-----------------------------------------------------------------------------------------

theorem unbroken_name (k : Key) : Unbroken k.name := by
  have visible {c : Char} (member : c ∈ k.name.toList) : Text.isBlank c = false :=
    k.isWord_name.not_blank member
  exact ⟨fun member => absurd (visible member) (by decide),
    fun member => absurd (visible member) (by decide)⟩

theorem unbroken_reportText (r : Host.Report) : Unbroken (reportText r) := by
  cases r with
  | press k => exact .append ⟨by decide, by decide⟩ (unbroken_name k)
  | release k => exact .append ⟨by decide, by decide⟩ (unbroken_name k)

/-- The section on key reports is a heading and then a line for each report, in order, with the
direction of the key and its name.
-/
theorem lines_reportsText (reports : List Host.Report)
    : Text.lines (reportsText reports)
      = "reports:".toList
        :: reports.map fun
          | .press k => "  press ".toList ++ k.name.toList
          | .release k => "  release ".toList ++ k.name.toList := by
  have heading : Unbroken "reports:" := ⟨by decide, by decide⟩
  have unbroken : ∀ line ∈ "reports:" :: reports.map reportText, Unbroken line :=
    List.forall_mem_cons.mpr ⟨heading, List.forall_mem_map.mpr fun r _ => unbroken_reportText r⟩
  rw [reportsText, lines_unlines unbroken, List.map_cons, List.map_map]
  refine congrArg _ (List.map_congr_left fun r _ => ?_)
  cases r with
  | press k => exact String.toList_append
  | release k => exact String.toList_append

end EscapeKey.CommandLine
