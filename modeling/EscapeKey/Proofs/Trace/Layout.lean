import Mathlib.Logic.Relation
import EscapeKey.Proofs.Trace.Fields
import EscapeKey.Proofs.Trace.FirstFault

/-! The layout of a trace. Comments, blanks around and between the words of a line, and lines
without an event are of no effect, except that added lines move the number of the line at fault.
-/

namespace EscapeKey.Trace

/-- One way to lay out a line differently: with a comment at its end, with blanks around it, with
other blanks in front of its comment, or with its fields rearranged if it gives an event.
-/
inductive LineEdit : List Char → List Char → Prop where
  | comment {line} (comment : List Char)
    : LineEdit line (line ++ '#' :: comment)
  | before {line run} (blank : Text.AllBlank run)
    : LineEdit line (run ++ line)
  | after {line run} (blank : Text.AllBlank run)
    : LineEdit line (line ++ run)
  | between {before run other after} (uncommented : '#' ∉ before) (nonempty : run ≠ [])
    (blank : Text.AllBlank run) (otherNonempty : other ≠ []) (otherBlank : Text.AllBlank other)
    : LineEdit (before ++ (run ++ after)) (before ++ (other ++ after))
  | fields {line other e} (read : readLine line = .ok (some e))
    (rearranged : Rearranged line other)
    : LineEdit line other

/-- What becomes of a trace in one place: a line is kept, after any number of edits there and back,
or a line without an event is added.
-/
inductive Change where
  | kept (old new : List Char) (edited : Relation.EqvGen LineEdit old new)
  | added (line : List Char) (passed : ¬ IsEventLine line)

def oldLines : List Change → List (List Char)
  | [] => []
  | .kept old _ _ :: rest => old :: oldLines rest
  | .added _ _ :: rest => oldLines rest

def newLines : List Change → List (List Char)
  | [] => []
  | .kept _ new _ :: rest => new :: newLines rest
  | .added line _ :: rest => line :: newLines rest

/-- How many lines are added in front of an old line. Lines are numbered from zero here. -/
def addedBefore : List Change → Nat → Nat
  | [], _ => 0
  | .kept _ _ _ :: _, 0 => 0
  | .kept _ _ _ :: rest, n + 1 => addedBefore rest n
  | .added _ _ :: rest, n => addedBefore rest n + 1

/-- The error with the number that its line has after the changes. -/
def Error.moved (e : Error) (changes : List Change) : Error :=
  { e with line := e.line + addedBefore changes (e.line - 1) }

-----------------------------------------------------------------------------------------
-- Edits of one line
-----------------------------------------------------------------------------------------

variable {line other : List Char}

/-- Blanks in front of a comment do not begin it. -/
theorem not_mem_of_allBlank {run : List Char} (blank : Text.AllBlank run) : '#' ∉ run :=
  blank.not_mem (by decide)

/-- The words of a line with blanks somewhere in front of its comment. -/
theorem lineWords_append_blank_append {before run : List Char} (uncommented : '#' ∉ before)
    (nonempty : run ≠ []) (blank : Text.AllBlank run) (after : List Char)
    : lineWords (before ++ (run ++ after)) = Text.words before ++ lineWords after := by
  have nowhere : '#' ∉ before ++ run := by simp [uncommented, not_mem_of_allBlank blank]
  rw [lineWords, ← List.append_assoc, Text.cut_fst_append_of_not_mem nowhere, List.append_assoc,
    Text.words_append_blank_append nonempty blank, lineWords]

/-- An edit does not change what a line is read as, by cases on the edit. Only rearranged fields
change the words of the line.
-/
theorem LineEdit.readLine_eq (edit : LineEdit line other) : readLine line = readLine other := by
  cases edit with
  | comment comment => rw [readLine, readLine, Text.cut_fst_append_cons_self]
  | before blank =>
      rw [readLine, readLine, Text.cut_fst_append_of_not_mem (not_mem_of_allBlank blank),
        Text.words_blank_append blank]
  | after blank =>
      rw [readLine, readLine, Text.words_cut_append_blank (not_mem_of_allBlank blank) blank]
  | between uncommented nonempty blank otherNonempty otherBlank =>
      have words := lineWords_append_blank_append uncommented nonempty blank
      have otherWords := lineWords_append_blank_append uncommented otherNonempty otherBlank
      exact congrArg readWords ((words _).trans (otherWords _).symm)
  | fields read rearranged => exact read.trans (rearranged.readLine_eq read).symm

/-- Neither do any number of edits, by induction on how they follow each other. -/
theorem readLine_eq_of_eqvGen (edited : Relation.EqvGen LineEdit line other)
    : readLine line = readLine other := by
  induction edited with
  | rel _ _ edit => exact edit.readLine_eq
  | refl => rfl
  | symm _ _ _ ih => exact ih.symm
  | trans _ _ _ _ _ ih ih' => exact ih.trans ih'

theorem IsFaulty.congr {previous : Option UInt64} {fault : Fault}
    (faulty : IsFaulty previous line fault) (same : readLine line = readLine other)
    : IsFaulty previous other fault := by
  cases faulty with
  | malformed read => exact .malformed (same.symm.trans read)
  | early read before early => exact .early (same.symm.trans read) before early

-----------------------------------------------------------------------------------------
-- Changes of the lines of a trace
-----------------------------------------------------------------------------------------

/-- The new lines give the events of the old ones, by induction on the changes. -/
theorem LinesGive.newLines {changes : List Change} {previous : Option UInt64}
    {events : List Event} (gives : LinesGive previous (oldLines changes) events)
    : LinesGive previous (newLines changes) events := by
  induction changes generalizing previous events with
  | nil => exact gives
  | cons change rest ih =>
      cases change with
      | added line passed => exact .blank (readLine_eq_none_iff.mpr passed) (ih gives)
      | kept old new edited =>
          have same := readLine_eq_of_eqvGen edited
          change LinesGive previous (old :: oldLines rest) events at gives
          cases gives with
          | blank read later => exact .blank (same.symm.trans read) (ih later)
          | event read follows later => exact .event (same.symm.trans read) follows (ih later)

/-- Where an old line has been kept, the new lines in front of it are the kept and the added ones,
by induction on the changes.
-/
theorem exists_newLines_split {changes : List Change} {before after : List (List Char)}
    (split : oldLines changes = before ++ line :: after)
    : ∃ front new rest,
      Relation.EqvGen LineEdit line new
      ∧ newLines changes = newLines front ++ new :: rest
      ∧ oldLines front = before
      ∧ (newLines front).length = before.length + addedBefore changes before.length := by
  induction changes generalizing before with
  | nil => simp [oldLines] at split
  | cons change later ih =>
      cases change with
      | added blank passed =>
          obtain ⟨front, new, rest, edited, lines, old, length⟩ := ih split
          refine ⟨.added blank passed :: front, new, rest, edited, ?_, old, ?_⟩
          · rw [newLines, newLines, lines, List.cons_append]
          · rw [newLines, List.length_cons, length, addedBefore, Nat.add_assoc]
      | kept first new edited =>
          cases before with
          | nil =>
              obtain ⟨rfl, _⟩ := List.cons.inj split
              exact ⟨[], new, newLines later, edited, rfl, rfl, rfl⟩
          | cons head tail =>
              obtain ⟨rfl, tailSplit⟩ := List.cons.inj split
              obtain ⟨front, target, rest, same, lines, old, length⟩ := ih tailSplit
              refine ⟨.kept first new edited :: front, target, rest, same, ?_, ?_, ?_⟩
              · rw [newLines, newLines, lines, List.cons_append]
              · rw [oldLines, old]
              · rw [newLines, List.length_cons, length, List.length_cons, addedBefore,
                  Nat.add_right_comm]

/-- The new lines are read as the old ones are, or fail with the same fault at the line that the
old line at fault has become.
-/
theorem readLines_newLines (changes : List Change)
    : readLines 1 none (newLines changes)
      = (readLines 1 none (oldLines changes)).mapError (·.moved changes) := by
  rcases linesGive_or_isFaulty none (oldLines changes) with
    ⟨events, gives⟩ | ⟨before, line, after, events, fault, split, gives, faulty⟩
  · rw [gives.newLines.readLines_eq, gives.readLines_eq]
    rfl
  · obtain ⟨front, new, rest, edited, lines, old, length⟩ := exists_newLines_split split
    have newGives : LinesGive none (newLines front) events := (old ▸ gives).newLines
    have newFaulty := faulty.congr (readLine_eq_of_eqvGen edited)
    rw [split, lines, gives.readLines_isFaulty faulty, newGives.readLines_isFaulty newFaulty,
      length, ← Nat.add_assoc]
    simp [Except.mapError, Error.moved]

/-- The layout of a trace does not matter. If a text is laid out differently, line by line, and has
lines without events added to it, it is read as the same events, or with the same fault at the line
whose number has grown by the lines added in front of it. A line that gives an event gives the same
one with its fields in another order and its modifiers in another order and repeated.
-/
theorem parse_relaid
    : (∀ (changes : List Change) (s t : String),
        s.toList.splitOn '\n' = oldLines changes
        → t.toList.splitOn '\n' = newLines changes
        → parse t = (parse s).mapError (·.moved changes))
      ∧ ∀ (line other : List Char) (e : Event),
        readLine line = .ok (some e)
        → Rearranged line other
        → readLine other = .ok (some e) := by
  refine ⟨?_, fun _ _ _ read rearranged => rearranged.readLine_eq read⟩
  intro changes s t old new
  rw [parse, parse, read, read, old, new]
  exact readLines_newLines changes

/-- The first line loses its carriage return, has its fields swapped with a modifier listed twice,
and gets another blank and a comment. One line is added in front of it and one behind it, so that
line 2, which is at fault, becomes line 4.
-/
theorem parse_relaid_swapped
    : let line := "5 press key=A mods=Shift+Cmd".toList
      let swapped := "5 press mods=Cmd+Shift+Cmd key=A".toList
      let s := "5 press key=A mods=Shift+Cmd\r\nabc"
      let t := "# head\n5\t press mods=Cmd+Shift+Cmd key=A# go\n \nabc"
      let fault : Fault := .malformed (.invalidTime "abc")
      parse s = .error ⟨2, fault⟩
      ∧ parse t = .error ⟨4, fault⟩
      ∧ readLine line = .ok (some ⟨5, .press, some ⟨30⟩, ⟨0xaa#8⟩⟩)
      ∧ readLine swapped = .ok (some ⟨5, .press, some ⟨30⟩, ⟨0xaa#8⟩⟩) := by
  intro line swapped s t fault
  obtain ⟨relaid, fields⟩ := parse_relaid
  have fails : parse s = .error ⟨2, fault⟩ := by decide +kernel
  have read : readLine line = .ok (some ⟨5, .press, some ⟨30⟩, ⟨0xaa#8⟩⟩) := by decide +kernel
  have words : lineWords line = ["5".toList, "press".toList, keyField "A".toList,
      modsField "Shift+Cmd".toList] := by decide +kernel
  have otherWords : lineWords swapped = ["5".toList, "press".toList,
      modsField "Cmd+Shift+Cmd".toList, keyField "A".toList] := by decide +kernel
  have alike : Mods.ListedAlike "Shift+Cmd".toList "Cmd+Shift+Cmd".toList := by decide +kernel
  have rearranged : Rearranged line swapped :=
    .fields words (by decide +kernel) (by decide +kernel) (.swap _ _ _)
      (.cons (.mods alike) (.cons .same .nil)) otherWords
  -- the edits, one after the other
  let rest := "press mods=Cmd+Shift+Cmd key=A".toList
  let wide := "5".toList ++ (['\t', ' '] ++ rest)
  have unended : LineEdit line (line ++ ['\r']) := .after (by decide)
  have swap : LineEdit line swapped := .fields read rearranged
  have spaced : LineEdit ("5".toList ++ ([' '] ++ rest)) wide :=
    .between (by decide) (by decide) (by decide) (by decide) (by decide)
  have commented : LineEdit wide (wide ++ '#' :: " go".toList) := .comment _
  have edited : Relation.EqvGen LineEdit (line ++ ['\r']) (wide ++ '#' :: " go".toList) :=
    .trans _ _ _ (.symm _ _ (.rel _ _ unended))
      (.trans _ _ _ (.rel _ _ swap)
        (.trans _ _ _ (.rel _ _ spaced) (.rel _ _ commented)))
  have old : s.toList.splitOn '\n' = [line ++ ['\r'], "abc".toList] := by decide +kernel
  have new : t.toList.splitOn '\n'
      = ["# head".toList, wide ++ '#' :: " go".toList, [' '], "abc".toList] := by
    decide +kernel
  have noted : readLine "# head".toList = .ok none := by decide +kernel
  have blank : readLine [' '] = .ok none := by decide +kernel
  have moved := relaid
    [.added _ (readLine_eq_none_iff.mp noted), .kept _ _ edited,
      .added _ (readLine_eq_none_iff.mp blank), .kept "abc".toList "abc".toList (.refl _)]
    s t old new
  rw [fails] at moved
  exact ⟨fails, moved, read, fields _ _ _ read rearranged⟩

end EscapeKey.Trace
