import Mathlib.Data.List.Chain
import Mathlib.Data.Nat.Find
import EscapeKey.Proofs.Text.Lines
import EscapeKey.Proofs.Trace.Lines

/-! Which traces are read, and where the others fail. A trace is read if each of its event lines is
read by itself and none of them is earlier than the event line before it. Otherwise the first line
for which this is not so is at fault, whatever stands behind it.
-/

namespace EscapeKey.Trace

/-- The part of the line in front of its comment is not blank. -/
def IsEventLine (line : List Char) : Prop :=
  ¬ Text.AllBlank (Text.cut '#' line).1

instance : DecidablePred IsEventLine := fun line =>
  inferInstanceAs (Decidable (¬ ∀ c ∈ (Text.cut '#' line).1, Text.isBlank c = true))

def eventLines (lines : List (List Char)) : List (List Char) :=
  lines.filter (IsEventLine ·)

/-- The time of the event that a line gives by itself. -/
def lineTime? (line : List Char) : Option UInt64 :=
  match readLine line with
  | .ok (some e) => some e.time
  | _ => none

/-- The time of the event line before line `n`, if there is one and it is read by itself. Lines are
numbered from zero here.
-/
def timeBefore (lines : List (List Char)) (n : Nat) : Option UInt64 :=
  (eventLines (lines.take n)).getLast?.bind lineTime?

/-- Line `n` is malformed or earlier than the event line before it. -/
def IsFaultyAt (lines : List (List Char)) (n : Nat) (fault : Fault) : Prop :=
  ∃ line, lines[n]? = some line ∧ IsFaulty (timeBefore lines n) line fault

-----------------------------------------------------------------------------------------
-- Event lines
-----------------------------------------------------------------------------------------

theorem readWords_eq_none_iff {words : List (List Char)}
    : readWords words = .ok none ↔ words = [] := by
  refine ⟨?_, fun empty => empty ▸ rfl⟩
  fun_cases readWords words with
  | case1 => exact fun _ => rfl
  | case2 | case3 | case4 => exact nofun
  | case5 =>
      intro read
      obtain ⟨_, _, same⟩ := Except.bind_eq_ok_iff.mp read
      exact absurd (Except.ok.inj same) nofun

/-- A line gives an event or is malformed exactly if it is an event line. -/
theorem readLine_eq_none_iff {line : List Char}
    : readLine line = .ok none ↔ ¬ IsEventLine line := by
  rw [readLine, readWords_eq_none_iff, Text.words_eq_nil_iff, IsEventLine, not_not]

theorem eventLines_cons_of_blank {line : List Char} (read : readLine line = .ok none)
    (lines : List (List Char))
    : eventLines (line :: lines) = eventLines lines :=
  List.filter_cons_of_neg (by simpa using readLine_eq_none_iff.mp read)

theorem eventLines_append_cons {line : List Char} (event : IsEventLine line)
    (before after : List (List Char))
    : eventLines (before ++ line :: after) = eventLines before ++ line :: eventLines after := by
  rw [eventLines, List.filter_append, List.filter_cons_of_pos (by simpa using event)]
  rfl

theorem eventLines_cons_of_read {line : List Char} {e : Event}
    (read : readLine line = .ok (some e)) (lines : List (List Char))
    : eventLines (line :: lines) = line :: eventLines lines := by
  have given : ¬ readLine line = .ok none := by simp [read]
  exact eventLines_append_cons (by simpa using mt readLine_eq_none_iff.mpr given) [] lines

/-- A line at fault is an event line, since a blank one is passed over. -/
theorem IsFaulty.isEventLine {previous : Option UInt64} {line : List Char} {fault : Fault}
    (faulty : IsFaulty previous line fault)
    : IsEventLine line := by
  by_contra blank
  have passed : readLine line = .ok none := readLine_eq_none_iff.mpr blank
  cases faulty with
  | malformed read | early read => exact absurd (read.symm.trans passed) nofun

theorem lineTime?_of_read {line : List Char} {e : Event} (read : readLine line = .ok (some e))
    : lineTime? line = some e.time := by
  rw [lineTime?, read]

theorem latest_none_eq (events : List Event)
    : latest none events = events.getLast?.map (·.time) := by
  rcases List.eq_nil_or_concat events with rfl | ⟨before, e, rfl⟩
  · rfl
  · simp [latest]

namespace LinesGive

variable {previous : Option UInt64} {lines : List (List Char)} {events : List Event}

/-- The event lines give the events in order, each by itself. -/
theorem map_readLine_eventLines (gives : LinesGive previous lines events)
    : (eventLines lines).map readLine = events.map fun e => .ok (some e) := by
  induction gives with
  | nil => rfl
  | blank read _ ih => rw [eventLines_cons_of_blank read, ih]
  | event read _ _ ih =>
      rw [eventLines_cons_of_read read, List.map_cons, List.map_cons, read, ih]

theorem filterMap_lineTime? (gives : LinesGive previous lines events)
    : (eventLines lines).filterMap lineTime? = events.map (·.time) := by
  induction gives with
  | nil => rfl
  | blank read _ ih => rw [eventLines_cons_of_blank read, ih]
  | event read _ _ ih =>
      rw [eventLines_cons_of_read read, List.filterMap_cons_some (lineTime?_of_read read), ih,
        List.map_cons]

/-- Behind lines that give events, the event line before has the time of the latest event. -/
theorem timeBefore_eq (gives : LinesGive none lines events) (rest : List (List Char))
    : timeBefore (lines ++ rest) lines.length = latest none events := by
  have last : (eventLines lines).getLast?.map readLine
      = events.getLast?.map fun e => .ok (some e) := by
    rw [← List.getLast?_map, gives.map_readLine_eventLines, List.getLast?_map]
  rw [timeBefore, List.take_left, latest_none_eq]
  cases line : (eventLines lines).getLast? with
  | none =>
      cases event : events.getLast? with
      | none => rfl
      | some e => simp [line, event] at last
  | some line' =>
      cases event : events.getLast? with
      | none => simp [line, event] at last
      | some e =>
          rw [line, event] at last
          exact lineTime?_of_read (Option.some.inj last)

theorem isFaultyAt (gives : LinesGive none lines events) {line : List Char} {fault : Fault}
    (faulty : IsFaulty (latest none events) line fault) (after : List (List Char))
    : IsFaultyAt (lines ++ line :: after) lines.length fault := by
  refine ⟨line, by simp, ?_⟩
  rwa [gives.timeBefore_eq]

end LinesGive

-----------------------------------------------------------------------------------------
-- The first fault
-----------------------------------------------------------------------------------------

variable {lines others : List (List Char)} {n : Nat} {fault : Fault} {error : Error}

/-- Reading fails at a line that is at fault if no line before it is.
Witness: the lines before it give events, since otherwise one of them would be at fault.
-/
theorem IsFaultyAt.readLines_eq (faulty : IsFaultyAt lines n fault)
    (first : ∀ m < n, ∀ other, ¬ IsFaultyAt lines m other)
    : readLines 1 none lines = .error ⟨n + 1, fault⟩ := by
  obtain ⟨line, here, faulty⟩ := faulty
  obtain ⟨inside, rfl⟩ := List.getElem?_eq_some_iff.mp here
  have length : (lines.take n).length = n := List.length_take_of_le (Nat.le_of_lt inside)
  rcases linesGive_or_isFaulty none (lines.take n) with
    ⟨events, gives⟩ | ⟨before, bad, after, events, other, split, gives, earlier⟩
  · have whole : lines.take n ++ lines[n] :: lines.drop (n + 1) = lines := by
      rw [← List.drop_eq_getElem_cons inside, List.take_append_drop]
    have time := gives.timeBefore_eq (lines[n] :: lines.drop (n + 1))
    rw [whole, length] at time
    rw [time] at faulty
    have fails := gives.readLines_isFaulty faulty 1 (lines.drop (n + 1))
    rwa [whole, length, Nat.add_comm] at fails
  · have whole : before ++ bad :: (after ++ lines.drop n) = lines := by
      rw [← List.cons_append, ← List.append_assoc, ← split, List.take_append_drop]
    have before_lt : before.length < n := by
      rw [split, List.length_append, List.length_cons] at length
      omega
    have found := gives.isFaultyAt earlier (after ++ lines.drop n)
    rw [whole] at found
    exact absurd found (first before.length before_lt other)

/-- Reading fails exactly with the first fault. -/
theorem readLines_eq_error_iff_first
    : readLines 1 none lines = .error error
      ↔ ∃ n,
        error.line = n + 1
        ∧ IsFaultyAt lines n error.fault
        ∧ ∀ m < n, ∀ other, ¬ IsFaultyAt lines m other := by
  constructor
  · intro fails
    obtain ⟨before, line, after, events, split, gives, _, faulty⟩ :=
      readLines_eq_error_iff.mp fails
    have some : ∃ n fault, IsFaultyAt lines n fault :=
      ⟨before.length, error.fault, split ▸ gives.isFaultyAt faulty after⟩
    classical
    obtain ⟨fault, first⟩ := Nat.find_spec some
    have least : ∀ m < Nat.find some, ∀ other, ¬ IsFaultyAt lines m other :=
      fun m earlier other found => Nat.find_min some earlier ⟨other, found⟩
    obtain rfl := Except.error.inj ((first.readLines_eq least).symm.trans fails)
    exact ⟨Nat.find some, rfl, first, least⟩
  · rintro ⟨n, number, faulty, first⟩
    rw [faulty.readLines_eq first, ← number]

/-- What stands behind the line at fault has no influence. -/
theorem readLines_eq_error_of_take_eq (fails : readLines 1 none lines = .error error)
    (same : others.take error.line = lines.take error.line)
    : readLines 1 none others = .error error := by
  obtain ⟨before, line, after, events, rfl, gives, number, faulty⟩ :=
    readLines_eq_error_iff.mp fails
  have upTo : (before ++ line :: after).take error.line = before ++ [line] := by
    simp [number, List.take_append, List.take_of_length_le]
  have split : others = before ++ line :: others.drop error.line := by
    calc others
      _ = others.take error.line ++ others.drop error.line := (List.take_append_drop _ _).symm
      _ = before ++ line :: others.drop error.line := by
        rw [same, upTo, List.append_assoc, List.singleton_append]
  exact readLines_eq_error_iff.mpr ⟨before, line, _, events, split, gives, number, faulty⟩

-----------------------------------------------------------------------------------------
-- Success
-----------------------------------------------------------------------------------------

/-- Lines that give events have event lines that are read, with times that never decrease. -/
theorem LinesGive.isChain_lineTime? {events : List Event} (gives : LinesGive none lines events)
    : ((eventLines lines).filterMap lineTime?).IsChain (· ≤ ·) := by
  rw [gives.filterMap_lineTime?]
  exact (List.pairwise_map.mpr gives.ordered.1).isChain

theorem LinesGive.readLine_of_mem {events : List Event} (gives : LinesGive none lines events)
    {line : List Char} (member : line ∈ eventLines lines)
    : ∃ e, readLine line = .ok (some e) := by
  have read : readLine line ∈ (eventLines lines).map readLine := List.mem_map_of_mem member
  rw [gives.map_readLine_eventLines] at read
  obtain ⟨e, _, same⟩ := List.mem_map.mp read
  exact ⟨e, same.symm⟩

/-- A line at fault behind lines that give events is an event line that is not read by itself, or
the times decrease there.
-/
theorem LinesGive.not_isFaulty {events : List Event} (gives : LinesGive none lines events)
    {line : List Char} {after : List (List Char)}
    (alone : ∀ l ∈ eventLines (lines ++ line :: after), ∃ e, readLine l = .ok (some e))
    (ordered : ((eventLines (lines ++ line :: after)).filterMap lineTime?).IsChain (· ≤ ·))
    : ¬ IsFaulty (latest none events) line fault := by
  intro faulty
  rw [eventLines_append_cons faulty.isEventLine] at alone ordered
  cases faulty with
  | malformed read =>
      obtain ⟨e, other⟩ := alone line (by simp)
      exact absurd (other.symm.trans read) nofun
  | @early e time read before early =>
      rw [List.filterMap_append, List.filterMap_cons_some (lineTime?_of_read read),
        gives.filterMap_lineTime?, List.isChain_append] at ordered
      have last : time ∈ (events.map (·.time)).getLast? := by
        rwa [List.getLast?_map, ← latest_none_eq]
      exact absurd (ordered.2.2 time last e.time rfl) (UInt64.not_le.mpr early)

/-- Lines are read exactly if each event line is read by itself and the times of the event lines
never decrease.
-/
theorem exists_readLines_iff
    : (∃ events, readLines 1 none lines = .ok events)
      ↔ (∀ line ∈ eventLines lines, ∃ e, readLine line = .ok (some e))
        ∧ ((eventLines lines).filterMap lineTime?).IsChain (· ≤ ·) := by
  constructor
  · rintro ⟨events, read⟩
    have gives := readLines_eq_ok_iff.mp read
    exact ⟨fun _ member => gives.readLine_of_mem member, gives.isChain_lineTime?⟩
  · rintro ⟨alone, ordered⟩
    rcases linesGive_or_isFaulty none lines with
      ⟨events, gives⟩ | ⟨before, line, after, events, fault, rfl, gives, faulty⟩
    · exact ⟨events, gives.readLines_eq 1⟩
    · exact absurd faulty (gives.not_isFaulty alone ordered)

-----------------------------------------------------------------------------------------
-- Traces as texts
-----------------------------------------------------------------------------------------

theorem readLine_withoutReturn (line : List Char)
    : readLine (Text.withoutReturn line) = readLine line := by
  rw [readLine, Text.words_cut_withoutReturn (by decide), readLine]

/-- Carriage returns at the ends of lines change nothing. -/
theorem readLines_withoutReturn (previous : Option UInt64) (ended rest : List (List Char))
    : readLines n previous (ended.map Text.withoutReturn ++ rest)
      = readLines n previous (ended ++ rest) := by
  induction ended generalizing n previous with
  | nil => rfl
  | cons line ended ih =>
      simp only [List.map_cons, List.cons_append, readLines, readLine_withoutReturn, ih]

/-- Parsing a trace reads the lines of its text. -/
theorem parse_eq_readLines (s : String) : parse s = readLines 1 none (Text.lines s) := by
  rw [parse, read, Text.lines]
  rcases List.eq_nil_or_concat (s.toList.splitOn '\n') with none | ⟨ended, last, split⟩
  · exact absurd none (List.splitOnP_ne_nil _ _)
  · rw [split, List.concat_eq_append, List.dropLast_concat, List.getLast?_concat,
      readLines_withoutReturn]
    cases last with
    | nil => exact (readLines_append_blank rfl ended).trans (congrArg _ (List.append_nil _).symm)
    | cons c rest => rfl

/-- A trace is read exactly if each of its event lines is read by itself and their times never
decrease. Then the events are those of the event lines, one for each, in order. Otherwise reading
fails with the first line at fault, as it does for every text with the same lines up to this one.
-/
theorem parse_first_fault (s : String)
    : ((∃ events, parse s = .ok events)
        ↔ (∀ line ∈ eventLines (Text.lines s), ∃ e, readLine line = .ok (some e))
          ∧ ((eventLines (Text.lines s)).filterMap lineTime?).IsChain (· ≤ ·))
      ∧ (∀ events, parse s = .ok events →
        (eventLines (Text.lines s)).map readLine = events.map (fun e => .ok (some e))
        ∧ Ordered events)
      ∧ (∀ error, parse s = .error error
        ↔ ∃ n,
          error.line = n + 1
          ∧ IsFaultyAt (Text.lines s) n error.fault
          ∧ ∀ m < n, ∀ other, ¬ IsFaultyAt (Text.lines s) m other)
      ∧ ∀ error, parse s = .error error → ∀ t,
        (Text.lines t).take error.line = (Text.lines s).take error.line
        → parse t = .error error := by
  simp only [parse_eq_readLines]
  refine ⟨exists_readLines_iff, fun events read => ?_, fun _ => readLines_eq_error_iff_first,
    fun _ fails _ same => readLines_eq_error_of_take_eq fails same⟩
  have gives := readLines_eq_ok_iff.mp read
  exact ⟨gives.map_readLine_eventLines, gives.ordered.1⟩

/-- Line 5 is earlier than line 4, so that it does not matter that line 6 is malformed. The lines in
front of line 5 make a trace.
-/
theorem parse_first_fault_out_of_order
    : let start := "5 press # go\r\n\n  # note\n9 release\n"
      let s := start ++ "7 press\nabc press"
      (∀ t, (Text.lines t).take 5 = (Text.lines s).take 5 → parse t = .error ⟨5, .outOfOrder 7 9⟩)
      ∧ (∃ n,
        5 = n + 1
        ∧ IsFaultyAt (Text.lines s) n (.outOfOrder 7 9)
        ∧ ∀ m < n, ∀ other, ¬ IsFaultyAt (Text.lines s) m other)
      ∧ (∃ events, parse start = .ok events)
      ∧ ((eventLines (Text.lines start)).filterMap lineTime?).IsChain (· ≤ ·) := by
  intro start s
  have fails : parse s = .error ⟨5, .outOfOrder 7 9⟩ := by decide +kernel
  have read : ∃ events, parse start = .ok events :=
    ⟨[⟨5, .press, none, ∅⟩, ⟨9, .release, none, ∅⟩], by decide +kernel⟩
  obtain ⟨_, _, failure, same⟩ := parse_first_fault s
  exact ⟨same _ fails, (failure _).mp fails, read, ((parse_first_fault start).1.mp read).2⟩

end EscapeKey.Trace
