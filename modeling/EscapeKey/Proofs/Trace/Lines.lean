import EscapeKey.Proofs.Except
import EscapeKey.Trace.Reading

/-! The lines of a trace, read one after the other. Lines that are read give their events in order,
with times that never go back, and what stands behind them is read as the rest of the trace.
-/

namespace EscapeKey.Trace

/-- The times of the events never decrease. -/
def Ordered (events : List Event) : Prop :=
  events.Pairwise (·.time ≤ ·.time)

instance (events : List Event) : Decidable (Ordered events) :=
  inferInstanceAs (Decidable (List.Pairwise _ _))

/-- The event is no earlier than the time, if there is one. -/
def Event.Follows (e : Event) (previous : Option UInt64) : Prop :=
  ∀ time ∈ previous, time ≤ e.time

theorem Event.follows_none (e : Event) : e.Follows none :=
  nofun

theorem Event.follows_some {e : Event} {time : UInt64} : e.Follows (some time) ↔ time ≤ e.time := by
  simp [Follows]

/-- The time of the last event, or the time before them if there is none. -/
def latest (previous : Option UInt64) (events : List Event) : Option UInt64 :=
  events.foldl (fun _ e => some e.time) previous

/-- Behind an event at the time `previous`, the lines give the events. A line that is blank up to
its comment gives none.
-/
inductive LinesGive : Option UInt64 → List (List Char) → List Event → Prop where
  | nil {previous} : LinesGive previous [] []
  | blank {previous line lines events} (read : readLine line = .ok none)
    (rest : LinesGive previous lines events)
    : LinesGive previous (line :: lines) events
  | event {previous line lines e events} (read : readLine line = .ok (some e))
    (follows : e.Follows previous) (rest : LinesGive (some e.time) lines events)
    : LinesGive previous (line :: lines) (e :: events)

/-- Behind an event at the time `previous` the line is at fault: it is malformed or gives an
earlier event.
-/
inductive IsFaulty (previous : Option UInt64) (line : List Char) : Fault → Prop where
  | malformed {fault} (read : readLine line = .error fault)
    : IsFaulty previous line (.malformed fault)
  | early {e time} (read : readLine line = .ok (some e)) (before : previous = some time)
    (early : e.time < time)
    : IsFaulty previous line (.outOfOrder e.time time)

-----------------------------------------------------------------------------------------
-- Reading a line and then the rest
-----------------------------------------------------------------------------------------

variable {n : Nat} {previous : Option UInt64} {line : List Char}

theorem readLines_blank (read : readLine line = .ok none) (rest : List (List Char))
    : readLines n previous (line :: rest) = readLines (n + 1) previous rest := by
  rw [readLines, read]

theorem readLines_malformed {fault : LineFault} (read : readLine line = .error fault)
    (rest : List (List Char))
    : readLines n previous (line :: rest) = .error ⟨n, .malformed fault⟩ := by
  rw [readLines, read]

theorem readLines_event {e : Event} (read : readLine line = .ok (some e))
    (follows : e.Follows previous) (rest : List (List Char))
    : readLines n previous (line :: rest)
      = (e :: ·) <$> readLines (n + 1) (some e.time) rest := by
  rw [readLines, read]
  cases previous with
  | none => rfl
  | some time => exact if_neg (UInt64.not_lt.mpr (Event.follows_some.mp follows))

theorem readLines_early {e : Event} {time : UInt64} (read : readLine line = .ok (some e))
    (early : e.time < time) (rest : List (List Char))
    : readLines n (some time) (line :: rest) = .error ⟨n, .outOfOrder e.time time⟩ := by
  rw [readLines, read]
  exact if_pos early

/-- A blank line at the end changes nothing, not even where an earlier line is at fault. -/
theorem readLines_append_blank (read : readLine line = .ok none) (lines : List (List Char))
    : readLines n previous (lines ++ [line]) = readLines n previous lines := by
  induction lines generalizing n previous with
  | nil => exact readLines_blank read []
  | cons first rest ih => simp only [List.cons_append, readLines, ih]

/-- All that a line can be behind an event at the time `previous`. -/
theorem line_cases (previous : Option UInt64) (line : List Char)
    : readLine line = .ok none
      ∨ (∃ e : Event, readLine line = .ok (some e) ∧ e.Follows previous)
      ∨ ∃ fault, IsFaulty previous line fault := by
  cases read : readLine line with
  | error fault => exact .inr (.inr ⟨_, .malformed read⟩)
  | ok found =>
      cases found with
      | none => exact .inl rfl
      | some e =>
          by_cases follows : e.Follows previous
          · exact .inr (.inl ⟨e, rfl, follows⟩)
          · cases previous with
            | none => exact absurd e.follows_none follows
            | some time =>
                have early : e.time < time :=
                  UInt64.not_le.mp (mt Event.follows_some.mpr follows)
                exact .inr (.inr ⟨_, .early read rfl early⟩)

theorem IsFaulty.readLines_eq {fault : Fault} (faulty : IsFaulty previous line fault)
    (rest : List (List Char))
    : readLines n previous (line :: rest) = .error ⟨n, fault⟩ := by
  cases faulty with
  | malformed read => exact readLines_malformed read rest
  | early read before early =>
      subst before
      exact readLines_early read early rest

/-- Lines give events, or one of them is at fault behind lines that do, by induction on the
lines.
-/
theorem linesGive_or_isFaulty (previous : Option UInt64) (lines : List (List Char))
    : (∃ events, LinesGive previous lines events)
      ∨ ∃ before line after events fault,
        lines = before ++ line :: after
        ∧ LinesGive previous before events
        ∧ IsFaulty (latest previous events) line fault := by
  induction lines generalizing previous with
  | nil => exact .inl ⟨[], .nil⟩
  | cons line rest ih =>
      rcases line_cases previous line with read | ⟨e, read, follows⟩ | ⟨fault, faulty⟩
      · rcases ih previous with
          ⟨events, gives⟩ | ⟨before, bad, after, events, fault, rfl, gives, faulty⟩
        · exact .inl ⟨events, .blank read gives⟩
        · exact .inr ⟨line :: before, bad, after, events, fault, rfl,
            .blank read gives, faulty⟩
      · rcases ih (some e.time) with
          ⟨events, gives⟩ | ⟨before, bad, after, events, fault, rfl, gives, faulty⟩
        · exact .inl ⟨e :: events, .event read follows gives⟩
        · exact .inr ⟨line :: before, bad, after, e :: events, fault, rfl,
            .event read follows gives, faulty⟩
      · exact .inr ⟨[], line, rest, [], fault, rfl, .nil, faulty⟩

-----------------------------------------------------------------------------------------
-- Facts about lines that give events
-----------------------------------------------------------------------------------------

namespace LinesGive

variable {lines : List (List Char)} {events : List Event}

/-- Lines that give events are read, whatever number the first one has. -/
theorem readLines_eq (gives : LinesGive previous lines events) (n : Nat)
    : readLines n previous lines = .ok events := by
  induction gives generalizing n with
  | nil => rfl
  | blank read _ ih => rw [readLines_blank read, ih]
  | event read follows _ ih =>
      rw [readLines_event read follows, ih]
      rfl

/-- What stands behind lines that give events is read as the rest of the trace. -/
theorem readLines_append (gives : LinesGive previous lines events) (n : Nat)
    (rest : List (List Char))
    : readLines n previous (lines ++ rest)
      = (events ++ ·) <$> readLines (n + lines.length) (latest previous events) rest := by
  induction gives generalizing n with
  | nil => exact (id_map _).symm
  | @blank previous line lines events read _ ih =>
      rw [List.cons_append, readLines_blank read, ih, List.length_cons, Nat.add_right_comm,
        Nat.add_assoc]
  | @event previous line lines e events read follows _ ih =>
      have behind : n + (line :: lines).length = n + 1 + lines.length := by
        rw [List.length_cons, Nat.add_right_comm, Nat.add_assoc]
      rw [List.cons_append, readLines_event read follows, ih, behind, ← comp_map]
      rfl

/-- Behind lines that give events, a line at fault ends the reading. -/
theorem readLines_isFaulty (gives : LinesGive previous lines events) {fault : Fault}
    (faulty : IsFaulty (latest previous events) line fault) (n : Nat)
    (after : List (List Char))
    : readLines n previous (lines ++ line :: after) = .error ⟨n + lines.length, fault⟩ := by
  rw [gives.readLines_append, faulty.readLines_eq]
  rfl

/-- The events never go back in time, neither among themselves nor behind the time before. -/
theorem ordered (gives : LinesGive previous lines events)
    : Ordered events ∧ ∀ e ∈ events, e.Follows previous := by
  induction gives with
  | nil => exact ⟨.nil, by simp⟩
  | blank _ _ ih => exact ih
  | @event previous _ _ e events _ follows _ ih =>
      obtain ⟨later, after⟩ := ih
      have passed (x : Event) (member : x ∈ events) : e.time ≤ x.time :=
        Event.follows_some.mp (after x member)
      refine ⟨List.pairwise_cons.mpr ⟨passed, later⟩, ?_⟩
      intro x member time before
      rcases List.mem_cons.mp member with rfl | member
      · exact follows time before
      · exact UInt64.le_trans (follows time before) (passed x member)

end LinesGive

/-- The lines that are read are those that give events, whatever number the first one has. -/
theorem readLines_eq_ok_iff {lines : List (List Char)} {events : List Event}
    : readLines n previous lines = .ok events ↔ LinesGive previous lines events := by
  refine ⟨fun read => ?_, fun gives => gives.readLines_eq n⟩
  rcases linesGive_or_isFaulty previous lines with
    ⟨found, gives⟩ | ⟨before, line, after, found, fault, rfl, gives, faulty⟩
  · obtain rfl := Except.ok.inj ((gives.readLines_eq n).symm.trans read)
    exact gives
  · exact absurd ((gives.readLines_isFaulty faulty n after).symm.trans read) nofun

/-- Reading fails at the line that is at fault behind lines that give events. -/
theorem readLines_eq_error_iff {lines : List (List Char)} {error : Error}
    : readLines n previous lines = .error error
      ↔ ∃ before line after events,
        lines = before ++ line :: after
        ∧ LinesGive previous before events
        ∧ error.line = n + before.length
        ∧ IsFaulty (latest previous events) line error.fault := by
  constructor
  · intro fails
    rcases linesGive_or_isFaulty previous lines with
      ⟨found, gives⟩ | ⟨before, line, after, found, fault, rfl, gives, faulty⟩
    · exact absurd ((gives.readLines_eq n).symm.trans fails) nofun
    · obtain rfl := Except.error.inj ((gives.readLines_isFaulty faulty n after).symm.trans fails)
      exact ⟨before, line, after, found, rfl, gives, rfl, faulty⟩
  · rintro ⟨before, line, after, events, rfl, gives, number, faulty⟩
    rw [gives.readLines_isFaulty faulty, ← number]

end EscapeKey.Trace
