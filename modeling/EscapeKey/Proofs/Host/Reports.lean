import EscapeKey.Proofs.Host.DownKeys

/-! The report log as a history of keys going down and up. Whatever a host operation appends to
the log can be replayed on the keys that were down before it, no report is idle, and the replay
ends with the keys that are down after it.
-/

namespace EscapeKey.Host

def Report.key : Report → Key
  | .press k | .release k => k

/-- The keys that are down after a report, in press order. -/
def Report.after (down : List Key) : Report → List Key
  | .press k => down ++ [k]
  | .release k => down.erase k

/-- Only a key that is up goes down, and only a key that is down goes up. -/
def Report.IsLegal (down : List Key) : Report → Prop
  | .press k => k ∉ down
  | .release k => k ∈ down

/-- The keys that are down after the reports, in press order. -/
def replayed (down : List Key) (reports : List Report) : List Key :=
  reports.foldl Report.after down

/-- Every report is legal for the keys that are down when it is made. -/
def IsHistory (down : List Key) : List Report → Prop
  | [] => True
  | report :: rest => report.IsLegal down ∧ IsHistory (report.after down) rest

/-- The second host is the first one after making these reports. -/
structure Sends (h : Host) (sent : List Report) (next : Host) : Prop where
  reports : next.reports = h.reports ++ sent
  history : IsHistory h.pressed.toList sent
  pressed : replayed h.pressed.toList sent = next.pressed.toList

-----------------------------------------------------------------------------------------
-- Histories in sequence
-----------------------------------------------------------------------------------------

theorem IsHistory.append {down : List Key} {first second : List Report}
    (before : IsHistory down first) (after : IsHistory (replayed down first) second)
    : IsHistory down (first ++ second) := by
  induction first generalizing down with
  | nil => exact after
  | cons report rest ih => exact ⟨before.1, ih before.2 after⟩

theorem Sends.none {h next : Host} (reports : next.reports = h.reports)
    (pressed : next.pressed = h.pressed)
    : h.Sends [] next where
  reports := by rw [reports, List.append_nil]
  history := trivial
  pressed := congrArg PressedKeys.toList pressed.symm

/-- What two operations report in sequence is one history. -/
theorem Sends.append {h middle next : Host} {first second : List Report}
    (before : h.Sends first middle) (after : middle.Sends second next)
    : h.Sends (first ++ second) next where
  reports := by rw [after.reports, before.reports, List.append_assoc]
  history := by
    have start := after.history
    rw [← before.pressed] at start
    exact before.history.append start
  pressed := by
    rw [← after.pressed, ← before.pressed]
    exact List.foldl_append

-----------------------------------------------------------------------------------------
-- Pressing and releasing keys
-----------------------------------------------------------------------------------------

theorem sends_press {h : Host} {k : Key} (up : k ∉ h.pressed)
    : h.Sends [.press k] (h.press k) := by
  have absent : ¬ h.pressed.contains k = true :=
    fun down => up (PressedKeys.contains_iff.mp down)
  rw [press, if_neg absent]
  refine ⟨rfl, ⟨up, trivial⟩, ?_⟩
  change h.pressed.toList ++ [k] = (h.pressed.insert k).toList
  rw [PressedKeys.insert, dif_neg absent]

theorem sends_release {h : Host} {k : Key} (down : k ∈ h.pressed)
    : h.Sends [.release k] (h.release k) := by
  rw [release, if_pos (PressedKeys.contains_iff.mpr down)]
  exact ⟨rfl, ⟨down, trivial⟩, rfl⟩

/-- A press is reported or changes nothing, and so is a release. -/
theorem exists_sends_press (h : Host) (k : Key)
    : ∃ sent, h.Sends sent (h.press k) ∧ ∀ r ∈ sent, r = .press k := by
  by_cases down : k ∈ h.pressed
  · have same : h.press k = h := if_pos (PressedKeys.contains_iff.mpr down)
    exact ⟨[], .none (by rw [same]) (by rw [same]), by simp⟩
  · exact ⟨[.press k], sends_press down, by simp⟩

theorem exists_sends_release (h : Host) (k : Key)
    : ∃ sent, h.Sends sent (h.release k) ∧ ∀ r ∈ sent, r = .release k := by
  by_cases down : k ∈ h.pressed
  · exact ⟨[.release k], sends_release down, by simp⟩
  · have same : h.release k = h := if_neg (mt PressedKeys.contains_iff.mp down)
    exact ⟨[], .none (by rw [same]) (by rw [same]), by simp⟩

/-- Moving keys one after the other reports moves of these keys only, by induction on the
keys.
-/
theorem exists_sends_foldl {move : Host → Key → Host} {report : Key → Report}
    (one : ∀ (h : Host) (k : Key),
      ∃ sent, h.Sends sent (move h k) ∧ ∀ r ∈ sent, r = report k)
    (h : Host) (ks : List Key)
    : ∃ sent, h.Sends sent (ks.foldl move h) ∧ ∀ r ∈ sent, ∃ k ∈ ks, r = report k := by
  induction ks generalizing h with
  | nil => exact ⟨[], .none rfl rfl, by simp⟩
  | cons k rest ih =>
      obtain ⟨first, sendsFirst, firstOnly⟩ := one h k
      obtain ⟨later, sendsLater, laterOnly⟩ := ih (move h k)
      refine ⟨first ++ later, sendsFirst.append sendsLater, ?_⟩
      intro r member
      rcases List.mem_append.mp member with early | late
      · exact ⟨k, List.mem_cons_self, firstOnly r early⟩
      · obtain ⟨x, listed, same⟩ := laterOnly r late
        exact ⟨x, List.mem_cons_of_mem k listed, same⟩

theorem exists_sends_foldl_press (h : Host) (ks : List Key)
    : ∃ sent, h.Sends sent (ks.foldl press h) ∧ ∀ r ∈ sent, ∃ k ∈ ks, r = .press k :=
  exists_sends_foldl exists_sends_press h ks

theorem exists_sends_foldl_release (h : Host) (ks : List Key)
    : ∃ sent, h.Sends sent (ks.foldl release h) ∧ ∀ r ∈ sent, ∃ k ∈ ks, r = .release k :=
  exists_sends_foldl exists_sends_release h ks

/-- Letting keys go and then pressing others reports nothing else. -/
theorem exists_sends_exchange (h : Host) (gone new : List Key)
    : ∃ sent, h.Sends sent (new.foldl press (gone.foldl release h))
      ∧ ∀ r ∈ sent, (∃ k ∈ gone, r = .release k) ∨ (∃ k ∈ new, r = .press k) := by
  obtain ⟨first, sendsFirst, firstOnly⟩ := exists_sends_foldl_release h gone
  obtain ⟨later, sendsLater, laterOnly⟩ := exists_sends_foldl_press (gone.foldl release h) new
  refine ⟨first ++ later, sendsFirst.append sendsLater, ?_⟩
  intro r member
  rcases List.mem_append.mp member with early | late
  · exact .inl (firstOnly r early)
  · exact .inr (laterOnly r late)

end EscapeKey.Host
