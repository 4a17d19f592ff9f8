import EscapeKey.Proofs.Counter.Elapsed
import EscapeKey.Proofs.Tap.Histories

/-! Runs of presses under the multi-tap policy. A run is told from the history alone: where it
starts, how many presses it has and which press completes it. The machine keeps no more of it
than the reading of its first press and a count.
-/

namespace EscapeKey.Tap

variable {τ : Type} [Counter τ]

-----------------------------------------------------------------------------------------
-- Where runs start
-----------------------------------------------------------------------------------------

namespace History

/-- Press `n + 1` begins a run, where the latest one began at `start`: it is a single tap directly
after a repeat tap, or it comes after a single tap when the term of the latest run is over.
-/
def BeginsRun (p : History τ) (term : UInt32) (start n : Nat) : Prop :=
  (p.decision n = .repeatTap ∧ p.decision (n + 1) = .singleTap)
  ∨ (p.decision n = .singleTap
    ∧ term.toNat ≤ Counter.elapsed (p.reading (n + 1)) (p.reading start))

instance (p : History τ) (term : UInt32) (start n : Nat)
    : Decidable (p.BeginsRun term start n) :=
  inferInstanceAs (Decidable (_ ∧ _ ∨ _ ∧ _))

/-- The latest start of a run among the presses up to `n`. The first press starts one. -/
def runStart (p : History τ) (term : UInt32) : Nat → Nat
  | 0 => 0
  | n + 1 =>
    if p.BeginsRun term (p.runStart term n) n then n + 1 else p.runStart term n

def IsRunStart (p : History τ) (term : UInt32) : Nat → Prop
  | 0 => True
  | n + 1 => p.BeginsRun term (p.runStart term n) n

/-- The latest start is one, and no press behind it is, by induction on the presses. -/
theorem runStart_latest (p : History τ) (term : UInt32) (n : Nat)
    : p.runStart term n ≤ n
      ∧ p.IsRunStart term (p.runStart term n)
      ∧ ∀ i, p.runStart term n < i → i ≤ n → ¬ p.IsRunStart term i := by
  induction n with
  | zero => exact ⟨Nat.le_refl 0, trivial, fun i after upTo => by omega⟩
  | succ n ih =>
      obtain ⟨upTo, starts, latest⟩ := ih
      rw [runStart]
      split
      case isTrue begins => exact ⟨Nat.le_refl _, begins, fun i after le => by omega⟩
      case isFalse goesOn =>
        refine ⟨Nat.le_succ_of_le upTo, starts, ?_⟩
        intro i after le
        rcases Nat.le_succ_iff.mp le with earlier | rfl
        · exact latest i after earlier
        · exact goesOn

-----------------------------------------------------------------------------------------
-- How one press follows another
-----------------------------------------------------------------------------------------

/-- The number of presses that complete a run. -/
def runLength (taps : UInt8) : Nat :=
  max taps.toNat 2

/-- All that press `n + 1` can be after press `n`. After a repeat tap it repeats again, or else it
is late and begins a run. After a single tap it completes the run of that press, proceeds with it
or, when the term is over, begins one.
-/
inductive Follows (p : History τ) (timeout term : UInt32) (taps : UInt8) (n : Nat) : Prop where
  | stay (latched : p.decision n = .repeatTap) (next : p.decision (n + 1) = .repeatTap)
    (soon : Counter.elapsed (p.reading (n + 1)) (p.reading n) < timeout.toNat)
  | restart (latched : p.decision n = .repeatTap) (next : p.decision (n + 1) = .singleTap)
    (late : timeout.toNat ≤ Counter.elapsed (p.reading (n + 1)) (p.reading n))
    (start : p.runStart term (n + 1) = n + 1)
  | complete (idle : p.decision n = .singleTap) (next : p.decision (n + 1) = .repeatTap)
    (soon
      : Counter.elapsed (p.reading (n + 1)) (p.reading (p.runStart term n)) < term.toNat)
    (start : p.runStart term (n + 1) = p.runStart term n)
    (full : n + 2 = p.runStart term n + runLength taps)
  | proceed (idle : p.decision n = .singleTap) (next : p.decision (n + 1) = .singleTap)
    (soon
      : Counter.elapsed (p.reading (n + 1)) (p.reading (p.runStart term n)) < term.toNat)
    (start : p.runStart term (n + 1) = p.runStart term n)
    (short : n + 2 < p.runStart term n + runLength taps)
  | begin (idle : p.decision n = .singleTap) (next : p.decision (n + 1) = .singleTap)
    (start : p.runStart term (n + 1) = n + 1)

/-- What the machine keeps of a history up to press `n`: after a repeat tap it is latched, and
after a single tap it has the first reading of the latest run and counts its presses.
-/
def kept (p : History τ) (term : UInt32) (n : Nat) : State τ :=
  match p.decision n with
  | .repeatTap => ⟨.latched, some (p.reading n), none, 0⟩
  | .singleTap =>
    ⟨.idle, some (p.reading n), some (p.reading (p.runStart term n)),
      n + 1 - p.runStart term n⟩

theorem runStart_of_begins {p : History τ} {term : UInt32} {n : Nat}
    (begins : p.BeginsRun term (p.runStart term n) n)
    : p.runStart term (n + 1) = n + 1 :=
  if_pos begins

/-- A press does not begin a run within the term of the latest one, if it comes after a single
tap.
-/
theorem runStart_of_soon {p : History τ} {term : UInt32} {n : Nat}
    (idle : p.decision n = .singleTap)
    (soon : Counter.elapsed (p.reading (n + 1)) (p.reading (p.runStart term n)) < term.toNat)
    : p.runStart term (n + 1) = p.runStart term n := by
  apply if_neg
  rintro (⟨latched, _⟩ | ⟨_, late⟩)
  · exact absurd (latched.symm.trans idle) (by decide)
  · exact absurd late (Nat.not_le.mpr soon)

/-- A press of a machine that has kept a history with an unfinished run. Witness: cases on what
the press does, where the count of the run stays within a byte because the run is unfinished.
-/
theorem follows_of_pressed {p : History τ} {s : Settings} {taps : UInt8} {term : UInt32}
    {n : Nat} {after : State τ} (policy : s.policy = .multiTap taps term)
    (unfinished
      : p.decision n = .singleTap → n + 1 < p.runStart term n + runLength taps)
    (pressed
      : State.Pressed s (p.reading (n + 1)) (p.kept term n) (p.decision (n + 1)) after)
    : p.Follows s.timeout term taps n ∧ after = p.kept term (n + 1) := by
  generalize next : p.decision (n + 1) = decision at pressed
  cases last : p.decision n with
  | repeatTap =>
      rw [kept, last] at pressed
      cases pressed with
      | stay soon => exact ⟨.stay last next (isWithin_some_iff.mp soon), by rw [kept, next]⟩
      | unlatch toggles _ => exact absurd (policy.symm.trans toggles) nofun
      | restart _ late =>
          have start : p.runStart term (n + 1) = n + 1 := runStart_of_begins (.inl ⟨last, next⟩)
          refine ⟨.restart last next (isWithin_some_eq_false_iff.mp late) start, ?_⟩
          rw [kept, next, start, Nat.add_sub_cancel_left]
  | singleTap =>
      have unfinished := unfinished last
      have upTo : p.runStart term n ≤ n := (p.runStart_latest term n).1
      have byte : runLength taps ≤ 255 := by
        have := taps.toNat_lt
        rw [runLength]
        omega
      rw [kept, last] at pressed
      cases pressed with
      | latch toggles _ | wait toggles _ => exact absurd (policy.symm.trans toggles) nofun
      | complete counts soon enough =>
          obtain ⟨rfl, rfl⟩ := Policy.multiTap.inj (policy.symm.trans counts)
          have soon := isWithin_some_iff.mp soon
          rw [← runLength] at enough
          refine ⟨.complete last next soon (runStart_of_soon last soon) (by omega), ?_⟩
          rw [kept, next]
      | proceed counts soon short =>
          obtain ⟨rfl, rfl⟩ := Policy.multiTap.inj (policy.symm.trans counts)
          have soon := isWithin_some_iff.mp soon
          rw [← runLength] at short
          have start := runStart_of_soon last soon
          refine ⟨.proceed last next soon start (by omega), ?_⟩
          have count : min (n + 1 - p.runStart term n + 1) 255 = n + 2 - p.runStart term n := by
            omega
          rw [kept, next, start, count]
      | begin counts late =>
          obtain ⟨rfl, rfl⟩ := Policy.multiTap.inj (policy.symm.trans counts)
          have late := isWithin_some_eq_false_iff.mp late
          have start : p.runStart term (n + 1) = n + 1 := runStart_of_begins (.inr ⟨last, late⟩)
          refine ⟨.begin last next start, ?_⟩
          rw [kept, next, start, Nat.add_sub_cancel_left]

/-- A run that a single tap leaves unfinished has fewer presses than complete one. -/
theorem Follows.unfinished {p : History τ} {timeout term : UInt32} {taps : UInt8} {n : Nat}
    (follows : p.Follows timeout term taps n) (single : p.decision (n + 1) = .singleTap)
    : n + 2 < p.runStart term (n + 1) + runLength taps := by
  have atLeastTwo : 2 ≤ runLength taps := Nat.le_max_right _ _
  cases follows with
  | stay _ next _ | complete _ next _ _ _ => exact absurd (next.symm.trans single) nofun
  | restart _ _ _ start | begin _ _ start => omega
  | proceed _ _ _ start short => omega

/-- The first press of a cleared machine begins a run. -/
theorem kept_of_first {p : History τ} {s : Settings} {taps : UInt8} {term : UInt32}
    {after : State τ} (policy : s.policy = .multiTap taps term)
    (pressed : State.Pressed s (p.reading 0) State.initial (p.decision 0) after)
    : p.decision 0 = .singleTap ∧ after = p.kept term 0 := by
  generalize next : p.decision 0 = decision at pressed
  cases pressed with
  | begin => exact ⟨rfl, by rw [kept, next]; rfl⟩
  | latch toggles _ | wait toggles _ => exact absurd (policy.symm.trans toggles) nofun
  | complete _ soon _ | proceed _ soon _ => exact absurd soon nofun

/-- Along its history a cleared machine is in the state that it has kept, and no run grows past its
length, by induction on the presses.
-/
theorem before_succ_eq_kept {s : Settings} {taps : UInt8} {term : UInt32}
    (policy : s.policy = .multiTap taps term) (reading : Nat → τ) (n : Nat)
    : let p := s.history reading
      State.before s reading (n + 1) = p.kept term n
      ∧ (p.decision n = .singleTap → n + 1 < p.runStart term n + runLength taps) := by
  intro p
  induction n with
  | zero =>
      obtain ⟨_, state⟩ := kept_of_first (p := p) policy (State.pressed_before s reading 0)
      refine ⟨state, fun _ => ?_⟩
      simp only [runStart, runLength]
      omega
  | succ n ih =>
      obtain ⟨state, unfinished⟩ := ih
      have pressed := State.pressed_before s reading (n + 1)
      rw [state] at pressed
      obtain ⟨follows, kept⟩ := follows_of_pressed policy unfinished pressed
      exact ⟨kept, follows.unfinished⟩

/-- A history begins with a single tap, and each further press follows the one before in one of the
ways of the multi-tap policy.
-/
structure IsMultiTap (p : History τ) (timeout term : UInt32) (taps : UInt8) : Prop where
  first : p.decision 0 = .singleTap
  follows : ∀ n, p.Follows timeout term taps n

/-- Cleared machines under the multi-tap policy have such histories. -/
theorem isMultiTap {s : Settings} {taps : UInt8} {term : UInt32}
    (policy : s.policy = .multiTap taps term) (reading : Nat → τ)
    : (s.history reading).IsMultiTap s.timeout term taps where
  first := (kept_of_first policy (State.pressed_before s reading 0)).1
  follows n := by
    obtain ⟨state, unfinished⟩ := before_succ_eq_kept policy reading n
    have pressed := State.pressed_before s reading (n + 1)
    rw [state] at pressed
    exact (follows_of_pressed policy unfinished pressed).1

-----------------------------------------------------------------------------------------
-- What the history tells of its runs
-----------------------------------------------------------------------------------------

namespace IsMultiTap

variable {p : History τ} {timeout term : UInt32} {taps : UInt8}

/-- Behind a repeat tap a press repeats exactly within the timeout. -/
theorem repeats_iff_soon (told : p.IsMultiTap timeout term taps) {n : Nat}
    (latched : p.decision n = .repeatTap)
    : p.decision (n + 1) = .repeatTap
      ↔ Counter.elapsed (p.reading (n + 1)) (p.reading n) < timeout.toNat := by
  cases told.follows n with
  | stay _ next soon => exact iff_of_true next soon
  | restart _ next late _ =>
      exact iff_of_false (by rw [next]; nofun) (Nat.not_lt.mpr late)
  | complete idle | proceed idle | begin idle =>
      exact absurd (latched.symm.trans idle) nofun

/-- A press that is the first or comes after a single tap repeats exactly if it completes the latest
run.
-/
theorem repeats_iff_completes (told : p.IsMultiTap timeout term taps) {n : Nat}
    (idle : n = 0 ∨ ∃ i, n = i + 1 ∧ p.decision i = .singleTap)
    : p.decision n = .repeatTap ↔ n + 1 = p.runStart term n + runLength taps := by
  have atLeastTwo : 2 ≤ runLength taps := Nat.le_max_right _ _
  rcases idle with rfl | ⟨n, rfl, idle⟩
  · refine iff_of_false (by rw [told.first]; nofun) ?_
    simp only [runStart]
    omega
  · cases told.follows n with
    | stay latched | restart latched => exact absurd (latched.symm.trans idle) nofun
    | complete _ next _ start full => exact iff_of_true next (by omega)
    | proceed _ next _ start short => exact iff_of_false (by rw [next]; nofun) (by omega)
    | begin _ next start => exact iff_of_false (by rw [next]; nofun) (by omega)

/-- Up to a single tap the latest run has single taps only, and all but its first one come within
the term of that, by induction on the presses.
-/
theorem single_of_mem_run (told : p.IsMultiTap timeout term taps) {n i : Nat}
    (idle : p.decision n = .singleTap) (begun : p.runStart term n ≤ i) (upTo : i ≤ n)
    : p.decision i = .singleTap
      ∧ (i = p.runStart term n
        ∨ Counter.elapsed (p.reading i) (p.reading (p.runStart term n)) < term.toNat) := by
  induction n with
  | zero =>
      obtain rfl := Nat.le_zero.mp upTo
      exact ⟨idle, .inl rfl⟩
  | succ n ih =>
      cases told.follows n with
      | stay _ next | complete _ next => exact absurd (next.symm.trans idle) nofun
      | restart _ _ _ start | begin _ _ start =>
          obtain rfl : i = n + 1 := by omega
          exact ⟨idle, .inl start.symm⟩
      | proceed before _ soon start =>
          rw [start] at begun ⊢
          rcases Nat.le_succ_iff.mp upTo with earlier | rfl
          · exact ih before begun earlier
          · exact ⟨idle, .inr soon⟩

/-- A press that latches completes the run of the press before, within the term of its first one. -/
theorem completes_of_latches (told : p.IsMultiTap timeout term taps) {n : Nat}
    (idle : p.decision n = .singleTap) (latches : p.decision (n + 1) = .repeatTap)
    : p.runStart term n + runLength taps = n + 2
      ∧ Counter.elapsed (p.reading (n + 1)) (p.reading (p.runStart term n)) < term.toNat := by
  cases told.follows n with
  | stay latched | restart latched => exact absurd (latched.symm.trans idle) nofun
  | complete _ _ soon _ full => exact ⟨full.symm, soon⟩
  | proceed _ next | begin _ next => exact absurd (next.symm.trans latches) nofun

/-- Single taps in front of a press that latches, back to a repeat tap or to the first press, are
enough for a run. Witness: the completed run does not reach back over a repeat tap.
-/
theorem runLength_le_of_block (told : p.IsMultiTap timeout term taps) {first last : Nat}
    (bounded : first = 0 ∨ ∃ i, first = i + 1 ∧ p.decision i = .repeatTap)
    (nonempty : first < last) (singles : ∀ i, first ≤ i → i < last → p.decision i = .singleTap)
    (latches : p.decision last = .repeatTap)
    : runLength taps ≤ last - first + 1 := by
  obtain ⟨n, rfl⟩ := Nat.exists_eq_add_one_of_ne_zero (Nat.ne_zero_of_lt nonempty)
  have idle : p.decision n = .singleTap :=
    singles n (Nat.le_of_lt_succ nonempty) (Nat.lt_succ_self n)
  obtain ⟨full, _⟩ := told.completes_of_latches idle latches
  have inside : first ≤ p.runStart term n := by
    rcases bounded with rfl | ⟨i, rfl, latched⟩
    · exact Nat.zero_le _
    · by_contra outside
      obtain ⟨single, _⟩ := told.single_of_mem_run idle (by omega) (by omega : i ≤ n)
      exact absurd (latched.symm.trans single) nofun
  omega

end IsMultiTap

end History

/-- The law of runs under the multi-tap policy, for a counter of any width. The latest start of a
run is told from the history: the first press starts one, and so does a single tap directly after
a repeat tap and a press after a single tap when the term is over since the latest start. A press
after a repeat tap repeats exactly within the timeout of it; any other press repeats exactly if it
is the last of as many presses from the latest start as complete a run. So each latch comes behind
as many single taps as it takes but one, and it and they lie within the term of the first of them;
and no shorter block of single taps stands in front of a repeat tap.
-/
theorem multiTap_runs {w : Nat} (s : Settings) {taps : UInt8} {term : UInt32}
    (policy : s.policy = .multiTap taps term) (reading : Nat → BitVec w)
    : let k := max taps.toNat 2
      let p := s.history reading
      let d := p.decision
      let start := p.runStart term
      (∀ (st : State (BitVec w)) (n : Nat),
          st.decisions s (.clear :: pressesBefore reading n) = (List.range n).map d)
      ∧ (∀ n, start n ≤ n
          ∧ p.IsRunStart term (start n)
          ∧ ∀ i, start n < i → i ≤ n → ¬ p.IsRunStart term i)
      ∧ (∀ n, d n = .repeatTap
          → (d (n + 1) = .repeatTap
            ↔ Counter.elapsed (reading (n + 1)) (reading n) < s.timeout.toNat))
      ∧ (∀ n, (n = 0 ∨ ∃ i, n = i + 1 ∧ d i = .singleTap)
          → (d n = .repeatTap ↔ n + 1 = start n + k))
      ∧ (∀ n, d n = .singleTap
          → d (n + 1) = .repeatTap
          → ∃ first, first + k = n + 2
            ∧ (∀ i, first ≤ i → i ≤ n → d i = .singleTap)
            ∧ ∀ i, first ≤ i → i ≤ n + 1
              → Counter.elapsed (reading i) (reading first) < term.toNat)
      ∧ ∀ first last, (first = 0 ∨ ∃ i, first = i + 1 ∧ d i = .repeatTap)
          → first < last
          → (∀ i, first ≤ i → i < last → d i = .singleTap)
          → d last = .repeatTap
          → k - 1 ≤ last - first := by
  intro k p d start
  have told : p.IsMultiTap s.timeout term taps := History.isMultiTap policy reading
  refine ⟨State.decisions_clear s reading, p.runStart_latest term,
    fun n => told.repeats_iff_soon, fun n => told.repeats_iff_completes, ?_, ?_⟩
  · intro n idle latches
    obtain ⟨full, soon⟩ := told.completes_of_latches idle latches
    refine ⟨start n, full, ?_, ?_⟩
    · intro i begun upTo
      exact (told.single_of_mem_run idle begun upTo).1
    · intro i begun upTo
      rcases Nat.le_succ_iff.mp upTo with earlier | rfl
      · obtain ⟨_, rfl | within⟩ := told.single_of_mem_run idle begun earlier
        · rw [Counter.elapsed_self]
          exact Nat.zero_lt_of_lt soon
        · exact within
      · exact soon
  · intro first last bounded nonempty singles latches
    have enough : k ≤ last - first + 1 :=
      told.runLength_le_of_block bounded nonempty singles latches
    omega

/-- Presses over a rollover of the counter of 16 bits, where three within 400 ms latch. The third
is too late and starts a run anew, the fifth completes it, the sixth repeats, and the seventh
starts the run that the ninth completes.
-/
theorem multiTap_runs_restarted
    : let s : Settings := { Settings.standard with policy := .multiTap 3 400 }
      let readings : List (BitVec 16) := [65100, 65200, 64, 164, 264, 964, 2464, 2564, 2664]
      let reading := fun n => readings.getD n 0
      let p := s.history reading
      s.policy = .multiTap 3 400
      ∧ (List.range 9).map p.decision
        = [.singleTap, .singleTap, .singleTap, .singleTap, .repeatTap, .repeatTap, .singleTap,
          .singleTap, .repeatTap]
      ∧ (List.range 9).map (p.runStart 400) = [0, 0, 2, 2, 2, 2, 6, 6, 6]
      ∧ (p.decision 4 = .repeatTap ↔ 4 + 1 = p.runStart 400 4 + 3)
      ∧ (p.decision 6 = .repeatTap ↔ Counter.elapsed (reading 6) (reading 5) < 1000)
      ∧ ∃ first, first + 3 = 7 + 2
          ∧ (∀ i, first ≤ i → i ≤ 7 → p.decision i = .singleTap)
          ∧ ∀ i, first ≤ i → i ≤ 7 + 1
            → Counter.elapsed (reading i) (reading first) < 400 := by
  intro s readings reading p
  have policy : s.policy = .multiTap 3 400 := rfl
  obtain ⟨_, _, latched, idle, latch, _⟩ := multiTap_runs s policy reading
  exact ⟨policy, by decide, by decide, idle 4 (.inr ⟨3, rfl, by decide⟩), latched 5 (by decide),
    latch 7 (by decide) (by decide)⟩

end EscapeKey.Tap
