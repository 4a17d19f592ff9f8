import EscapeKey.Proofs.Counter.Elapsed

/-! A clock that is moved by hand beside the exact time. The time is counted without end, and what
the clock shows of it is the rest after whole periods of its counter, however often the counter has
started again and however far the clock was moved at once.
-/

namespace EscapeKey

namespace Clock

/-- The exact time after a move. -/
def Move.timeAfter (time : Nat) : Move → Nat
  | .advance ms => time + ms.toNat
  | .jump ms => ms.toNat

/-- The exact times at the points of a run: at its start and after each of the moves. -/
def times (start : Nat) : List Move → List Nat
  | [] => [start]
  | m :: rest => start :: times (m.timeAfter start) rest

/-- What a clock shows at the points of a run. -/
def shown {τ : Type} [Counter τ] (start : Nat) (moves : List Move) : List τ :=
  Counter.ofMillis start :: readings (Counter.ofMillis start) moves

/-- The points of a run on a counter of `w` bits, each with its exact time and what the clock
shows.
-/
def points (w : Nat) (start : Nat) (moves : List Move) : List (Nat × BitVec w) :=
  (times start moves).zip (shown start moves)

end Clock

namespace Counter

variable {w : Nat}

theorem value_ofMillis (time : Nat) : value (ofMillis time : BitVec w) = time % 2 ^ w :=
  BitVec.toNat_ofNat time w

theorem later_ofMillis (time ms : Nat)
    : later (ofMillis time : BitVec w) ms = ofMillis (time + ms) :=
  (BitVec.ofNat_add time ms).symm

/-- Between any two times, in whatever order, the counter measures their difference up to its
period.
-/
theorem elapsed_ofMillis (now earlier : Nat)
    : (elapsed (ofMillis now : BitVec w) (ofMillis earlier) : Int)
      = ((now : Int) - earlier) % (2 ^ w : Nat) := by
  have below : earlier % 2 ^ w ≤ 2 ^ w := Nat.le_of_lt (Nat.mod_lt _ (Nat.two_pow_pos w))
  change (((BitVec.ofNat w now - BitVec.ofNat w earlier).toNat : Nat) : Int) = _
  rw [BitVec.toNat_sub, BitVec.toNat_ofNat, BitVec.toNat_ofNat]
  calc (((2 ^ w - earlier % 2 ^ w + now % 2 ^ w) % 2 ^ w : Nat) : Int)
      = ((now : Int) % (2 ^ w : Nat) - (earlier : Int) % (2 ^ w : Nat) + (2 ^ w : Nat))
          % (2 ^ w : Nat) := by
        rw [Int.natCast_emod, Int.natCast_add, Int.natCast_sub below, Int.natCast_emod,
          Int.natCast_emod]
        congr 1
        omega
    _ = ((now : Int) - earlier) % (2 ^ w : Nat) := by
        rw [Int.add_emod_right, ← Int.sub_emod]

end Counter

namespace Clock

variable {w : Nat}

theorem move_ofMillis (time : Nat) (m : Move)
    : move (Counter.ofMillis time : BitVec w) m = Counter.ofMillis (m.timeAfter time) := by
  cases m with
  | advance ms => exact Counter.later_ofMillis time ms.toNat
  | jump ms => rfl

/-- The clock shows the exact times as far as its counter can, by induction on the moves. -/
theorem shown_eq (start : Nat) (moves : List Move)
    : shown (τ := BitVec w) start moves = (times start moves).map Counter.ofMillis := by
  induction moves generalizing start with
  | nil => rfl
  | cons m rest ih =>
      rw [times, List.map_cons, ← ih, shown, shown, readings, move_ofMillis]

theorem points_eq (start : Nat) (moves : List Move)
    : points w start moves
      = (times start moves).map fun time => (time, Counter.ofMillis time) := by
  have pairs := List.zip_map' (f := id) (g := Counter.ofMillis (τ := BitVec w))
    (l := times start moves)
  rw [points, shown_eq]
  simpa only [List.map_id, id_eq] using pairs

theorem reading_of_mem_points {start time : Nat} {moves : List Move} {reading : BitVec w}
    (reached : (time, reading) ∈ points w start moves)
    : reading = Counter.ofMillis time := by
  rw [points_eq] at reached
  obtain ⟨_, _, same⟩ := List.mem_map.mp reached
  cases same
  rfl

/-- A clock that is moved by hand is the ideal clock up to the period of its counter. At each point
of a run, from its start on, it shows the rest of the exact time. Between any two points, in whatever
order, the elapsed time is the difference of the exact times up to the period, and so it is the time
from the earlier one to the later one if that is shorter than the period.
-/
theorem points_exact (w : Nat) (start : UInt64) (moves : List Move)
    : (shown (τ := BitVec w) start.toNat moves).map Counter.value
        = (times start.toNat moves).map (· % 2 ^ w)
      ∧ ∀ time reading time' reading',
          (time, reading) ∈ points w start.toNat moves
          → (time', reading') ∈ points w start.toNat moves
          → (Counter.elapsed reading' reading : Int) = ((time' : Int) - time) % (2 ^ w : Nat)
            ∧ (time ≤ time'
              → time' - time < 2 ^ w
              → Counter.elapsed reading' reading = time' - time) := by
  constructor
  case left =>
    rw [shown_eq, List.map_map]
    apply List.map_congr_left
    intro time _
    exact Counter.value_ofMillis time
  case right =>
    intro time reading time' reading' reached reached'
    rw [reading_of_mem_points reached, reading_of_mem_points reached']
    refine ⟨Counter.elapsed_ofMillis time' time, ?_⟩
    intro ordered near
    exact (Counter.elapsed_ofNat ordered).trans (Nat.mod_eq_of_lt near)

/-- A clock of 16 bits that starts at the end of 64 bits and is advanced by more than three periods.
Then it jumps back to the end of the first period, is advanced as far as can be done at once, and
comes over one more rollover.
-/
theorem points_exact_past_64_bits
    : let start : UInt64 := 18446744073709551610
      let moves : List Move := [.advance 200000, .jump 65530, .advance 4294967295, .advance 10]
      let passed : Nat × BitVec 16 := (18446744073709751610, 3386)
      let back : Nat × BitVec 16 := (65530, 65530)
      let before : Nat × BitVec 16 := (4295032825, 65529)
      let last : Nat × BitVec 16 := (4295032835, 3)
      shown start.toNat moves = [65530, 3386, 65530, 65529, (3 : BitVec 16)]
      ∧ [65530, 3386, 65530, 65529, 3] = (times start.toNat moves).map (· % 2 ^ 16)
      ∧ (Counter.elapsed back.2 passed.2 : Int) = ((back.1 : Int) - passed.1) % (2 ^ 16 : Nat)
      ∧ Counter.elapsed last.2 before.2 = last.1 - before.1 := by
  intro start moves passed back before last
  have seen : shown start.toNat moves = [65530, 3386, 65530, 65529, (3 : BitVec 16)] := by decide
  obtain ⟨shows, between⟩ := points_exact 16 start moves
  rw [seen] at shows
  have jumped := between passed.1 passed.2 back.1 back.2 (by decide) (by decide)
  have moved := between before.1 before.2 last.1 last.2 (by decide) (by decide)
  exact ⟨seen, shows, jumped.1, moved.2 (by decide) (by decide)⟩

end Clock

end EscapeKey
