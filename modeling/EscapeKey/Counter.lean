/-! Free-running millisecond counters and the clock that is read from one. -/

namespace EscapeKey

/-- A counter of milliseconds, as seen through its readings. -/
class Counter (τ : Type) where
  /-- The reading at an absolute time in milliseconds. -/
  ofMillis : Nat → τ
  /-- The reading some milliseconds later. -/
  later : τ → Nat → τ
  /-- The milliseconds from the earlier reading, the second one, to the reading. -/
  elapsed : τ → τ → Nat
  value : τ → Nat

/-- A counter of `w` bits starts again from zero when it is full, so that it tells times apart
only up to its period.
-/
instance (w : Nat) : Counter (BitVec w) where
  ofMillis ms := BitVec.ofNat w ms
  later now ms := now + BitVec.ofNat w ms
  elapsed now earlier := (now - earlier).toNat
  value now := now.toNat

/-- The counter that never starts again. -/
instance : Counter Nat where
  ofMillis ms := ms
  later now ms := now + ms
  elapsed now earlier := now - earlier
  value now := now

inductive Clock.Move where
  | advance (ms : UInt32)
  | jump (ms : UInt64)
deriving DecidableEq, Repr

def Clock.move {τ : Type} [Counter τ] (now : τ) : Move → τ
  | .advance ms => Counter.later now ms.toNat
  | .jump ms => Counter.ofMillis ms.toNat

def Clock.readings {τ : Type} [Counter τ] (now : τ) : List Move → List τ
  | [] => []
  | m :: rest => move now m :: readings (move now m) rest

end EscapeKey
