import EscapeKey.Key

/-! The keys that are down on the output, in the order they were pressed. -/

namespace EscapeKey

/-- Keys in press order, each at most once. -/
structure PressedKeys where
  /-- The keys, the one that has been down longest first. -/
  toList : List Key
  nodup : toList.Nodup
deriving DecidableEq, Repr

namespace PressedKeys

instance : EmptyCollection PressedKeys where
  emptyCollection := ⟨[], .nil⟩

def contains (p : PressedKeys) (k : Key) : Bool :=
  p.toList.contains k

/-- The keys with `k` pressed last, unless it was down before. -/
def insert (p : PressedKeys) (k : Key) : PressedKeys :=
  if h : p.contains k = true then p
  else ⟨p.toList ++ [k], by
    have : k ∉ p.toList := by simpa [contains] using h
    rw [List.nodup_append]
    refine ⟨p.nodup, by simp, fun a mem b last same => this ?_⟩
    rw [← List.mem_singleton.1 last, ← same]
    exact mem⟩

def erase (p : PressedKeys) (k : Key) : PressedKeys :=
  ⟨p.toList.erase k, p.nodup.sublist List.erase_sublist⟩

/-- The keys in the order in which they are let go, the last one pressed first. -/
def newestFirst (p : PressedKeys) : List Key :=
  p.toList.reverse

end PressedKeys

end EscapeKey
