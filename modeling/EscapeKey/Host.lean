import EscapeKey.Combo.Strokes
import EscapeKey.PressedKeys

/-! The host that receives the emissions. It keeps the modifier byte and the keys that are down,
and records every call made to it and every key report that goes out.
-/

namespace EscapeKey

inductive Host.Event where
  | setMods (mods : Mods)
  | tap (key : Key)
  | tapCombo (combo : Combo)
deriving DecidableEq, Repr

/-- A report of one key going down or up on the output. -/
inductive Host.Report where
  | press (key : Key)
  | release (key : Key)
deriving DecidableEq, Repr

structure Host where
  mods : Mods
  pressed : PressedKeys
  /-- The recorded calls, oldest first. -/
  events : List Host.Event
  /-- The recorded reports, oldest first. -/
  reports : List Host.Report
deriving DecidableEq, Repr

namespace Host

/-- A host whose user holds the given modifier keys and nothing else. -/
def holding (mods : Mods) : Host where
  mods := mods
  pressed := mods.keys.foldl .insert ∅
  events := []
  reports := []

def idle : Host :=
  holding ∅

/-- Presses a key, which is reported unless it is down already. -/
def press (h : Host) (k : Key) : Host :=
  if h.pressed.contains k then h
  else { h with pressed := h.pressed.insert k, reports := h.reports ++ [.press k] }

/-- Releases a key, which is reported unless it is up already. -/
def release (h : Host) (k : Key) : Host :=
  if h.pressed.contains k then
    { h with pressed := h.pressed.erase k, reports := h.reports ++ [.release k] }
  else h

/-- The user changes the held modifiers. Keys that are no longer held go up, the last one first,
and then the new ones go down.
-/
def holdMods (h : Host) (mods : Mods) : Host :=
  let gone := h.mods.keys.filter (!mods.keys.contains ·)
  let new := mods.keys.filter (!h.mods.keys.contains ·)
  { new.foldl press (gone.reverse.foldl release h) with mods := mods }

def record (h : Host) (e : Event) : Host :=
  { h with events := h.events ++ [e] }

/-- Replaces the held modifiers on behalf of the caller. -/
def setMods (h : Host) (mods : Mods) : Host :=
  (h.record (.setMods mods)).holdMods mods

def tap (h : Host) (k : Key) : Host :=
  ((h.record (.tap k)).press k).release k

/-- Makes the strokes in front of the main key: the unwanted keys go up and the missing ones
down.
-/
def ready (h : Host) (s : Combo.Strokes) : Host :=
  s.press.foldl press (s.release.foldl release h)

/-- Makes the strokes: the modifier keys are readied, the main key is tapped, and then all of it
is undone.
-/
def send (h : Host) (s : Combo.Strokes) : Host :=
  let tapped := ((h.ready s).press s.main).release s.main
  s.restore.foldl press (s.press.reverse.foldl release tapped)

/-- The host with its modifier keys readied for a combo, at the time the combo's key is tapped. -/
def readied (h : Host) (c : Combo) : Host :=
  (h.record (.tapCombo c)).ready (c.strokes h.mods)

/-- Taps a combo with its modifiers and no others. -/
def tapCombo (h : Host) (c : Combo) : Host :=
  (h.record (.tapCombo c)).send (c.strokes h.mods)

/-- Emits a combo, as a plain tap when it is bare. -/
def emit (h : Host) (c : Combo) : Host :=
  if c.isBare then h.tap c.key else h.tapCombo c

/-- Releases every key that is down, the last one pressed first. -/
def releaseAll (h : Host) : Host :=
  { h with
    mods := ∅
    pressed := ∅
    reports := h.reports ++ h.pressed.newestFirst.map .release }

/-- Forgets the recorded calls and reports and keeps what is held. -/
def clearLog (h : Host) : Host :=
  { h with events := [], reports := [] }

/-- The combo that a call emitted. -/
def Event.emission? : Event → Option Combo
  | .setMods _ => none
  | .tap k => some (.bare k)
  | .tapCombo c => some c

def emissions (h : Host) : List Combo :=
  h.events.filterMap Event.emission?

end Host

end EscapeKey
