import EscapeKey.Proofs.Host.HeldMods

/-! The calls that each operation of the host records. Key strokes record nothing; an emission
records one call, from which the emitted combo can be told; and a guard around a body that keeps
the held modifiers records a call at each end or, if it has nothing to take away, none.
-/

namespace EscapeKey.Host

@[simp]
theorem press_events (h : Host) (k : Key) : (h.press k).events = h.events := by
  unfold press
  split <;> rfl

@[simp]
theorem release_events (h : Host) (k : Key) : (h.release k).events = h.events := by
  unfold release
  split <;> rfl

@[simp]
theorem record_events (h : Host) (e : Event) : (h.record e).events = h.events ++ [e] :=
  rfl

@[simp]
theorem foldl_press_events (h : Host) (ks : List Key)
    : (ks.foldl press h).events = h.events :=
  foldl_leaves press_events h ks

@[simp]
theorem foldl_release_events (h : Host) (ks : List Key)
    : (ks.foldl release h).events = h.events :=
  foldl_leaves release_events h ks

/-- What the user does is no call. -/
@[simp]
theorem holdMods_events (h : Host) (mods : Mods) : (h.holdMods mods).events = h.events :=
  (foldl_press_events _ _).trans (foldl_release_events _ _)

@[simp]
theorem setMods_events (h : Host) (mods : Mods)
    : (h.setMods mods).events = h.events ++ [.setMods mods] := by
  simp [setMods]

@[simp]
theorem tap_events (h : Host) (k : Key) : (h.tap k).events = h.events ++ [.tap k] := by
  simp [tap]

@[simp]
theorem ready_events (h : Host) (s : Combo.Strokes) : (h.ready s).events = h.events := by
  simp [ready]

/-- The strokes record no call of their own. -/
@[simp]
theorem send_events (h : Host) (s : Combo.Strokes) : (h.send s).events = h.events := by
  simp only [send, foldl_press_events, foldl_release_events, press_events, release_events,
    ready_events]

@[simp]
theorem tapCombo_events (h : Host) (c : Combo)
    : (h.tapCombo c).events = h.events ++ [.tapCombo c] := by
  simp [tapCombo]

-----------------------------------------------------------------------------------------
-- Emissions
-----------------------------------------------------------------------------------------

/-- The call that emits a combo. -/
def Event.ofEmission (c : Combo) : Event :=
  if c.isBare then .tap c.key else .tapCombo c

/-- The combo can be told from the call, also from that of a bare one, which has no modifiers. -/
@[simp]
theorem Event.emission?_ofEmission (c : Combo) : (ofEmission c).emission? = some c := by
  unfold ofEmission
  split
  case isTrue bare =>
    obtain ⟨modifiers, key, nodup⟩ := c
    obtain rfl : modifiers = [] := List.isEmpty_iff.mp bare
    rfl
  case isFalse => rfl

@[simp]
theorem emit_events (h : Host) (c : Combo)
    : (h.emit c).events = h.events ++ [.ofEmission c] := by
  unfold emit Event.ofEmission
  split <;> simp

-----------------------------------------------------------------------------------------
-- Guards
-----------------------------------------------------------------------------------------

/-- The calls that a guard makes to set the modifiers, which are none if it takes no held key
away.
-/
def guardCalls (h : Host) (suppress mods : Mods) : List Event :=
  if h.mods.meets suppress then [.setMods mods] else []

@[simp]
theorem suspend_events (h : Host) (suppress : Mods)
    : (h.suspend suppress).events
      = h.events ++ h.guardCalls suppress (h.mods.without suppress) := by
  unfold suspend guardCalls
  split <;> simp

/-- A guard whose body keeps the modifiers as it finds them has to put them back exactly when it
has taken a key away.
-/
theorem guarded_events {h : Host} {suppress : Mods} {body : Host → Host}
    (kept : (body (h.suspend suppress)).mods = (h.suspend suppress).mods)
    : (h.guarded suppress body).events
      = (body (h.suspend suppress)).events ++ h.guardCalls suppress h.mods := by
  simp only [guarded, resume, guardCalls, kept, suspend_mods, Mods.without_eq_self_iff]
  cases h.mods.meets suppress with
  | true => simp
  | false => simp

/-- A rule records its emission, between the calls of its guard. -/
theorem applyRule_events (h : Host) (r : Override.Rule)
    : (h.applyRule r).events
      = h.events ++ h.guardCalls r.suppress (h.mods.without r.suppress)
        ++ [.ofEmission r.emit] ++ h.guardCalls r.suppress h.mods := by
  rw [applyRule, guarded_events (emit_mods _ _), emit_events, suspend_events]

-----------------------------------------------------------------------------------------
-- Emitted combos
-----------------------------------------------------------------------------------------

theorem holdMods_emissions (h : Host) (mods : Mods)
    : (h.holdMods mods).emissions = h.emissions := by
  simp [emissions]

theorem emit_emissions (h : Host) (c : Combo) : (h.emit c).emissions = h.emissions ++ [c] := by
  simp [emissions]

theorem guardCalls_emit_nothing (h : Host) (suppress mods : Mods)
    : (h.guardCalls suppress mods).filterMap Event.emission? = [] := by
  unfold guardCalls
  split <;> rfl

/-- A rule emits its combo and nothing else, because the calls of its guard emit nothing. -/
theorem applyRule_emissions (h : Host) (r : Override.Rule)
    : (h.applyRule r).emissions = h.emissions ++ [r.emit] := by
  simp [emissions, applyRule_events, guardCalls_emit_nothing]

-----------------------------------------------------------------------------------------
-- Two hosts side by side
-----------------------------------------------------------------------------------------

/-- Two hosts have recorded the same calls since they were the first two. -/
def RecordAlike (h other after after' : Host) : Prop :=
  ∃ calls, after.events = h.events ++ calls ∧ after'.events = other.events ++ calls

theorem RecordAlike.refl (h other : Host) : h.RecordAlike other h other :=
  ⟨[], (List.append_nil _).symm, (List.append_nil _).symm⟩

/-- What is recorded alike adds up, by appending the calls. -/
theorem RecordAlike.trans {h other mid mid' after after' : Host}
    (first : h.RecordAlike other mid mid') (second : mid.RecordAlike mid' after after')
    : h.RecordAlike other after after' := by
  obtain ⟨calls, recorded, recorded'⟩ := first
  obtain ⟨more, later, later'⟩ := second
  refine ⟨calls ++ more, ?_, ?_⟩
  · rw [later, recorded, List.append_assoc]
  · rw [later', recorded', List.append_assoc]

theorem recordAlike_holdMods (h other : Host) (mods mods' : Mods)
    : h.RecordAlike other (h.holdMods mods) (other.holdMods mods') :=
  ⟨[], by simp, by simp⟩

theorem recordAlike_emit (h other : Host) (c : Combo)
    : h.RecordAlike other (h.emit c) (other.emit c) :=
  ⟨_, emit_events h c, emit_events other c⟩

/-- The calls of a rule depend on the held modifiers only, and not on the keys that are down. -/
theorem recordAlike_applyRule {h other : Host} (same : h.mods = other.mods)
    (r : Override.Rule)
    : h.RecordAlike other (h.applyRule r) (other.applyRule r) := by
  refine ⟨h.guardCalls r.suppress (h.mods.without r.suppress) ++ [.ofEmission r.emit]
    ++ h.guardCalls r.suppress h.mods, ?_, ?_⟩
  · simp only [applyRule_events, List.append_assoc]
  · simp only [applyRule_events, guardCalls, same, List.append_assoc]

end EscapeKey.Host
