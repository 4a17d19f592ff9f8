import EscapeKey.Host.Script

/-! Induction over scripts. A property of the host that the operations of a script keep, and that
replacing the modifiers keeps, holds at every step of the script: a guard does no more to the host
than to replace its modifiers, before its body and, however that ends, after it.
-/

namespace EscapeKey.Host

variable {P : Host → Prop}

theorem suspend_keeps (setting : ∀ h mods, P h → P (h.setMods mods)) {h : Host} (start : P h)
    (suppress : Mods)
    : P (h.suspend suppress) := by
  unfold suspend
  split
  · exact setting h _ start
  · exact start

theorem resume_keeps (setting : ∀ h mods, P h → P (h.setMods mods)) {h : Host} (start : P h)
    (saved : Mods)
    : P (h.resume saved) := by
  unfold resume
  split
  · exact start
  · exact setting h _ start

/-- A guard keeps what its body keeps. -/
theorem guarded_keeps (setting : ∀ h mods, P h → P (h.setMods mods)) {h : Host} (start : P h)
    (suppress : Mods) {body : Host → Host} (inside : ∀ h, P h → P (body h))
    : P (h.guarded suppress body) :=
  resume_keeps setting (inside _ (suspend_keeps setting start suppress)) h.mods

namespace Script

/-- Every operation of the script, inside of guards and outside, has the property. -/
def Every (Q : Op → Prop) : Script → Prop
  | done | panic => True
  | op o rest => Q o ∧ rest.Every Q
  | guard _ body rest => body.Every Q ∧ rest.Every Q

instance Every.decidable (Q : Op → Prop) [DecidablePred Q]
    : (script : Script) → Decidable (script.Every Q)
  | done | panic => isTrue trivial
  | op o rest =>
    have := Every.decidable Q rest
    inferInstanceAs (Decidable (Q o ∧ rest.Every Q))
  | guard _ body rest =>
    have := Every.decidable Q body
    have := Every.decidable Q rest
    inferInstanceAs (Decidable (body.Every Q ∧ rest.Every Q))

/-- The first script and then, unless it is abandoned, the second. -/
def followedBy : Script → Script → Script
  | done, next => next
  | panic, _ => panic
  | op o rest, next => op o (rest.followedBy next)
  | guard suppress body rest, next => guard suppress body (rest.followedBy next)

/-- The second script starts from the host that the first one leaves, by induction on the
first.
-/
theorem run_followedBy {first : Script} (ends : first.panics = false) (next : Script) (h : Host)
    : (first.followedBy next).run h = next.run (first.run h) := by
  induction first generalizing h with
  | done => rfl
  | panic => contradiction
  | op o rest ih => exact ih ends (Op.run h o)
  | guard suppress body rest _ ih => exact ih ends (h.guarded suppress body.run)

theorem every_true (script : Script) : script.Every fun _ => True := by
  induction script with
  | done | panic => trivial
  | op _ _ ih => exact ⟨trivial, ih⟩
  | guard _ _ _ bodyIH restIH => exact ⟨bodyIH, restIH⟩

/-- What the operations and the guards keep holds at the end of a script and at each of its
steps, by induction on the script.
-/
theorem Every.keeps {Q : Op → Prop} (ops : ∀ h o, Q o → P h → P (Op.run h o))
    (setting : ∀ h mods, P h → P (h.setMods mods)) {script : Script}
    (every : script.Every Q) {h : Host} (start : P h)
    : P (script.run h) ∧ ∀ step ∈ script.steps h, P step.host := by
  induction script generalizing h with
  | done | panic => exact ⟨start, by simp [steps]⟩
  | op o rest ih =>
      have first := ops h o every.1 start
      obtain ⟨ends, later⟩ := ih every.2 first
      refine ⟨ends, ?_⟩
      intro step member
      rcases List.mem_cons.mp member with rfl | member
      · exact first
      · exact later step member
  | guard suppress body rest bodyIH restIH =>
      have entered := suspend_keeps setting start suppress
      obtain ⟨inside, within⟩ := bodyIH every.1 entered
      have left := resume_keeps setting inside h.mods
      obtain ⟨ends, later⟩ := restIH every.2 left
      refine ⟨ends, ?_⟩
      intro step member
      simp only [steps, List.cons_append, List.mem_cons, List.mem_append] at member
      rcases member with rfl | member | rfl | member
      · exact entered
      · exact within step member
      · exact left
      · exact later step member

end Script

end EscapeKey.Host
