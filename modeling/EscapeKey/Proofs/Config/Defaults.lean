import EscapeKey.Proofs.Config.Checks

/-! Settings that are left out. Every entry has a default, and a section that is left out is one
without entries, so writing any of them down with their defaults changes neither the configuration
that the settings describe nor the error that they fail with.
-/

namespace EscapeKey.Settings

/-- The second entry is the first one, or else the default in place of one that is left out. -/
inductive EntryFilled {α : Type} (default : α) : Option α → Option α → Prop where
  | kept (entry : Option α) : EntryFilled default entry entry
  | added : EntryFilled default none (some default)

/-- The second section is the first one with entries filled in. A section that is left out counts as
a blank one.
-/
inductive SectionFilled {α : Type} (blank : α) (Filled : α → α → Prop)
    : Option α → Option α → Prop where
  | absent : SectionFilled blank Filled none none
  | added {after : α} (filled : Filled blank after) : SectionFilled blank Filled none (some after)
  | kept {before after : α} (filled : Filled before after)
    : SectionFilled blank Filled (some before) (some after)

def General.blank : General :=
  ⟨none⟩

def Timing.blank : Timing :=
  ⟨none, none, none, none, none, none⟩

structure General.Filled (g g' : General) : Prop where
  trigger : EntryFilled "ESC" g.trigger g'.trigger

/-- The default of the term is the timeout that holds. -/
structure Timing.Filled (t t' : Timing) : Prop where
  timeout : EntryFilled 1000 t.timeout t'.timeout
  policy : EntryFilled .toggle t.policy t'.policy
  taps : EntryFilled 2 t.taps t'.taps
  term : EntryFilled (t.timeout.getD 1000) t.term t'.term
  single : EntryFilled "ESC" t.single t'.single
  repeated : EntryFilled "GRAVE" t.repeated t'.repeated

/-- The second settings are the first ones with any of their missing entries filled in with their
defaults.
-/
structure Filled (s s' : Settings) : Prop where
  general : SectionFilled .blank General.Filled s.general s'.general
  timing : SectionFilled .blank Timing.Filled s.timing s'.timing
  overrides : EntryFilled ⟨true, []⟩ s.overrides s'.overrides

theorem EntryFilled.getD_eq {α : Type} {default : α} {entry entry' : Option α}
    (filled : EntryFilled default entry entry')
    : entry'.getD default = entry.getD default := by
  cases filled <;> rfl

/-- A filled in entry is read alike, if its default is read as one that is left out. -/
theorem EntryFilled.elim_eq {α β : Type} {default : α} {entry entry' : Option α} {absent : β}
    {read : α → β} (filled : EntryFilled default entry entry') (readDefault : read default = absent)
    : entry'.elim absent read = entry.elim absent read := by
  cases filled with
  | kept => rfl
  | added => exact readDefault

/-- A filled in section is read alike, if a blank one is read as one that is left out and filling in
its entries changes nothing.
-/
theorem SectionFilled.elim_eq {α β : Type} {blank : α} {Filled : α → α → Prop}
    {before after : Option α} {absent : β} {read : α → β}
    (filled : SectionFilled blank Filled before after) (readBlank : read blank = absent)
    (alike : ∀ a a', Filled a a' → read a' = read a)
    : after.elim absent read = before.elim absent read := by
  cases filled with
  | absent => rfl
  | added filled => exact (alike _ _ filled).trans readBlank
  | kept filled => exact alike _ _ filled

-----------------------------------------------------------------------------------------
-- Timing
-----------------------------------------------------------------------------------------

theorem readTapCombo_eq_elim (entry : Config.ComboEntry) (standard : Combo)
    (text : Option String)
    : Config.readTapCombo entry standard text
      = text.elim (.ok standard) fun text => (Combo.parse text).mapError (.invalidTapCombo entry) := by
  cases text <;> rfl

/-- A combo may be written down where its text spells the standard one. -/
theorem EntryFilled.readTapCombo_eq {entry : Config.ComboEntry} {standard : Combo}
    {text : String} {written written' : Option String}
    (filled : EntryFilled text written written') (spelt : Combo.parse text = .ok standard)
    : Config.readTapCombo entry standard written'
      = Config.readTapCombo entry standard written := by
  rw [readTapCombo_eq_elim, readTapCombo_eq_elim]
  apply filled.elim_eq
  rw [spelt]
  rfl

theorem Timing.Filled.readPolicy_eq {t t' : Timing} (filled : t.Filled t')
    : t'.readPolicy (t.timeout.getD 1000) = t.readPolicy (t.timeout.getD 1000) := by
  have taps : t'.taps.getD Tap.defaultTaps = t.taps.getD Tap.defaultTaps := filled.taps.getD_eq
  rw [readPolicy, readPolicy, filled.policy.getD_eq, taps, filled.term.getD_eq]

/-- Filled in timing is read alike, part by part. The timeout is checked before it can stand in for
a term.
-/
theorem Timing.Filled.validate_eq {t t' : Timing} (filled : t.Filled t')
    : t'.validate = t.validate := by
  have timeout : t'.timeout.getD Tap.defaultTimeout = t.timeout.getD Tap.defaultTimeout :=
    filled.timeout.getD_eq
  have single
      : Config.readTapCombo .single Tap.Settings.standard.single t'.single
        = Config.readTapCombo .single Tap.Settings.standard.single t.single :=
    filled.single.readTapCombo_eq rfl
  have repeated
      : Config.readTapCombo .repeated Tap.Settings.standard.repeated t'.repeated
        = Config.readTapCombo .repeated Tap.Settings.standard.repeated t.repeated :=
    filled.repeated.readTapCombo_eq rfl
  rw [validate, validate, timeout, single, repeated]
  apply Except.bind_congr_ok
  intro checked passes
  obtain ⟨rfl, _⟩ := Config.checkTime_eq_ok passes
  have policy
      : t'.readPolicy (t.timeout.getD Tap.defaultTimeout)
        = t.readPolicy (t.timeout.getD Tap.defaultTimeout) :=
    filled.readPolicy_eq
  rw [policy]

-----------------------------------------------------------------------------------------
-- All settings
-----------------------------------------------------------------------------------------

theorem readTrigger_eq_elim (s : Settings)
    : s.readTrigger
      = s.general.elim (.ok .esc) fun g => g.trigger.elim (.ok .esc) Config.readTrigger := by
  rw [readTrigger]
  rcases s.general with _ | ⟨_ | name⟩ <;> rfl

theorem readTiming_eq_elim (s : Settings)
    : s.readTiming = s.timing.elim (.ok .standard) Timing.validate := by
  rw [readTiming]
  cases s.timing <;> rfl

theorem readRules_eq_elim (s : Settings)
    : s.readRules = s.overrides.elim (.ok Override.standard) Overrides.validate := by
  rw [readRules]
  cases s.overrides <;> rfl

namespace Filled

variable {s s' : Settings}

theorem readTrigger_eq (filled : s.Filled s') : s'.readTrigger = s.readTrigger := by
  rw [readTrigger_eq_elim, readTrigger_eq_elim]
  refine filled.general.elim_eq rfl ?_
  intro g g' written
  exact written.trigger.elim_eq rfl

theorem readTiming_eq (filled : s.Filled s') : s'.readTiming = s.readTiming := by
  rw [readTiming_eq_elim, readTiming_eq_elim]
  refine filled.timing.elim_eq rfl ?_
  intro t t' written
  exact written.validate_eq

/-- Overrides that are on without any rules listed are the standard ones. -/
theorem readRules_eq (filled : s.Filled s') : s'.readRules = s.readRules := by
  rw [readRules_eq_elim, readRules_eq_elim]
  exact filled.overrides.elim_eq rfl

end Filled

/-- Leaving a setting out is the same as writing its default down. Settings in which any of the
missing entries are filled in describe the same configuration, or fail with the same error.
-/
theorem validate_filled {s s' : Settings} (filled : s.Filled s') : s'.validate = s.validate := by
  rw [validate, validate, filled.readTrigger_eq, filled.readTiming_eq, filled.readRules_eq]

/-- Settings without any entry, written out in part, describe the standard configuration. Where the
timeout is out of range it is at fault, also for the term that it stands in for, and the repeated
combo is not looked at.
-/
theorem validate_filled_timing
    : let bare : Settings := ⟨none, none, none⟩
      let written : Settings :=
        ⟨some ⟨none⟩, some ⟨none, none, some 2, some 1000, none, some "GRAVE"⟩, some ⟨true, []⟩⟩
      let late : Settings :=
        ⟨none, some ⟨some 60001, some .multiTap, none, none, none, some "nothing"⟩, none⟩
      let lateWritten : Settings :=
        ⟨some ⟨some "ESC"⟩,
          some ⟨some 60001, some .multiTap, some 2, some 60001, some "ESC", some "nothing"⟩,
          some ⟨true, []⟩⟩
      bare.Filled written
      ∧ written.validate = .ok Config.standard
      ∧ late.Filled lateWritten
      ∧ lateWritten.validate = .error (.timeOutOfRange .timeout 60001) := by
  intro bare written late lateWritten
  have filled : bare.Filled written := {
    general := .added ⟨.kept _⟩
    timing := .added ⟨.kept _, .kept _, .added, .added, .kept _, .added⟩
    overrides := .added }
  have filledLate : late.Filled lateWritten := {
    general := .added ⟨.added⟩
    timing := .kept ⟨.kept _, .kept _, .added, .added, .added, .kept _⟩
    overrides := .added }
  exact ⟨filled, (validate_filled filled).trans rfl, filledLate, (validate_filled filledLate).trans rfl⟩

end EscapeKey.Settings
