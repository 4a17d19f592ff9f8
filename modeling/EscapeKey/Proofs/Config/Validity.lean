import EscapeKey.Proofs.Config.Checks

/-! What is known of a configuration that settings describe: its times and taps are in range, its
keys have names, and its rules are those of the section on overrides. What another entry switches
off plays no part.
-/

namespace EscapeKey

-----------------------------------------------------------------------------------------
-- Valid configurations
-----------------------------------------------------------------------------------------

def Tap.Policy.Valid : Tap.Policy → Prop
  | .toggle => True
  | .multiTap taps term =>
    (2 ≤ taps.toNat ∧ taps.toNat ≤ 16) ∧ 1 ≤ term.toNat ∧ term.toNat ≤ 60000

structure Tap.Settings.Valid (s : Tap.Settings) : Prop where
  timeout : 1 ≤ s.timeout.toNat ∧ s.timeout.toNat ≤ 60000
  policy : s.policy.Valid
  single : s.single.key.Named
  repeated : s.repeated.key.Named

/-- The rule requires modifiers, each of them once, and its key has a name. -/
structure Override.Rule.Valid (r : Override.Rule) : Prop where
  required_ne_nil : r.required ≠ []
  nodup : r.required.Nodup
  key : r.emit.key.Named

structure Config.Valid (c : Config) : Prop where
  trigger : c.trigger.Named
  tap : c.tap.Valid
  rules : ∀ r ∈ c.rules, r.Valid

theorem Tap.Settings.standard_valid : Tap.Settings.standard.Valid where
  timeout := by decide
  policy := trivial
  single := by decide
  repeated := by decide

theorem Override.standard_valid : ∀ r ∈ Override.standard, r.Valid := by
  have parts
      : ∀ r ∈ Override.standard, r.required ≠ [] ∧ r.required.Nodup ∧ r.emit.key.Named := by
    decide
  intro r member
  obtain ⟨required, nodup, key⟩ := parts r member
  exact ⟨required, nodup, key⟩

theorem Config.named_of_readTrigger {name : String} {k : Key}
    (read : Config.readTrigger name = .ok k)
    : k.Named := by
  rw [Config.readTrigger] at read
  split at read
  case h_1 other found =>
    obtain rfl := Except.ok.inj read
    exact Key.named_of_read? found
  case h_2 => contradiction

/-- The key of a combo in the timing section has a name where the standard one has. -/
theorem Config.named_of_readTapCombo {entry : Config.ComboEntry} {standard c : Combo}
    {text : Option String} (named : standard.key.Named)
    (read : Config.readTapCombo entry standard text = .ok c)
    : c.key.Named := by
  cases text with
  | none =>
      obtain rfl := Except.ok.inj read
      exact named
  | some text => exact Combo.named_of_parse (Except.mapError_eq_ok_iff.mp read)

namespace Settings

-----------------------------------------------------------------------------------------
-- Timing
-----------------------------------------------------------------------------------------

theorem Timing.valid_of_readPolicy {t : Timing} {timeout : UInt32} {policy : Tap.Policy}
    (read : t.readPolicy timeout = .ok policy)
    : policy.Valid := by
  rw [readPolicy] at read
  split at read
  case h_1 =>
    obtain rfl := Except.ok.inj read
    trivial
  case h_2 =>
    obtain ⟨taps, checkedTaps, read⟩ := Except.bind_eq_ok_iff.mp read
    obtain ⟨term, checkedTerm, same⟩ := Except.bind_eq_ok_iff.mp read
    obtain rfl := Except.ok.inj same
    exact ⟨(Config.checkTaps_eq_ok checkedTaps).2, (Config.checkTime_eq_ok checkedTerm).2⟩

theorem Timing.valid_of_validate {t : Timing} {tap : Tap.Settings} (read : t.validate = .ok tap)
    : tap.Valid := by
  rw [validate] at read
  obtain ⟨timeout, inRange, read⟩ := Except.bind_eq_ok_iff.mp read
  obtain ⟨policy, ofPolicy, read⟩ := Except.bind_eq_ok_iff.mp read
  obtain ⟨single, ofSingle, read⟩ := Except.bind_eq_ok_iff.mp read
  obtain ⟨repeated, ofRepeated, same⟩ := Except.bind_eq_ok_iff.mp read
  obtain rfl := Except.ok.inj same
  exact {
    timeout := (Config.checkTime_eq_ok inRange).2
    policy := valid_of_readPolicy ofPolicy
    single := Config.named_of_readTapCombo Tap.Settings.standard_valid.single ofSingle
    repeated := Config.named_of_readTapCombo Tap.Settings.standard_valid.repeated ofRepeated }

/-- The taps and the term play no part under another policy than multi-tap. -/
theorem Timing.validate_of_not_multiTap {t : Timing} (other : t.policy ≠ some .multiTap)
    (taps : Option UInt8) (term : Option UInt32)
    : { t with taps, term }.validate = t.validate := by
  have toggle : t.policy.getD .toggle = .toggle := by
    cases policy : t.policy with
    | none => rfl
    | some name =>
        cases name with
        | toggle => rfl
        | multiTap => exact absurd policy other
  simp only [validate, readPolicy, toggle]

-----------------------------------------------------------------------------------------
-- Override rules
-----------------------------------------------------------------------------------------

theorem RuleEntry.valid_of_validate {r : RuleEntry} {rule : Override.Rule}
    (read : r.validate = .ok rule)
    : rule.Valid ∧ rule.name = r.name := by
  rw [validate] at read
  obtain ⟨required, ofRequired, read⟩ := Except.bind_eq_ok_iff.mp read
  split at read
  case isTrue => contradiction
  case isFalse nonempty =>
    obtain ⟨suppress, _, read⟩ := Except.bind_eq_ok_iff.mp read
    obtain ⟨emit, ofEmit, same⟩ := Except.bind_eq_ok_iff.mp read
    obtain rfl := Except.ok.inj same
    refine ⟨⟨?_, ?_, ?_⟩, rfl⟩
    · exact mt List.isEmpty_iff.mpr nonempty
    · exact Combo.nodup_of_parseModifiers (Except.mapError_eq_ok_iff.mp ofRequired)
    · exact Combo.named_of_parse (Except.mapError_eq_ok_iff.mp ofEmit)

/-- The rules are one for each entry, and valid, by induction on the entries. -/
theorem RuleEntry.valid_of_mapM_validate {entries : List RuleEntry} {rules : List Override.Rule}
    (read : entries.mapM validate = .ok rules)
    : (∀ r ∈ rules, r.Valid) ∧ rules.map (·.name) = entries.map (·.name) := by
  have each := Except.forall₂_of_mapM_eq_ok read
  clear read
  induction each with
  | nil => simp
  | cons first _ ih =>
      obtain ⟨valid, name⟩ := valid_of_validate first
      refine ⟨List.forall_mem_cons.mpr ⟨valid, ih.1⟩, ?_⟩
      rw [List.map_cons, List.map_cons, name, ih.2]

/-- Valid rules come from the section on overrides: none exactly where they are off, and one for
each entry where they are on and listed.
-/
theorem Overrides.valid_of_validate {o : Overrides} {rules : List Override.Rule}
    (read : o.validate = .ok rules)
    : (∀ r ∈ rules, r.Valid)
      ∧ (rules = [] ↔ o.enabled = false)
      ∧ (o.enabled = true → o.rules ≠ [] → rules.map (·.name) = o.rules.map (·.name)) := by
  rw [validate] at read
  cases enabled : o.enabled with
  | false =>
      rw [enabled] at read
      obtain rfl : [] = rules := Except.ok.inj read
      simp
  | true =>
      rw [enabled] at read
      cases listed : o.rules with
      | nil =>
          rw [listed] at read
          obtain rfl : Override.standard = rules := Except.ok.inj read
          exact ⟨Override.standard_valid, by simp [Override.standard], by simp⟩
      | cons entry rest =>
          rw [listed] at read
          obtain ⟨valid, names⟩ := RuleEntry.valid_of_mapM_validate read
          have nonempty : rules ≠ [] := by
            rintro rfl
            simp at names
          exact ⟨valid, by simp [nonempty], fun _ _ => names⟩

theorem Overrides.validate_of_disabled {o : Overrides} (disabled : o.enabled = false)
    (rules : List RuleEntry)
    : { o with rules }.validate = o.validate := by
  simp [validate, disabled]

-----------------------------------------------------------------------------------------
-- All settings
-----------------------------------------------------------------------------------------

theorem validate_eq_ok {s : Settings} {c : Config} (read : s.validate = .ok c)
    : s.readTrigger = .ok c.trigger ∧ s.readTiming = .ok c.tap ∧ s.readRules = .ok c.rules := by
  rw [validate] at read
  obtain ⟨trigger, ofTrigger, read⟩ := Except.bind_eq_ok_iff.mp read
  obtain ⟨tap, ofTap, read⟩ := Except.bind_eq_ok_iff.mp read
  obtain ⟨rules, ofRules, same⟩ := Except.bind_eq_ok_iff.mp read
  obtain rfl := Except.ok.inj same
  exact ⟨ofTrigger, ofTap, ofRules⟩

theorem named_of_readTrigger {s : Settings} {k : Key} (read : s.readTrigger = .ok k)
    : k.Named := by
  rw [readTrigger] at read
  split at read
  case h_1 => exact Config.named_of_readTrigger read
  case h_2 =>
    obtain rfl := Except.ok.inj read
    decide

theorem valid_of_readTiming {s : Settings} {tap : Tap.Settings}
    (read : s.readTiming = .ok tap)
    : tap.Valid := by
  rw [readTiming] at read
  split at read
  case h_1 => exact Timing.valid_of_validate read
  case h_2 =>
    obtain rfl := Except.ok.inj read
    exact Tap.Settings.standard_valid

theorem valid_of_readRules {s : Settings} {rules : List Override.Rule}
    (read : s.readRules = .ok rules)
    : (∀ r ∈ rules, r.Valid)
      ∧ (rules = [] ↔ ∃ o, s.overrides = some o ∧ o.enabled = false)
      ∧ ∀ o, s.overrides = some o → o.enabled = true → o.rules ≠ []
        → rules.map (·.name) = o.rules.map (·.name) := by
  rw [readRules] at read
  cases overrides : s.overrides with
  | none =>
      rw [overrides] at read
      obtain rfl : Override.standard = rules := Except.ok.inj read
      exact ⟨Override.standard_valid, by simp [Override.standard], by simp⟩
  | some o =>
      rw [overrides] at read
      obtain ⟨valid, off, names⟩ := Overrides.valid_of_validate read
      refine ⟨valid, by simp [off], ?_⟩
      rintro _ ⟨rfl⟩
      exact names

theorem valid_of_validate {s : Settings} {c : Config} (read : s.validate = .ok c) : c.Valid :=
  have ⟨ofTrigger, ofTiming, ofRules⟩ := validate_eq_ok read
  { trigger := named_of_readTrigger ofTrigger
    tap := valid_of_readTiming ofTiming
    rules := (valid_of_readRules ofRules).1 }

/-- Settings describe a configuration exactly if all checks pass, and else they fail with the
error of the first check that does not. The configuration is valid, it has no rules exactly if
overrides are off, and listed rules are taken over in their order. Under another policy than
multi-tap the taps and the term are free, and so are the rules where overrides are off.
-/
theorem validate_first_failure (s : Settings)
    : (∀ error,
        s.validate = .error error
          ↔ ∃ passed check rest, s.checks = passed ++ check :: rest
            ∧ (∀ earlier ∈ passed, earlier.error? = none) ∧ check.error? = some error)
      ∧ ((∃ c, s.validate = .ok c) ↔ ∀ check ∈ s.checks, check.error? = none)
      ∧ (∀ c, s.validate = .ok c →
          c.Valid
          ∧ (c.rules = [] ↔ ∃ o, s.overrides = some o ∧ o.enabled = false)
          ∧ ∀ o, s.overrides = some o → o.enabled = true → o.rules ≠ []
            → c.rules.map (·.name) = o.rules.map (·.name))
      ∧ (∀ t taps term, s.timing = some t → t.policy ≠ some .multiTap
          → { s with timing := some { t with taps, term } }.validate = s.validate)
      ∧ ∀ o rules, s.overrides = some o → o.enabled = false
          → { s with overrides := some { o with rules } }.validate = s.validate := by
  refine ⟨fun error => ?_, ?_, fun c read => ?_, ?_, ?_⟩
  · rw [← Except.error?_eq_some_iff, validate_error?, Config.Check.firstError,
      List.findSome?_eq_some_iff]
    constructor
    · rintro ⟨passed, check, rest, split, fails, before⟩
      exact ⟨passed, check, rest, split, before, fails⟩
    · rintro ⟨passed, check, rest, split, before, fails⟩
      exact ⟨passed, check, rest, split, fails, before⟩
  · rw [← Except.error?_eq_none_iff, validate_error?, Config.Check.firstError,
      List.findSome?_eq_none_iff]
  · exact ⟨valid_of_validate read, (valid_of_readRules (validate_eq_ok read).2.2).2⟩
  · intro t taps term timing other
    simp only [validate, readTrigger, readTiming, readRules, timing,
      Timing.validate_of_not_multiTap other]
  · intro o rules overrides disabled
    simp only [validate, readTrigger, readTiming, readRules, overrides,
      Overrides.validate_of_disabled disabled]

/-- Witness: under the toggle policy a hundred taps are no obstacle, the one rule requires shift
once, and where overrides are off a rule that requires nothing passes. Elsewhere the term is out
of range, and that comes before the rule that requires nothing.
-/
theorem validate_first_failure_mixed
    : let entry : RuleEntry := ⟨"accent", [" Shift", "S"], true, [], "grave"⟩
      let idle : RuleEntry := ⟨"idle", [], false, [], "grave"⟩
      let toggle : Timing := ⟨none, none, some 100, none, none, some "Shift-grave"⟩
      let multiTap : Timing := ⟨none, some .multiTap, none, some 0, none, none⟩
      let sound : Settings := ⟨some ⟨some "f13"⟩, some toggle, some ⟨true, [entry]⟩⟩
      let faulty : Settings := ⟨none, some multiTap, some ⟨true, [idle]⟩⟩
      let off : Settings := ⟨none, none, some ⟨false, [idle]⟩⟩
      (∃ c, sound.validate = .ok c ∧ c.Valid ∧ c.rules ≠ []
        ∧ c.rules.map (·.name) = ["accent"]
        ∧ { sound with timing := some { toggle with taps := none, term := none } }.validate
          = .ok c)
      ∧ faulty.validate = .error (.timeOutOfRange .term 0)
      ∧ off.validate = { off with overrides := some ⟨false, []⟩ }.validate := by
  intro entry idle toggle multiTap sound faulty off
  obtain ⟨-, total, valid, free, -⟩ := validate_first_failure sound
  obtain ⟨c, read⟩ := total.mpr (by decide +kernel)
  obtain ⟨sane, empty, names⟩ := valid c read
  refine ⟨⟨c, read, sane, ?_, ?_, ?_⟩, ?_, ?_⟩
  · rw [ne_eq, empty]
    simp [sound]
  · exact names ⟨true, [entry]⟩ rfl rfl (List.cons_ne_nil _ _)
  · exact (free toggle none none rfl (by decide)).trans read
  · exact ((validate_first_failure faulty).1 _).mpr
      ⟨[.time .timeout 1000, .taps 2], .time .term 0, _, rfl, by decide, by decide⟩
  · exact ((validate_first_failure off).2.2.2.2 ⟨false, [idle]⟩ [] rfl rfl).symm

end Settings

end EscapeKey
