import EscapeKey.Config.Validation
import EscapeKey.Proofs.Combo.Spelling

/-! The checks that settings go through, as a list in their order. Each reader of a section fails
with the error of the first check on the list that fails.
-/

namespace EscapeKey.Config

/-- A single thing that is checked of an entry. -/
inductive Check where
  | trigger (name : String)
  | time (entry : TimeEntry) (milliseconds : UInt32)
  | taps (number : UInt8)
  | tapCombo (entry : ComboEntry) (text : String)
  | ruleModifier (rule : String) (entry : ModifierEntry) (spelling : String)
  /-- The rule requires at least one of the modifiers. -/
  | ruleRequires (rule : String) (spellings : List String)
  | ruleCombo (rule : String) (text : String)
deriving DecidableEq, Repr

namespace Check

/-- The error of the check, if it fails. -/
def error? : Check → Option Error
  | .trigger name =>
    if (Key.ofName? name).isSome then none
    else some (.unknownTrigger (String.ofList (Text.trim name.toList)))
  | .time entry milliseconds =>
    if 1 ≤ milliseconds.toNat ∧ milliseconds.toNat ≤ 60000 then none
    else some (.timeOutOfRange entry milliseconds)
  | .taps number =>
    if 2 ≤ number.toNat ∧ number.toNat ≤ 16 then none else some (.tapsOutOfRange number)
  | .tapCombo entry text => (Combo.parse text).error?.map (.invalidTapCombo entry)
  | .ruleModifier rule entry spelling =>
    let spelled := String.ofList (Text.trim spelling.toList)
    if (Modifier.ofSpelling? spelled).isSome then none
    else some (.unknownRuleModifier rule entry ⟨spelled⟩)
  | .ruleRequires rule spellings =>
    if spellings = [] then some (.nothingRequired rule) else none
  | .ruleCombo rule text => (Combo.parse text).error?.map (.invalidRuleCombo rule)

/-- The error of the first check that fails. -/
def firstError (checks : List Check) : Option Error :=
  checks.findSome? error?

@[simp]
theorem firstError_nil : firstError [] = none :=
  rfl

@[simp]
theorem firstError_singleton (check : Check) : firstError [check] = check.error? := by
  rw [firstError, List.findSome?_singleton]

theorem firstError_cons (check : Check) (later : List Check)
    : firstError (check :: later) = check.error?.or (firstError later) := by
  rw [firstError, List.findSome?_cons]
  cases check.error? <;> rfl

theorem firstError_append (checks later : List Check)
    : firstError (checks ++ later) = (firstError checks).or (firstError later) :=
  List.findSome?_append

/-- The checks on the items of a list, item by item, by induction on the list. -/
theorem firstError_flatMap {α : Type} (items : List α) (checks : α → List Check)
    : firstError (items.flatMap checks) = items.findSome? (fun a => firstError (checks a)) := by
  induction items with
  | nil => rfl
  | cons a rest ih =>
      rw [List.flatMap_cons, firstError_append, ih, List.findSome?_cons]
      cases firstError (checks a) <;> rfl

end Check

open Check (firstError firstError_singleton)

theorem readTrigger_error? (name : String)
    : (readTrigger name).error? = (Check.trigger name).error? := by
  simp only [readTrigger, Check.error?]
  cases Key.ofName? name <;> rfl

theorem checkTime_error? (entry : TimeEntry) (milliseconds : UInt32)
    : (checkTime entry milliseconds).error? = (Check.time entry milliseconds).error? := by
  rw [checkTime, Except.error?_ite]
  rfl

theorem checkTime_eq_ok {entry : TimeEntry} {milliseconds checked : UInt32}
    (passes : checkTime entry milliseconds = .ok checked)
    : checked = milliseconds ∧ 1 ≤ checked.toNat ∧ checked.toNat ≤ 60000 := by
  obtain ⟨within, rfl⟩ := Except.ite_eq_ok_iff.mp passes
  exact ⟨rfl, within⟩

theorem checkTaps_error? (taps : UInt8)
    : (checkTaps taps).error? = (Check.taps taps).error? := by
  rw [checkTaps, Except.error?_ite]
  rfl

theorem checkTaps_eq_ok {taps checked : UInt8} (passes : checkTaps taps = .ok checked)
    : checked = taps ∧ 2 ≤ checked.toNat ∧ checked.toNat ≤ 16 := by
  obtain ⟨within, rfl⟩ := Except.ite_eq_ok_iff.mp passes
  exact ⟨rfl, within⟩

/-- A combo that is left out is not checked. -/
theorem readTapCombo_error? (entry : ComboEntry) (standard : Combo) (text : Option String)
    : (readTapCombo entry standard text).error?
      = firstError (text.map (Check.tapCombo entry)).toList := by
  cases text with
  | none => rfl
  | some text =>
      rw [readTapCombo, Except.error?_mapError, Option.map_some, Option.toList_some,
        firstError_singleton, Check.error?]

/-- The modifiers of a rule are checked from left to right. -/
theorem parseModifiers_firstError (rule : String) (entry : ModifierEntry)
    (spellings : List String)
    : ((Combo.parseModifiers spellings).mapError (Error.unknownRuleModifier rule entry)).error?
      = firstError (spellings.map (Check.ruleModifier rule entry)) := by
  rw [Except.error?_mapError, Combo.parseModifiers_error?, List.map_findSome?, firstError,
    List.findSome?_map]
  congr 1
  funext spelling
  simp only [Function.comp_apply, Combo.readModifier_error?, Check.error?]
  split <;> rfl

end EscapeKey.Config

namespace EscapeKey.Settings

open Config (Check checkTime checkTaps checkTime_error? checkTime_eq_ok checkTaps_error?
  readTapCombo_error? parseModifiers_firstError)
open Config.Check (firstError firstError_nil firstError_cons firstError_append firstError_flatMap
  firstError_singleton)

-----------------------------------------------------------------------------------------
-- Timing
-----------------------------------------------------------------------------------------

/-- The taps and the term are checked under the multi-tap policy only. -/
def Timing.policyChecks (t : Timing) : List Check :=
  match t.policy with
  | some .multiTap =>
    [.taps (t.taps.getD 2), .time .term (t.term.getD (t.timeout.getD 1000))]
  | _ => []

/-- What is checked of the timing. -/
def Timing.checks (t : Timing) : List Check :=
  .time .timeout (t.timeout.getD 1000) :: t.policyChecks
    ++ (t.single.map (Check.tapCombo .single)).toList
    ++ (t.repeated.map (Check.tapCombo .repeated)).toList

theorem Timing.readPolicy_error? (t : Timing)
    : (t.readPolicy (t.timeout.getD 1000)).error? = firstError t.policyChecks := by
  simp only [readPolicy, policyChecks]
  rcases t.policy with _ | policy
  case none => rfl
  cases policy with
  | toggle => rfl
  | multiTap =>
      have term (taps : UInt8)
          : (checkTime .term (t.term.getD (t.timeout.getD 1000)) >>= fun term =>
              pure (Tap.Policy.multiTap taps term)).error?
            = firstError [.time .term (t.term.getD (t.timeout.getD 1000))] := by
        rw [Except.error?_bind_pure, checkTime_error?, firstError_singleton]
      rw [firstError_cons, ← checkTaps_error?]
      exact Except.error?_bind fun taps _ => term taps

theorem Timing.validate_error? (t : Timing) : t.validate.error? = firstError t.checks := by
  simp only [checks, firstError_append, firstError_cons, Option.or_assoc, ← checkTime_error?,
    ← readPolicy_error?, ← readTapCombo_error? .single Tap.Settings.standard.single,
    ← readTapCombo_error? .repeated Tap.Settings.standard.repeated]
  rw [validate]
  refine Except.error?_bind fun timeout passes => ?_
  obtain ⟨rfl, _⟩ := checkTime_eq_ok passes
  refine Except.error?_bind fun policy _ => ?_
  refine Except.error?_bind fun single _ => ?_
  exact Except.error?_bind_pure _ _

-----------------------------------------------------------------------------------------
-- Override rules
-----------------------------------------------------------------------------------------

/-- What is checked of an override rule. -/
def RuleEntry.checks (r : RuleEntry) : List Check :=
  r.required.map (Check.ruleModifier r.name .required)
    ++ .ruleRequires r.name r.required :: r.suppress.map (Check.ruleModifier r.name .suppress)
    ++ [.ruleCombo r.name r.emit]

/-- The rules are checked one by one, unless they are off. -/
def Overrides.checks (o : Overrides) : List Check :=
  if o.enabled then o.rules.flatMap RuleEntry.checks else []

theorem RuleEntry.validate_error? (r : RuleEntry)
    : r.validate.error? = firstError r.checks := by
  simp only [checks, firstError_append, firstError_cons, Option.or_assoc,
    ← parseModifiers_firstError]
  rw [validate]
  refine Except.error?_bind fun required read => ?_
  have nothing : required.isEmpty = true ↔ r.required = [] := by
    rw [List.isEmpty_iff]
    exact Combo.eq_nil_iff_of_parseModifiers (Except.mapError_eq_ok_iff.mp read)
  by_cases empty : r.required = []
  case pos =>
    rw [if_pos (nothing.mpr empty), Check.error?, if_pos empty]
    rfl
  case neg =>
    rw [if_neg (mt nothing.mp empty), Check.error?, if_neg empty, Option.none_or]
    refine Except.error?_bind fun suppress _ => ?_
    rw [Except.error?_bind_pure, Except.error?_mapError, firstError_nil, Option.or_none,
      Check.error?]

theorem Overrides.validate_error? (o : Overrides)
    : o.validate.error? = firstError o.checks := by
  rw [validate, checks]
  cases enabled : o.enabled with
  | false => rfl
  | true =>
      have each : (fun r : RuleEntry => firstError r.checks) = fun r => r.validate.error? :=
        funext fun r => r.validate_error?.symm
      simp only [Bool.not_true, Bool.false_eq_true, if_false, if_true, firstError_flatMap, each]
      cases o.rules with
      | nil => rfl
      | cons r rest => exact Except.error?_mapM _ _

-----------------------------------------------------------------------------------------
-- All settings
-----------------------------------------------------------------------------------------

/-- Everything that is checked, in its order. -/
def checks (s : Settings) : List Check :=
  ((s.general.bind General.trigger).map Check.trigger).toList
    ++ s.timing.elim [] Timing.checks
    ++ s.overrides.elim [] Overrides.checks

theorem readTrigger_error? (s : Settings)
    : s.readTrigger.error?
      = firstError ((s.general.bind General.trigger).map Check.trigger).toList := by
  rw [readTrigger]
  cases s.general.bind General.trigger with
  | none => rfl
  | some name =>
      rw [Option.map_some, Option.toList_some, firstError_singleton]
      exact Config.readTrigger_error? name

theorem readTiming_error? (s : Settings)
    : s.readTiming.error? = firstError (s.timing.elim [] Timing.checks) := by
  rw [readTiming]
  cases s.timing with
  | none => rfl
  | some t => exact t.validate_error?

theorem readRules_error? (s : Settings)
    : s.readRules.error? = firstError (s.overrides.elim [] Overrides.checks) := by
  rw [readRules]
  cases s.overrides with
  | none => rfl
  | some o => exact o.validate_error?

/-- Settings fail with the error of the first check that fails. -/
theorem validate_error? (s : Settings) : s.validate.error? = firstError s.checks := by
  simp only [checks, firstError_append, Option.or_assoc, ← readTrigger_error?,
    ← readTiming_error?, ← readRules_error?]
  rw [validate]
  refine Except.error?_bind fun trigger _ => ?_
  refine Except.error?_bind fun tap _ => ?_
  exact Except.error?_bind_pure _ _

end EscapeKey.Settings
