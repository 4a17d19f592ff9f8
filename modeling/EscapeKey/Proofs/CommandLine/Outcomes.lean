import EscapeKey.CommandLine.Program
import EscapeKey.Proofs.CommandLine.ReportSection
import EscapeKey.Proofs.Except

/-! What runs of the command line leave behind, in whatever formats. A run loads its configuration
and then, unless it only checks that, reads a trace. It prints nothing before both have succeeded,
and what it prints then depends on no more than what it has read and the flags for it.
-/

namespace EscapeKey.CommandLine

namespace Surroundings

/-- A run that is given this path, or none, finds a configuration: the standard one or the one that
the settings in the file describe.
-/
inductive Loads (around : Surroundings) (read : Settings.Reader)
    : Option String → Config → Prop where
  | standard : around.Loads read none .standard
  | file {path text : String} {settings : Settings} {c : Config}
    (readable : around.file path = .ok text) (described : read text = .ok settings)
    (valid : settings.validate = .ok c)
    : around.Loads read (some path) c

/-- The file at this path cannot be read, or it describes no settings, or these are not valid. -/
inductive LoadFails (around : Surroundings) (read : Settings.Reader)
    : Option String → Failure → Prop where
  | unreadable {path : String} {fault : ReadFault} (missing : around.file path = .error fault)
    : around.LoadFails read (some path) (.config path (.unreadable fault))
  | malformed {path text reason : String} (readable : around.file path = .ok text)
    (undescribed : read text = .error reason)
    : around.LoadFails read (some path) (.config path (.rejected (.malformed reason)))
  | invalid {path text : String} {settings : Settings} {error : Config.Error}
    (readable : around.file path = .ok text) (described : read text = .ok settings)
    (fails : settings.validate = .error error)
    : around.LoadFails read (some path) (.config path (.rejected (.invalid error)))

/-- A trace is given by this path and can be read, on the standard input or from the file, and these
are its events.
-/
inductive Reads (around : Surroundings) : Option String → List Trace.Event → Prop where
  | stdin {path text : String} {events : List Trace.Event} (dash : isStdinPath path = true)
    (readable : around.stdin = .ok text) (valid : Trace.parse text = .ok events)
    : around.Reads (some path) events
  | file {path text : String} {events : List Trace.Event} (noDash : isStdinPath path = false)
    (readable : around.file path = .ok text) (valid : Trace.parse text = .ok events)
    : around.Reads (some path) events

/-- A path leads to a configuration, or to the failure to load one, by cases on what is there. -/
theorem loads_or_loadFails (around : Surroundings) (read : Settings.Reader)
    (named : Option String)
    : (∃ c, around.Loads read named c) ∨ ∃ failure, around.LoadFails read named failure := by
  cases named with
  | none => exact .inl ⟨_, .standard⟩
  | some path =>
      cases found : around.file path with
      | error fault => exact .inr ⟨_, .unreadable found⟩
      | ok text =>
          cases described : read text with
          | error reason => exact .inr ⟨_, .malformed found described⟩
          | ok settings =>
              cases checked : settings.validate with
              | error error => exact .inr ⟨_, .invalid found described checked⟩
              | ok c => exact .inl ⟨c, .file found described checked⟩

end Surroundings

namespace Invocation

variable {inv other : Invocation} {around elsewhere : Surroundings} {read : Settings.Reader}
variable {formats : Formats}

-----------------------------------------------------------------------------------------
-- Reading
-----------------------------------------------------------------------------------------

theorem loadConfig_of_loads {c : Config} (loads : around.Loads read inv.config c)
    : inv.loadConfig read around = .ok c := by
  rw [loadConfig]
  generalize inv.config = named at loads
  cases loads with
  | standard => rfl
  | file readable described valid =>
      simp only [readable, Config.parse, described, valid, bind, Except.bind, Except.mapError]

theorem loadConfig_of_loadFails {failure : Failure}
    (fails : around.LoadFails read inv.config failure)
    : inv.loadConfig read around = .error failure := by
  rw [loadConfig]
  generalize inv.config = named at fails
  cases fails with
  | unreadable missing => simp only [missing]
  | malformed readable undescribed =>
      simp only [readable, Config.parse, undescribed, bind, Except.bind, Except.mapError]
  | invalid readable described fails =>
      simp only [readable, Config.parse, described, fails, bind, Except.bind, Except.mapError]

/-- Two runs find the same configuration: they name the same file, if any, with the same contents.
-/
structure SameConfig (inv other : Invocation) (around elsewhere : Surroundings) : Prop where
  named : other.config = inv.config
  contents : ∀ path ∈ inv.config, elsewhere.file path = around.file path

theorem SameConfig.loadConfig_eq (same : inv.SameConfig other around elsewhere)
    : other.loadConfig read elsewhere = inv.loadConfig read around := by
  rw [loadConfig, loadConfig, same.named]
  cases named : inv.config with
  | none => rfl
  | some path => simp only [same.contents path named]

theorem loadTrace_eq_ok_iff {path : String} {events : List Trace.Event}
    : loadTrace path around = .ok events
      ↔ ∃ text,
          (if isStdinPath path then around.stdin else around.file path) = .ok text
          ∧ Trace.parse text = .ok events := by
  simp only [loadTrace, traceText, Except.bind_eq_ok_iff, Except.mapError_eq_ok_iff]

theorem reads_iff {named : Option String} {events : List Trace.Event}
    : around.Reads named events
      ↔ ∃ path, named = some path ∧ loadTrace path around = .ok events := by
  simp only [loadTrace_eq_ok_iff]
  constructor
  · intro reads
    cases reads with
    | stdin dash readable valid => exact ⟨_, rfl, _, by rw [if_pos dash, readable], valid⟩
    | file noDash readable valid => exact ⟨_, rfl, _, by rw [noDash]; exact readable, valid⟩
  · intro loaded
    obtain ⟨path, rfl, text, readable, valid⟩ := loaded
    cases place : isStdinPath path with
    | true => exact .stdin place (by rw [← readable, if_pos place]) valid
    | false => exact .file place (by rw [← readable, place]; rfl) valid

-----------------------------------------------------------------------------------------
-- Running
-----------------------------------------------------------------------------------------

theorem run_of_loadFails {failure : Failure} (fails : around.LoadFails read inv.config failure)
    : inv.run read around = .error failure := by
  rw [run, loadConfig_of_loadFails fails]
  rfl

theorem run_of_checks {c : Config} (loads : around.Loads read inv.config c)
    (checks : inv.checkConfig = true)
    : inv.run read around = .ok (configText c) := by
  rw [run, loadConfig_of_loads loads, checks]
  rfl

theorem run_of_reads {c : Config} {events : List Trace.Event}
    (loads : around.Loads read inv.config c) (replays : inv.checkConfig = false)
    (reads : around.Reads inv.trace events)
    : let replay := simulate inv.counterBits c events
      inv.run read around
        = .ok
            (replayText replay
              ++ if inv.reports then reportsText replay.host.reports else "") := by
  obtain ⟨path, named, loaded⟩ := reads_iff.mp reads
  rw [run, loadConfig_of_loads loads, replays, named]
  change (loadTrace path around >>= _) = _
  rw [loaded]
  rfl

/-- A run that prints something without a check has read its trace. -/
theorem reads_of_run {text : String} (prints : inv.run read around = .ok text)
    (replays : inv.checkConfig = false)
    : ∃ events, around.Reads inv.trace events := by
  rw [run, replays] at prints
  obtain ⟨c, _, prints⟩ := Except.bind_eq_ok_iff.mp prints
  cases named : inv.trace with
  | none =>
      rw [named] at prints
      contradiction
  | some path =>
      rw [named] at prints
      obtain ⟨events, loaded, _⟩ := Except.bind_eq_ok_iff.mp prints
      exact ⟨events, reads_iff.mpr ⟨path, rfl, loaded⟩⟩

/-- A run prints something exactly if its configuration loads and, unless it only checks that, its
trace can be read.
-/
theorem exists_run_iff
    : (∃ text, inv.run read around = .ok text)
      ↔ (∃ c, around.Loads read inv.config c)
        ∧ (inv.checkConfig = true ∨ ∃ events, around.Reads inv.trace events) := by
  rcases around.loads_or_loadFails read inv.config with ⟨c, loads⟩ | ⟨failure, fails⟩
  · cases mode : inv.checkConfig with
    | true => exact iff_of_true ⟨_, run_of_checks loads mode⟩ ⟨⟨c, loads⟩, .inl rfl⟩
    | false =>
        constructor
        · intro printed
          obtain ⟨text, prints⟩ := printed
          exact ⟨⟨c, loads⟩, .inr (reads_of_run prints mode)⟩
        · intro found
          rcases found.2 with checks | ⟨events, reads⟩
          · contradiction
          · exact ⟨_, run_of_reads loads mode reads⟩
  · rw [run_of_loadFails fails]
    apply iff_of_false nofun
    intro loaded
    obtain ⟨⟨c, loads⟩, _⟩ := loaded
    exact absurd ((loadConfig_of_loads loads).symm.trans (loadConfig_of_loadFails fails)) nofun

/-- Runs that only check the same configuration print the same. -/
theorem SameConfig.run_eq (same : inv.SameConfig other around elsewhere)
    (checks : inv.checkConfig = true) (alsoChecks : other.checkConfig = true)
    : other.run read elsewhere = inv.run read around := by
  rw [run, run, same.loadConfig_eq, checks, alsoChecks]
  rfl

-----------------------------------------------------------------------------------------
-- What a run leaves behind
-----------------------------------------------------------------------------------------

theorem outcome_of_ok {text : String} (prints : inv.run formats.settings around = .ok text)
    : (inv.outcome formats around).exit = 0 ∧ (inv.outcome formats around).stdout = text := by
  rw [outcome, prints]
  exact ⟨rfl, rfl⟩

theorem outcome_of_error {failure : Failure}
    (fails : inv.run formats.settings around = .error failure)
    : (inv.outcome formats around).exit = 1 ∧ (inv.outcome formats around).stdout = "" := by
  rw [outcome, fails]
  exact ⟨rfl, rfl⟩

theorem exit_eq_zero_iff
    : (inv.outcome formats around).exit = 0
      ↔ ∃ text, inv.run formats.settings around = .ok text := by
  cases result : inv.run formats.settings around with
  | ok text => exact iff_of_true (outcome_of_ok result).1 ⟨text, rfl⟩
  | error failure =>
      rw [(outcome_of_error result).1]
      exact iff_of_false nofun nofun

/-- A run that does not succeed prints nothing. -/
theorem exit_eq_zero_or (inv : Invocation) (formats : Formats) (around : Surroundings)
    : (inv.outcome formats around).exit = 0
      ∨ (inv.outcome formats around).exit = 1 ∧ (inv.outcome formats around).stdout = "" := by
  cases result : inv.run formats.settings around with
  | ok text => exact .inl (outcome_of_ok result).1
  | error failure => exact .inr (outcome_of_error result)

/-- Runs that both succeed or both fail have the same exit code. -/
theorem exit_congr
    (alike : (∃ text, other.run formats.settings elsewhere = .ok text)
      ↔ ∃ text, inv.run formats.settings around = .ok text)
    : (other.outcome formats elsewhere).exit = (inv.outcome formats around).exit := by
  rcases inv.exit_eq_zero_or formats around with zero | ⟨one, _⟩
  · rw [zero]
    exact exit_eq_zero_iff.mpr (alike.mpr (exit_eq_zero_iff.mp zero))
  · rcases other.exit_eq_zero_or formats elsewhere with zero | ⟨alsoOne, _⟩
    · have succeeds := exit_eq_zero_iff.mpr (alike.mp (exit_eq_zero_iff.mp zero))
      exact absurd (succeeds.symm.trans one) (by decide)
    · rw [one, alsoOne]

/-- What a run prints and its exit code do not depend on what it logs. -/
theorem outcome_of_run_eq
    (same : other.run formats.settings elsewhere = inv.run formats.settings around)
    : (other.outcome formats elsewhere).stdout = (inv.outcome formats around).stdout
      ∧ (other.outcome formats elsewhere).exit = (inv.outcome formats around).exit := by
  rw [outcome, outcome, same]
  cases inv.run formats.settings around <;> exact ⟨rfl, rfl⟩

theorem stdout_of_reads (inv : Invocation) {c : Config} {events : List Trace.Event}
    (loads : around.Loads formats.settings inv.config c) (replays : inv.checkConfig = false)
    (reads : around.Reads inv.trace events)
    : let replay := simulate inv.counterBits c events
      (inv.outcome formats around).stdout
        = replayText replay ++ if inv.reports then reportsText replay.host.reports else "" :=
  (outcome_of_ok (run_of_reads loads replays reads)).2

end Invocation

/-- A run does all or nothing, and its flags do not meddle with each other. It succeeds exactly if
its configuration loads and it only checks that or reads a trace, and else it exits with one and
prints nothing. A configuration that does not load is what it fails with, whatever the trace is
like. What a check prints depends on the configuration alone. A replay with key reports succeeds
where it does without them, and prints the same and then a heading and a line for each report, in
order. Being verbose changes neither what is printed nor the exit code.
-/
theorem outcome_all_or_nothing (formats : Formats) (inv : Invocation) (around : Surroundings)
    : let outcome := inv.outcome formats around
      (outcome.exit = 0
        ↔ (∃ c, around.Loads formats.settings inv.config c)
          ∧ (inv.checkConfig = true ∨ ∃ events, around.Reads inv.trace events))
      ∧ (outcome.exit = 0 ∨ outcome.exit = 1 ∧ outcome.stdout = "")
      ∧ (∀ failure,
          around.LoadFails formats.settings inv.config failure
          → inv.run formats.settings around = .error failure
            ∧ outcome.exit = 1
            ∧ outcome.stdout = "")
      ∧ (∀ other elsewhere,
          inv.SameConfig other around elsewhere
          → inv.checkConfig = true
          → other.checkConfig = true
          → let outcome' := other.outcome formats elsewhere
            outcome'.stdout = outcome.stdout ∧ outcome'.exit = outcome.exit)
      ∧ (inv.checkConfig = false
          → let plain := { inv with reports := false }.outcome formats around
            let full := { inv with reports := true }.outcome formats around
            full.exit = plain.exit
            ∧ ∀ c events,
                around.Loads formats.settings inv.config c
                → around.Reads inv.trace events
                → let replay : Trace.Replay (BitVec inv.counterBits) :=
                    Trace.replay c.engine .idle events
                  let listing := reportsText replay.host.reports
                  plain.stdout = replayText replay
                  ∧ full.stdout = plain.stdout ++ listing
                  ∧ Text.lines listing
                    = "reports:".toList
                      :: replay.host.reports.map fun
                        | .press k => "  press ".toList ++ k.name.toList
                        | .release k => "  release ".toList ++ k.name.toList)
      ∧ ∀ verbose,
          let outcome' := { inv with verbose }.outcome formats around
          outcome'.stdout = outcome.stdout ∧ outcome'.exit = outcome.exit := by
  intro outcome
  refine ⟨?succeeds, inv.exit_eq_zero_or formats around, ?fails, ?checks, ?reports, ?verbose⟩
  case succeeds => exact Invocation.exit_eq_zero_iff.trans Invocation.exists_run_iff
  case fails =>
    intro failure fails
    have ends := Invocation.run_of_loadFails fails
    exact ⟨ends, Invocation.outcome_of_error ends⟩
  case checks =>
    intro other elsewhere same checks alsoChecks
    exact Invocation.outcome_of_run_eq (same.run_eq checks alsoChecks)
  case reports =>
    intro replays plain full
    have succeeds (reports : Bool)
        : (∃ text, { inv with reports }.run formats.settings around = .ok text)
          ↔ (∃ c, around.Loads formats.settings inv.config c)
            ∧ (inv.checkConfig = true ∨ ∃ events, around.Reads inv.trace events) :=
      Invocation.exists_run_iff
    refine ⟨Invocation.exit_congr ((succeeds true).trans (succeeds false).symm), ?_⟩
    intro c events loads reads replay listing
    have without : plain.stdout = replayText replay ++ "" :=
      Invocation.stdout_of_reads { inv with reports := false } loads replays reads
    rw [String.append_empty] at without
    rw [without]
    exact ⟨rfl, Invocation.stdout_of_reads { inv with reports := true } loads replays reads,
      lines_reportsText replay.host.reports⟩
  case verbose =>
    intro verbose
    exact Invocation.outcome_of_run_eq rfl

/-- A trace on the standard input is replayed with a configuration from a file, and the reports tell
the keys of the single tap and of the chord for the override. A check of the same file is not
bothered by an unreadable standard input, and a configuration that is not valid is what the run
fails with, though the trace is missing.
-/
theorem outcome_all_or_nothing_stdin
    : let around : Surroundings := {
        file := fun path =>
          if path = "keys.toml" then .ok "[tap]\ntimeout_ms = 300\n"
          else if path = "zero.toml" then .ok "[tap]\ntimeout_ms = 0\n"
          else .error .missing
        stdin := .ok "0 press\n100 press mods=Cmd\n"
        logFilter := none }
      let elsewhere : Surroundings :=
        { around with stdin := .error .notText, logFilter := some "trace" }
      let timing (timeout : UInt32) : Settings :=
        ⟨none, some ⟨some timeout, none, none, none, none, none⟩, none⟩
      let c : Config :=
        { Config.standard with tap := { Tap.Settings.standard with timeout := 300 } }
      let events : List Trace.Event :=
        [⟨0, .press, none, ∅⟩, ⟨100, .press, none, .ofModifiers [⟨.gui, .left⟩, ⟨.gui, .right⟩]⟩]
      let inv : Invocation := ⟨some "keys.toml", some "-", some .bits16, true, false, true⟩
      let check : Invocation := { inv with checkConfig := true }
      let check' : Invocation := ⟨some "keys.toml", none, none, false, true, false⟩
      let zero : Invocation := { inv with config := some "zero.toml", trace := some "lost.txt" }
      let failure : Failure :=
        .config "zero.toml" (.rejected (.invalid (.timeOutOfRange .timeout 0)))
      let full := inv.outcome .standard around
      let plain := { inv with reports := false }.outcome .standard around
      let replay : Trace.Replay (BitVec 16) := Trace.replay c.engine .idle events
      let listing := reportsText replay.host.reports
      Toml.readSettings "[tap]\ntimeout_ms = 300\n" = .ok (timing 300)
      ∧ around.Loads Toml.readSettings inv.config c
      ∧ around.Reads inv.trace events
      ∧ full.exit = 0
      ∧ full.stdout = plain.stdout ++ listing
      ∧ Text.lines listing
        = ["reports:", "  press ESC", "  release ESC", "  press LEFT_META", "  press RIGHT_META",
            "  press GRAVE", "  release GRAVE"].map String.toList
      ∧ check.SameConfig check' around elsewhere
      ∧ (check'.outcome .standard elsewhere).stdout = (check.outcome .standard around).stdout
      ∧ around.LoadFails Toml.readSettings zero.config failure
      ∧ zero.run Toml.readSettings around = .error failure
      ∧ (zero.outcome .standard around).exit = 1 := by
  intro around elsewhere timing c events inv check check' zero failure full plain replay listing
  have described : Toml.readSettings "[tap]\ntimeout_ms = 300\n" = .ok (timing 300) :=
    Except.toOption_eq_some_iff.mp (by decide +kernel)
  have valid : (timing 300).validate = .ok c := Except.toOption_eq_some_iff.mp (by decide +kernel)
  have describedZero : Toml.readSettings "[tap]\ntimeout_ms = 0\n" = .ok (timing 0) :=
    Except.toOption_eq_some_iff.mp (by decide +kernel)
  have parsed : Trace.parse "0 press\n100 press mods=Cmd\n" = .ok events :=
    Except.toOption_eq_some_iff.mp (by decide +kernel)
  have loads : around.Loads Toml.readSettings inv.config c := .file rfl described valid
  have reads : around.Reads inv.trace events := .stdin (by decide) rfl parsed
  have same : check.SameConfig check' around elsewhere := ⟨rfl, fun _ _ => rfl⟩
  have fails : around.LoadFails Toml.readSettings zero.config failure :=
    .invalid rfl describedZero (Except.error?_eq_some_iff.mp (by decide +kernel))
  obtain ⟨succeeds, _, _, _, reports, _⟩ := outcome_all_or_nothing .standard inv around
  obtain ⟨_, _, _, checks, _, _⟩ := outcome_all_or_nothing .standard check around
  obtain ⟨_, _, failed, _, _, _⟩ := outcome_all_or_nothing .standard zero around
  obtain ⟨_, printed, lines⟩ := (reports rfl).2 c events loads reads
  obtain ⟨ends, exit, _⟩ := failed failure fails
  exact ⟨described, loads, reads, succeeds.mpr ⟨⟨c, loads⟩, .inr ⟨events, reads⟩⟩, printed,
    lines.trans (by decide +kernel), same, (checks check' elsewhere same rfl rfl).1, fails, ends,
    exit⟩

end EscapeKey.CommandLine
