import EscapeKey.CommandLine.Failure
import EscapeKey.CommandLine.Invocation
import EscapeKey.Log.Config
import EscapeKey.Log.Engine
import EscapeKey.Log.Trace
import EscapeKey.Text.Padding

/-! Runs: a configuration is loaded, and then it is printed or a trace is replayed with it. Nothing
is printed before everything has been read. How settings are written down and how the log and
failures are set out is not for a run to say, so it is given the formats.
-/

namespace EscapeKey.CommandLine

/-- What a run finds around it. -/
structure Surroundings where
  file : String → Except ReadFault String
  stdin : Except ReadFault String
  /-- What the environment asks to be logged, if it asks for anything. -/
  logFilter : Option String

/-- The formats of what a run reads and of what it writes to its standard error. -/
structure Formats where
  /-- How a configuration file describes settings. -/
  settings : Settings.Reader
  /-- The log of these records, of which a filter shows some. -/
  log (filter : String) (records : List Log.Record) : String
  report (headline : String) (causes : List String) : String

/-- What a run leaves behind. -/
structure Outcome where
  exit : UInt8
  stdout : String
  stderr : String
deriving DecidableEq, Repr

/-- Lines, each with its end. -/
def unlines (lines : List String) : String :=
  String.join (lines.map (· ++ "\n"))

def configText (c : Config) : String :=
  let overrides :=
    if c.rules.isEmpty then ["  overrides:  disabled"]
    else "  overrides:" :: c.rules.map ("    " ++ ·.text)
  unlines (["Configuration is valid",
    "  trigger:    " ++ c.trigger.name,
    "  timeout:    " ++ toString c.tap.timeout.toNat ++ "ms",
    "  policy:     " ++ Log.policyText c.tap.policy,
    "  single tap: " ++ c.tap.single.text,
    "  repeat tap: " ++ c.tap.repeated.text] ++ overrides)

def reportText : Host.Report → String
  | .press k => "  press " ++ k.name
  | .release k => "  release " ++ k.name

def reportsText (reports : List Host.Report) : String :=
  unlines ("reports:" :: reports.map reportText)

def stepText (s : Trace.Replay.Step) : String :=
  Text.padRight 36 s.event.text ++ " -> " ++ s.result.text

def replayText {τ : Type} (r : Trace.Replay τ) : String :=
  unlines (r.steps.map stepText ++ ["final mode: " ++ r.engine.tap.mode.text])

/-- The replay of events on a host without held keys, with a counter of `w` bits. -/
def simulate (w : Nat) (c : Config) (events : List Trace.Event) : Trace.Replay (BitVec w) :=
  Trace.replay c.engine .idle events

namespace Invocation

def counterBits (inv : Invocation) : Nat :=
  (inv.width.getD .bits32).bits

def loadConfig (inv : Invocation) (read : Settings.Reader) (around : Surroundings)
    : Except Failure Config :=
  match inv.config with
  | none => .ok .standard
  | some path =>
    match around.file path with
    | .error fault => .error (.config path (.unreadable fault))
    | .ok text => (Config.parse read text).mapError fun e => .config path (.rejected e)

def traceText (path : String) (around : Surroundings) : Except Failure String :=
  let text := if isStdinPath path then around.stdin else around.file path
  text.mapError (.unreadableTrace path)

def loadTrace (path : String) (around : Surroundings) : Except Failure (List Trace.Event) := do
  let text ← traceText path around
  (Trace.parse text).mapError (.invalidTrace path)

/-- What the run prints, or why it fails. -/
def run (inv : Invocation) (read : Settings.Reader) (around : Surroundings)
    : Except Failure String := do
  let config ← inv.loadConfig read around
  if inv.checkConfig then return configText config
  match inv.trace with
  | none => throw .noTrace
  | some path =>
    let events ← loadTrace path around
    let replay := simulate inv.counterBits config events
    return replayText replay ++ (if inv.reports then reportsText replay.host.reports else "")

/-- The records of loading the configuration. -/
def configRecords (inv : Invocation) (read : Settings.Reader) (around : Surroundings)
    : List Log.Record :=
  match inv.config with
  | none => []
  | some path =>
    ⟨.debug, .config, "loading config from " ++ path⟩
      :: match around.file path with
        | .ok text => Log.ofConfigText read text
        | .error _ => []

/-- The records of reading and replaying the trace at a path. -/
def traceRecords (inv : Invocation) (config : Config) (path : String) (around : Surroundings)
    : List Log.Record :=
  match traceText path around with
  | .error _ => []
  | .ok text =>
    let parsed := Trace.parse text
    Log.ofReading parsed ++ match parsed with
      | .error _ => []
      | .ok events =>
        let engine : Engine (BitVec inv.counterBits) := config.engine
        ⟨.debug, .commandLine, "replaying " ++ toString events.length ++ " events"⟩
          :: Log.ofReplay engine .idle events

def records (inv : Invocation) (read : Settings.Reader) (around : Surroundings)
    : List Log.Record :=
  inv.configRecords read around
    ++ match inv.loadConfig read around, inv.checkConfig, inv.trace with
      | .ok config, false, some path => inv.traceRecords config path around
      | _, _, _ => []

/-- What is logged: what the environment asks for, or else by how verbose the run is. -/
def logFilter (inv : Invocation) (around : Surroundings) : String :=
  around.logFilter.getD (if inv.verbose then "debug" else "warn")

/-- What a run leaves behind. -/
def outcome (inv : Invocation) (formats : Formats) (around : Surroundings) : Outcome :=
  let log := formats.log (inv.logFilter around) (inv.records formats.settings around)
  match inv.run formats.settings around with
  | .ok text => ⟨0, text, log⟩
  | .error failure => ⟨1, "", log ++ formats.report failure.headline failure.causes⟩

end Invocation

end EscapeKey.CommandLine
