import EscapeKey.CommandLine.Run
import EscapeKey.Config.Decoding
import EscapeKey.Text.Control

/-! The formats of the program, and what it does with a whole command line. What holds of runs holds
in any formats and does not rest on these.
-/

namespace EscapeKey.CommandLine

/-- The text with every line but the first moved to the right. -/
def hang (width : Nat) (text : String) : String :=
  let lines := (text.toList.splitOn '\n').map String.ofList
  ("\n" ++ String.ofList (List.replicate width ' ')).intercalate lines

-----------------------------------------------------------------------------------------
-- The log
-----------------------------------------------------------------------------------------

/-- The name of the part of the program that a record comes from. -/
def originName : Log.Origin → String
  | .config => "quickesc_core::config::parser"
  | .tap => "quickesc_core::tap"
  | .engine => "quickesc_core::engine"
  | .trace => "quickesc_core::trace"
  | .host => "quickesc_core::output::recording"
  | .commandLine => "quickesc"

/-- A record as a line of the log, of which only the visible part is written. A control string that
the message leaves open takes the end of the line with it.
-/
def logLine (r : Log.Record) : String :=
  let header := "[" ++ Text.padRight 5 r.level.name ++ " " ++ originName r.origin ++ "] "
  Text.visible (header ++ hang 4 r.message ++ "\n")

/-- The least serious level that a filter shows. Any other filter than one of these shows
nothing.
-/
def threshold? (filter : String) : Option Log.Level :=
  [("warn", .warn), ("info", .info), ("debug", .debug), ("trace", .trace)].lookup filter

/-- The shown records, line by line. -/
def logText (filter : String) (records : List Log.Record) : String :=
  match threshold? filter with
  | none => ""
  | some least => String.join ((records.filter (·.level.rank ≤ least.rank)).map logLine)

-----------------------------------------------------------------------------------------
-- Reports of failures
-----------------------------------------------------------------------------------------

/-- A cause on a line of its own, numbered if there are several. -/
def causeText (number : Option Nat) (cause : String) : String :=
  match number with
  | none => "\n    " ++ hang 4 cause
  | some n => "\n    " ++ toString n ++ ": " ++ hang 7 cause

def failureText (headline : String) (causes : List String) : String :=
  let causes := match causes with
    | [] => ""
    | [cause] => "\n\nCaused by:" ++ causeText none cause
    | causes =>
      "\n\nCaused by:" ++ String.join (causes.zipIdx.map fun (cause, n) => causeText (some n) cause)
  "Error: " ++ headline ++ causes ++ "\n"

/-- The formats of the program. -/
def Formats.standard : Formats where
  settings := Toml.readSettings
  log := logText
  report := failureText

-----------------------------------------------------------------------------------------
-- Command lines
-----------------------------------------------------------------------------------------

def helpText : String :=
  unlines ["Replay key traces through the quick-escape tap/hold engine",
    "",
    "Usage: quickesc [OPTIONS]",
    "",
    "Options:",
    "  -c, --config <CONFIG>          TOML configuration file",
    "  -t, --trace <TRACE>            Event trace to replay (\"-\" reads stdin)",
    "      --timer-bits <TIMER_BITS>  Width of the simulated millisecond counter " ++
      "[default: 32] [possible values: 16, 32]",
    "  -r, --reports                  Also print the low-level key reports",
    "      --check-config             Validate config and exit",
    "  -v, --verbose                  Enable debug logging",
    "  -h, --help                     Print help",
    "  -V, --version                  Print version"]

def versionText : String :=
  "quickesc 0.3.0\n"

/-- What is said about a command line that is not accepted. -/
def usageText : String :=
  "Usage: quickesc [OPTIONS]\n\nFor more information, try '--help'.\n"

/-- What a command line leaves behind; none if it is not accepted. -/
def execute (command : Option Command) (around : Surroundings) : Outcome :=
  match command with
  | none => ⟨2, "", usageText⟩
  | some .help => ⟨0, helpText, ""⟩
  | some .version => ⟨0, versionText, ""⟩
  | some (.run inv) => inv.outcome .standard around

end EscapeKey.CommandLine
