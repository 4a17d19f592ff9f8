import EscapeKey.CommandLine.Program

/-! The program: it reads the files that its command line names and prints what the run leaves
behind.
-/

namespace EscapeKey

open CommandLine (Command ReadFault Surroundings)

def decodeText (bytes : ByteArray) : Except ReadFault String :=
  match String.fromUTF8? bytes with
  | some text => .ok text
  | none => .error .notText

/-- Reads a source of bytes as text. -/
def readText (source : IO ByteArray) : IO (Except ReadFault String) := do
  try
    return decodeText (← source)
  catch
    | .noFileOrDirectory .. => return .error .missing
    | fault => return .error (.other (toString fault))

/-- Reads a file if there is one to read. -/
def readNamed (path : Option String) : IO (Except ReadFault String) := do
  match path with
  | some path => readText (IO.FS.readBinFile path)
  | none => return .error .missing

/-- Reads all that a command needs. The environment is asked for no filter of the log. -/
def gather (command : Option Command) : IO Surroundings := do
  match command with
  | some (.run inv) =>
    let fromStdin := inv.trace.any CommandLine.isStdinPath
    let replays := !inv.checkConfig
    let stdin ←
      if replays && fromStdin then readText (do (← IO.getStdin).readBinToEnd)
      else pure (.ok "")
    let config ← readNamed inv.config
    let trace ← readNamed (if replays && !fromStdin then inv.trace else none)
    return {
      stdin
      file := fun path => if inv.config = some path then config else trace
      logFilter := none }
  | _ => return { stdin := .ok "", file := fun _ => .error .missing, logFilter := none }

end EscapeKey

def main (args : List String) : IO UInt32 := do
  let command := EscapeKey.CommandLine.Command.parse? args
  let outcome := EscapeKey.CommandLine.execute command (← EscapeKey.gather command)
  IO.print outcome.stdout
  IO.eprint outcome.stderr
  return outcome.exit.toUInt32
