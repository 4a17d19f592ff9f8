import EscapeKey.Config.Validation
import EscapeKey.Trace.Reading

/-! Why a run fails: a headline and the causes behind it. -/

namespace EscapeKey.CommandLine

inductive ReadFault where
  | missing
  /-- The bytes are no text. -/
  | notText
  /-- Anything else, in the words of the system. -/
  | other (description : String)
deriving DecidableEq, Repr

def ReadFault.text : ReadFault → String
  | .missing => "No such file or directory (os error 2)"
  | .notText => "stream did not contain valid UTF-8"
  | .other description => description

inductive ConfigFault where
  | unreadable (fault : ReadFault)
  | rejected (fault : Config.LoadError)
deriving DecidableEq, Repr

inductive Failure where
  | config (path : String) (fault : ConfigFault)
  /-- There is nothing to replay. -/
  | noTrace
  | unreadableTrace (path : String) (fault : ReadFault)
  | invalidTrace (path : String) (fault : Trace.Error)
deriving DecidableEq, Repr

/-- The path stands for the standard input: its only part is a hyphen. Slashes behind a part, and
dots between them, do not count.
-/
def isStdinPath (path : String) : Bool :=
  match path.toList.splitOn '/' with
  | [] => false
  | part :: rest => part == ['-'] && rest.all fun more => more.isEmpty || more == ['.']

def Failure.headline : Failure → String
  | .config path _ => "failed to load config " ++ path
  | .noTrace => "--trace is required unless --check-config is given"
  | .unreadableTrace path _ =>
    if isStdinPath path then "failed to read trace from stdin" else "failed to read trace " ++ path
  | .invalidTrace path _ => "in trace " ++ path

/-- Why it failed, from the outermost cause to the innermost. -/
def Failure.causes : Failure → List String
  | .config _ (.unreadable fault) => ["IO error: " ++ fault.text, fault.text]
  | .config _ (.rejected fault) => [fault.message]
  | .noTrace => []
  | .unreadableTrace _ fault => [fault.text]
  | .invalidTrace _ fault => [fault.message]

end EscapeKey.CommandLine
