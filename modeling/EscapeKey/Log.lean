/-! Log records. What a step logs follows from the step, so the functions that do the work
return no records, and the modules below this one derive them.
-/

namespace EscapeKey.Log

/-- How serious a record is. -/
inductive Level where
  | warn
  | info
  | debug
  | trace
deriving DecidableEq, Repr

def Level.name : Level → String
  | .warn => "WARN"
  | .info => "INFO"
  | .debug => "DEBUG"
  | .trace => "TRACE"

/-- The rank of a level, from the most serious one up. -/
def Level.rank : Level → Nat
  | .warn => 0
  | .info => 1
  | .debug => 2
  | .trace => 3

/-- The part of the program that a record comes from. -/
inductive Origin where
  | config
  | tap
  | engine
  | trace
  | host
  | commandLine
deriving DecidableEq, Repr

structure Record where
  level : Level
  origin : Origin
  message : String
deriving DecidableEq, Repr

def Record.text (r : Record) : String :=
  r.level.name ++ " " ++ r.message

end EscapeKey.Log
