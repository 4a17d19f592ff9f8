import EscapeKey.Text.Blank

/-! Command lines: which arguments are accepted and what they ask for. Arguments count from left
to right, each may be given once, and there are none without a name.
-/

namespace EscapeKey.CommandLine

/-- The width of the simulated counter. -/
inductive Width where
  | bits16
  | bits32
deriving DecidableEq, Repr

def Width.bits : Width → Nat
  | .bits16 => 16
  | .bits32 => 32

/-- What one run is asked to do. -/
structure Invocation where
  config : Option String
  /-- The file with the trace; `-` is the standard input. -/
  trace : Option String
  /-- The width of the counter, 32 bits if none is given. -/
  width : Option Width
  reports : Bool
  /-- The configuration is checked and printed, and nothing is replayed. -/
  checkConfig : Bool
  verbose : Bool
deriving DecidableEq, Repr

/-- What a command line asks for. -/
inductive Command where
  | run (invocation : Invocation)
  | help
  | version
deriving DecidableEq, Repr

inductive Flag where
  | reports
  | checkConfig
  | verbose
  | help
  | version
deriving DecidableEq, Repr

inductive Setting where
  | config
  | trace
  | width
deriving DecidableEq, Repr

/-- An argument that a name stands for. -/
inductive Named where
  | flag (flag : Flag)
  | setting (setting : Setting)
deriving DecidableEq, Repr

/-- The argument behind two hyphens. -/
def Named.ofLong? (name : String) : Option Named :=
  [("config", setting .config), ("trace", setting .trace), ("timer-bits", setting .width),
    ("reports", flag .reports), ("check-config", flag .checkConfig), ("verbose", flag .verbose),
    ("help", flag .help), ("version", flag .version)].lookup name

/-- The argument behind one hyphen. -/
def Named.ofShort? (letter : Char) : Option Named :=
  [('c', setting .config), ('t', setting .trace), ('r', flag .reports), ('v', flag .verbose),
    ('h', flag .help), ('V', flag .version)].lookup letter

/-- An argument as it was given. -/
inductive Item where
  | flag (flag : Flag)
  | setting (setting : Setting) (value : String)
  /-- The argument is not accepted, and nothing behind it counts. -/
  | refused
deriving DecidableEq, Repr

/-- A value of its own does not look like the name of an argument. -/
def isValue (arg : String) : Bool :=
  arg == "-" || !(arg.toList.head? == some '-')

/-- A setting whose value may come with the name or else is the next argument; then what
follows.
-/
def settingItems (s : Setting) (attached : Option String) (rest : List String)
    (next : List String → List Item) : List Item :=
  match attached, rest with
  | some value, rest => .setting s value :: next rest
  | none, value :: rest => if isValue value then .setting s value :: next rest else [.refused]
  | none, [] => [.refused]

/-- The letters behind one hyphen: flags, and at the end perhaps a setting, whose value may
follow at once or behind an equals sign; then what follows.
-/
def shortItems (rest : List String) (next : List String → List Item) : List Char → List Item
  | [] => next rest
  | letter :: letters =>
    match Named.ofShort? letter with
    | some (.flag f) => .flag f :: shortItems rest next letters
    | some (.setting s) =>
      let attached := match letters with
        | [] => none
        | '=' :: value => some (String.ofList value)
        | value => some (String.ofList value)
      settingItems s attached rest next
    | none => [.refused]

/-- The name behind two hyphens, perhaps with a value behind an equals sign; then what follows. -/
def longItems (rest : List String) (next : List String → List Item) (text : List Char)
    : List Item :=
  let (name, attached) := Text.cut '=' text
  match Named.ofLong? (String.ofList name), attached with
  | some (.flag f), none => .flag f :: next rest
  | some (.setting s), attached => settingItems s (attached.map String.ofList) rest next
  | _, _ => [.refused]

/-- The arguments as they were given, at most so many of them. Behind two bare hyphens only
arguments without a name could stand.
-/
def itemsWithin : Nat → List String → List Item
  | 0, _ => []
  | _, [] => []
  | fuel + 1, arg :: rest =>
    match arg.toList with
    | ['-', '-'] => if rest.isEmpty then [] else [.refused]
    | '-' :: '-' :: text => longItems rest (itemsWithin fuel) text
    | '-' :: letter :: letters => shortItems rest (itemsWithin fuel) (letter :: letters)
    | _ => [.refused]

def items (args : List String) : List Item :=
  itemsWithin args.length args

def Width.ofName? (name : String) : Option Width :=
  [("16", Width.bits16), ("32", Width.bits32)].lookup name

/-- The invocation with a flag, unless it was given before. -/
def Invocation.addFlag? (inv : Invocation) : Flag → Option Invocation
  | .reports => if inv.reports then none else some { inv with reports := true }
  | .checkConfig => if inv.checkConfig then none else some { inv with checkConfig := true }
  | .verbose => if inv.verbose then none else some { inv with verbose := true }
  | .help | .version => some inv

/-- The invocation with a setting, unless it was given before or its value is not accepted. -/
def Invocation.addSetting? (inv : Invocation) (s : Setting) (value : String)
    : Option Invocation :=
  match s with
  | .config =>
    if inv.config.isSome || value.isEmpty then none else some { inv with config := some value }
  | .trace =>
    if inv.trace.isSome || value.isEmpty then none else some { inv with trace := some value }
  | .width =>
    if inv.width.isSome then none
    else (Width.ofName? value).map fun w => { inv with width := some w }

def Invocation.empty : Invocation :=
  ⟨none, none, none, false, false, false⟩

/-- What the arguments ask for, behind those that the invocation has taken in. Help and version
are answered at once.
-/
def Command.ofItems? (inv : Invocation) : List Item → Option Command
  | [] => some (.run inv)
  | .refused :: _ => none
  | .flag .help :: _ => some .help
  | .flag .version :: _ => some .version
  | .flag f :: rest => inv.addFlag? f >>= (Command.ofItems? · rest)
  | .setting s value :: rest => inv.addSetting? s value >>= (Command.ofItems? · rest)

/-- What a command line asks for, if it is accepted. -/
def Command.parse? (args : List String) : Option Command :=
  Command.ofItems? .empty (items args)

end EscapeKey.CommandLine
