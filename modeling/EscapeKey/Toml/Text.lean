import EscapeKey.Toml.Reader

/-! TOML strings: basic ones with escapes and literal ones without, on one line or on several. -/

namespace EscapeKey.Toml

def hexDigit? (c : Char) : Option Nat :=
  if c.isDigit then some (c.toNat - '0'.toNat)
  else if 'a' ≤ c && c ≤ 'f' then some (c.toNat - 'a'.toNat + 10)
  else if 'A' ≤ c && c ≤ 'F' then some (c.toNat - 'A'.toNat + 10)
  else none

def numeral (base : Nat) (digits : List Nat) : Nat :=
  digits.foldl (fun n d => base * n + d) 0

/-- The character whose code is written in exactly `width` hexadecimal digits. -/
def codePoint? (width : Nat) (s : List Char) : Option Char := do
  let digits ← (s.take width).mapM hexDigit?
  let code := numeral 16 digits
  if digits.length = width ∧ code.isValidChar then some (Char.ofNat code) else none

/-- The character that stands behind a backslash, and the number of characters that spell it. -/
def escape? : List Char → Option (Char × Nat)
  | 'b' :: _ => some ('\x08', 1)
  | 't' :: _ => some ('\t', 1)
  | 'n' :: _ => some ('\n', 1)
  | 'f' :: _ => some ('\x0c', 1)
  | 'r' :: _ => some ('\r', 1)
  | '"' :: _ => some ('"', 1)
  | '\\' :: _ => some ('\\', 1)
  | 'u' :: rest => (codePoint? 4 rest).map (·, 5)
  | 'U' :: rest => (codePoint? 8 rest).map (·, 9)
  | _ => none

/-- The number of spaces, tabs and line ends at the front. -/
def blankLength : List Char → Nat
  | ' ' :: rest | '\t' :: rest | '\n' :: rest => blankLength rest + 1
  | '\r' :: '\n' :: rest => blankLength rest + 2
  | _ => 0

/-- The number of characters that a backslash in front takes away: those up to the next visible
character, if nothing but blanks stands before the end of the line.
-/
def continuation? (s : List Char) : Option Nat :=
  match s.dropWhile isSpace with
  | '\n' :: _ | '\r' :: '\n' :: _ => some (blankLength s)
  | _ => none

/-- The rest of a basic string on one line, with its closing quote. -/
def basicRest (s : List Char) : Option (List Char × List Char) :=
  match s with
  | '"' :: rest => some ([], rest)
  | '\\' :: rest => do
    let (c, n) ← escape? rest
    let (cs, rest) ← basicRest (rest.drop n)
    return (c :: cs, rest)
  | c :: rest =>
    if isPlain c then do
      let (cs, rest) ← basicRest rest
      return (c :: cs, rest)
    else none
  | [] => none
termination_by s.length
decreasing_by all_goals simp only [List.length_drop, List.length_cons]; omega

/-- The rest of a literal string on one line, with its closing quote. -/
def literalRest : List Char → Option (List Char × List Char)
  | '\'' :: rest => some ([], rest)
  | c :: rest =>
    if isPlain c then do
      let (cs, rest) ← literalRest rest
      return (c :: cs, rest)
    else none
  | [] => none

/-- The rest of a basic string on several lines. Three quotes close it, and up to two more in
front of them belong to the string.
-/
def basicLines (s : List Char) : Option (List Char × List Char) :=
  match s with
  | '"' :: '"' :: '"' :: '"' :: '"' :: rest => some (['"', '"'], rest)
  | '"' :: '"' :: '"' :: '"' :: rest => some (['"'], rest)
  | '"' :: '"' :: '"' :: rest => some ([], rest)
  | '\\' :: rest =>
    match continuation? rest with
    | some n => basicLines (rest.drop n)
    | none => do
      let (c, n) ← escape? rest
      let (cs, rest) ← basicLines (rest.drop n)
      return (c :: cs, rest)
  | '\n' :: rest | '\r' :: '\n' :: rest => do
    let (cs, rest) ← basicLines rest
    return ('\n' :: cs, rest)
  | c :: rest =>
    if isPlain c then do
      let (cs, rest) ← basicLines rest
      return (c :: cs, rest)
    else none
  | [] => none
termination_by s.length
decreasing_by all_goals simp only [List.length_drop, List.length_cons]; omega

/-- The rest of a literal string on several lines, closed like a basic one. -/
def literalLines : List Char → Option (List Char × List Char)
  | '\'' :: '\'' :: '\'' :: '\'' :: '\'' :: rest => some (['\'', '\''], rest)
  | '\'' :: '\'' :: '\'' :: '\'' :: rest => some (['\''], rest)
  | '\'' :: '\'' :: '\'' :: rest => some ([], rest)
  | '\n' :: rest | '\r' :: '\n' :: rest => do
    let (cs, rest) ← literalLines rest
    return ('\n' :: cs, rest)
  | c :: rest =>
    if isPlain c then do
      let (cs, rest) ← literalLines rest
      return (c :: cs, rest)
    else none
  | [] => none

def lineString : Reader String := do
  match ← get with
  | '"' :: rest => set rest; String.ofList <$> basicRest
  | '\'' :: rest => set rest; String.ofList <$> literalRest
  | _ => failure

/-- A string on one line or on several. A line end right behind the three opening quotes does not
belong to the string.
-/
def string : Reader String := do
  match ← get with
  | '"' :: '"' :: '"' :: rest =>
    set rest
    discard (optionally newline)
    String.ofList <$> basicLines
  | '\'' :: '\'' :: '\'' :: rest =>
    set rest
    discard (optionally newline)
    String.ofList <$> literalLines
  | _ => lineString

end EscapeKey.Toml
