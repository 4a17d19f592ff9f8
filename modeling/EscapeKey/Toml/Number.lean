import EscapeKey.Toml.Text
import EscapeKey.Toml.Value

/-! TOML numbers: integers of 64 bits in four bases, and floating-point literals, of which only
the form and the size are checked.
-/

namespace EscapeKey.Toml

/-- The digits at the front, where single underscores may stand between two digits. -/
def digitRun (isDigit : Char → Bool) : List Char → List Char × List Char
  | '_' :: c :: rest =>
    if isDigit c then
      let (digits, rest) := digitRun isDigit rest
      (c :: digits, rest)
    else ([], '_' :: c :: rest)
  | c :: rest =>
    if isDigit c then
      let (digits, rest) := digitRun isDigit rest
      (c :: digits, rest)
    else ([], c :: rest)
  | [] => ([], [])

/-- Digits of a class, at least one, with underscores between them. -/
def digits (isDigit : Char → Bool) : Reader (List Char) := do
  let text ← get
  guard (text.head?.any isDigit)
  let (found, rest) := digitRun isDigit text
  set rest
  return found

/-- A sign, if there is one: true for a minus. -/
def sign : Reader Bool := do
  if ← next? '-' then return true
  discard (next? '+')
  return false

/-- A decimal numeral without leading zeros. -/
def wholeDigits : Reader (List Char) := do
  if ← next? '0' then return ['0']
  digits Char.isDigit

/-- An integer in a base other than ten, behind its two-character mark. -/
def basedInteger (base : Nat) : Reader Int := do
  let found ← digits fun c => (hexDigit? c).any (· < base)
  return numeral base (found.filterMap hexDigit?)

def decimalInteger : Reader Int := do
  let negative ← sign
  let magnitude : Int := Nat.ofDigitChars 10 (← wholeDigits) 0
  return if negative then -magnitude else magnitude

/-- An integer, which has to fit 64 bits. -/
def integer : Reader Value := do
  let number ← match ← get with
    | '0' :: 'x' :: rest => set rest; basedInteger 16
    | '0' :: 'o' :: rest => set rest; basedInteger 8
    | '0' :: 'b' :: rest => set rest; basedInteger 2
    | _ => decimalInteger
  guard (Int64.minValue.toInt ≤ number ∧ number ≤ Int64.maxValue.toInt)
  return .integer number

/-- The number `mantissa * 10 ^ exponent` is too large for a double: it reaches the middle between
the largest one and the next power of two. The first two cases keep the powers small.
-/
def overflows (mantissa : Nat) (exponent : Int) : Bool :=
  let top := (Nat.toDigits 10 mantissa).length + exponent
  if mantissa = 0 || top < 300 then false
  else if 320 < top then true
  else
    let limit := (Nat.pow 2 54 - 1) * Nat.pow 2 970
    limit * Nat.pow 10 (-exponent).toNat ≤ mantissa * Nat.pow 10 exponent.toNat

def exponent : Reader Int := do
  unless (← next? 'e') || (← next? 'E') do failure
  let negative ← sign
  let magnitude : Int := Nat.ofDigitChars 10 (← digits Char.isDigit) 0
  return if negative then -magnitude else magnitude

def fraction : Reader (List Char) := do
  expect '.'
  digits Char.isDigit

/-- A floating-point literal with a fraction, an exponent or both, unless it is too large. -/
def decimalFloat : Reader Value := do
  let negative ← sign
  let whole ← wholeDigits
  let part ← optionally fraction
  let scale ← if part.isSome then optionally exponent else some <$> exponent
  let places := part.getD []
  guard (negative
    || !overflows (Nat.ofDigitChars 10 (whole ++ places) 0) (scale.getD 0 - places.length))
  return .float

/-- The words for the floating-point values that are no numbers of the line. -/
def specialFloat : Reader Value := do
  discard sign
  match ← get with
  | 'i' :: 'n' :: 'f' :: rest => set rest; return .float
  | 'n' :: 'a' :: 'n' :: rest => set rest; return .float
  | _ => failure

end EscapeKey.Toml
