/-! Unsigned decimal numerals of 64 bits. -/

namespace EscapeKey.Text

/-- The value of a numeral that fits 64 bits: one `+` may stand in front and leading zeros
count for nothing.
-/
def readUInt64? (s : List Char) : Option UInt64 :=
  let digits := match s with
    | '+' :: rest => rest
    | s => s
  let value := Nat.ofDigitChars 10 digits 0
  if digits.isEmpty || !digits.all Char.isDigit || UInt64.size ≤ value then none
  else some (UInt64.ofNat value)

end EscapeKey.Text
