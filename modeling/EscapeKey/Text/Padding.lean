/-! Columns: texts filled up with blanks to a width. -/

namespace EscapeKey.Text

/-- The text, with blanks in front if it has fewer than `width` characters. -/
def padLeft (width : Nat) (s : String) : String :=
  String.ofList (List.replicate (width - s.length) ' ') ++ s

/-- The text, with blanks behind if it has fewer than `width` characters. -/
def padRight (width : Nat) (s : String) : String :=
  s ++ String.ofList (List.replicate (width - s.length) ' ')

end EscapeKey.Text
