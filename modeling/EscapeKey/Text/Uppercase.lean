/-! Upper-casing as far as the result is ASCII text.
Every name that is looked up without regard to case is ASCII, so a text with a character whose
upper-case form leaves ASCII spells none of them.
-/

namespace EscapeKey.Text

/-- The characters outside ASCII whose full upper-case mapping is ASCII text. -/
def foreignUppercase : List (Char × List Char) :=
  [('ß', ['S', 'S']), ('ı', ['I']), ('ſ', ['S']),
    ('ﬀ', ['F', 'F']), ('ﬁ', ['F', 'I']), ('ﬂ', ['F', 'L']),
    ('ﬃ', ['F', 'F', 'I']), ('ﬄ', ['F', 'F', 'L']), ('ﬅ', ['S', 'T']), ('ﬆ', ['S', 'T'])]

/-- The full upper-case mapping of a character, if it consists of ASCII characters. -/
def upperChar? (c : Char) : Option (List Char) :=
  if c.toNat < 0x80 then some [c.toUpper] else foreignUppercase.lookup c

/-- The upper-case form of a text, if it consists of ASCII characters. -/
def upper? (s : List Char) : Option (List Char) :=
  (s.mapM upperChar?).map List.flatten

end EscapeKey.Text
