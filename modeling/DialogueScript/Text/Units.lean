/-!
# UTF-16 code units

Editors count columns in UTF-16 code units: a character of the basic plane is one unit, any other a pair of
surrogates. `utf16` is the encoding and `columns` its length.
-/

namespace DialogueScript

/-- The code units of one character. -/
def charUnits (c : Char) : List UInt16 :=
  let n := c.toNat
  if n < 0x10000 then [n.toUInt16]
  else [(0xD800 + (n - 0x10000) / 0x400).toUInt16, (0xDC00 + (n - 0x10000) % 0x400).toUInt16]

/-- The UTF-16 encoding of a text. -/
def utf16 (s : List Char) : List UInt16 := s.flatMap charUnits

/-- How many columns a text takes. -/
def columns (s : List Char) : Nat := (utf16 s).length

end DialogueScript
