/-!
# Blank characters

`isBlank` is the Unicode property `White_Space`: the characters that the dialogue grammar skips between its parts.
`isPadding` adds the byte order mark, which a line sheds at both ends before it is classified although the grammar
does not skip it. `trim` removes the padding at both ends.
-/

namespace DialogueScript

/-- The byte order mark, which some editors write at the start of a file. -/
def byteOrderMark : Char := '\uFEFF'

/-- The characters with the Unicode property `White_Space`. -/
def isBlank (c : Char) : Bool :=
  let n := c.toNat
  (9 ≤ n && n ≤ 13) || n == 0x20 || n == 0x85 || n == 0xA0 || n == 0x1680 || (0x2000 ≤ n && n ≤ 0x200A) ||
    n == 0x2028 || n == 0x2029 || n == 0x202F || n == 0x205F || n == 0x3000

/-- What may surround a statement on its line: blanks and byte order marks. -/
def isPadding (c : Char) : Bool := isBlank c || c == byteOrderMark

/-- A text without one byte order mark at its start. -/
def dropMark : List Char → List Char
  | [] => []
  | c :: rest => if c = byteOrderMark then rest else c :: rest

/-- A text without its leading blanks. -/
def skipBlanks (s : List Char) : List Char := s.dropWhile isBlank

/-- A text without its leading padding. -/
def trimStart (s : List Char) : List Char := s.dropWhile isPadding

/-- A text without its trailing padding. -/
def trimEnd (s : List Char) : List Char := (s.reverse.dropWhile isPadding).reverse

/-- A text without the padding at its two ends. -/
def trim (s : List Char) : List Char := trimEnd (trimStart s)

end DialogueScript
