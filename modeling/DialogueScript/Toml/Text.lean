import DialogueScript.Text.Digit

/-!
# TOML strings and the text between values

Strings come in four forms: basic ones with escapes and literal ones without, each on one line or on several. Controls
other than the tab may stand in none of them, nor in comments; a carriage return only before a line feed.
-/

namespace DialogueScript.Toml

/-! ## Blanks, line ends and comments -/

/-- The blanks inside a line. -/
def isSpace (c : Char) : Bool := c == ' ' || c == '\t'

/-- A text without its leading blanks. -/
def skipSpace (s : List Char) : List Char := s.dropWhile isSpace

/-- The characters that may stand in comments and strings of one line. -/
def isInline (c : Char) : Bool := c == '\t' || (0x20 ≤ c.toNat && c.toNat != 0x7F)

/-- The text after a line end. -/
def newline? : List Char → Option (List Char)
  | '\n' :: rest => some rest
  | '\r' :: '\n' :: rest => some rest
  | _ => none

/-- The text after the rest of a line on which only blanks and a comment may stand. -/
def lineEnd? (s : List Char) : Option (List Char) :=
  let s := match skipSpace s with
    | '#' :: rest => rest.dropWhile isInline
    | s => s
  if s.isEmpty then some [] else newline? s

/-- A text without leading blanks, line ends and comments. The flag says that a comment has begun. -/
def trivia : Bool → List Char → List Char
  | _, [] => []
  | _, '\n' :: rest => trivia false rest
  | _, '\r' :: '\n' :: rest => trivia false rest
  | true, c :: rest => if isInline c then trivia true rest else c :: rest
  | false, c :: rest => if c = '#' then trivia true rest else if isSpace c then trivia false rest else c :: rest

/-! ## Escapes -/

/-- The character given by exactly `count` hexadecimal digits, which must be a Unicode scalar value. -/
def codePoint? (count : Nat) (s : List Char) : Option (Char × List Char) := do
  let (n, rest) ← hex? count 0 s
  if n < 0xD800 || (0xDFFF < n && n < 0x110000) then some (Char.ofNat n, rest) else none

/-- The character of an escape, after its backslash. -/
def escape? : List Char → Option (Char × List Char)
  | 'b' :: rest => some ('\x08', rest)
  | 't' :: rest => some ('\t', rest)
  | 'n' :: rest => some ('\n', rest)
  | 'f' :: rest => some ('\x0c', rest)
  | 'r' :: rest => some ('\r', rest)
  | 'e' :: rest => some ('\x1b', rest)
  | '"' :: rest => some ('"', rest)
  | '\\' :: rest => some ('\\', rest)
  | 'x' :: rest => codePoint? 2 rest
  | 'u' :: rest => codePoint? 4 rest
  | 'U' :: rest => codePoint? 8 rest
  | _ => none

/-! ## Strings

In these readers `read` holds the characters so far, the last one first. -/

/-- A basic string after its opening quote. -/
def basic? : Nat → List Char → List Char → Option (String × List Char)
  | 0, _, _ => none
  | _ + 1, _, [] => none
  | fuel + 1, read, c :: rest =>
    if c = '"' then some (String.ofList read.reverse, rest)
    else if c = '\\' then do
      let (d, rest) ← escape? rest
      basic? fuel (d :: read) rest
    else if isInline c then basic? fuel (c :: read) rest
    else none

/-- A literal string after its opening quote. -/
def literal? (s : List Char) : Option (String × List Char) :=
  let body := s.takeWhile fun c => isInline c && c != '\''
  match s.drop body.length with
  | '\'' :: rest => some (String.ofList body, rest)
  | _ => none

/-- A run of quotes in a string of several lines: up to two belong to the string, three close it, and up to two
more before the closing ones belong to it again. Gives how many belong to the string, whether it is closed, and the text
after the run. -/
def quoteRun (quote : Char) (s : List Char) : Nat × Bool × List Char :=
  let run := (s.takeWhile (· == quote)).length
  if run < 3 then (run, false, s.drop run)
  else
    let inside := min (run - 3) 2
    (inside, true, s.drop (inside + 3))

/-- The text after blanks and line ends. -/
def dropFolded : List Char → List Char
  | [] => []
  | '\r' :: '\n' :: rest => dropFolded rest
  | c :: rest => if isSpace c || c = '\n' then dropFolded rest else c :: rest

/-- A basic string of several lines, after its opening quotes. A backslash at the end of a line takes away all blanks
and line ends up to the next character. -/
def multiBasic? : Nat → List Char → List Char → Option (String × List Char)
  | 0, _, _ => none
  | _ + 1, _, [] => none
  | fuel + 1, read, c :: rest =>
    if c = '"' then
      let (inside, closed, after) := quoteRun '"' (c :: rest)
      let read := List.replicate inside '"' ++ read
      if closed then some (String.ofList read.reverse, after) else multiBasic? fuel read after
    else if c = '\\' then
      match newline? (skipSpace rest) with
      | some after => multiBasic? fuel read (dropFolded after)
      | none => do
        let (d, rest) ← escape? rest
        multiBasic? fuel (d :: read) rest
    else if isInline c || c = '\n' then multiBasic? fuel (c :: read) rest
    else if c = '\r' && rest.head? = some '\n' then multiBasic? fuel (c :: read) rest
    else none

/-- A literal string of several lines, after its opening quotes. -/
def multiLiteral? : Nat → List Char → List Char → Option (String × List Char)
  | 0, _, _ => none
  | _ + 1, _, [] => none
  | fuel + 1, read, c :: rest =>
    if c = '\'' then
      let (inside, closed, after) := quoteRun '\'' (c :: rest)
      let read := List.replicate inside '\'' ++ read
      if closed then some (String.ofList read.reverse, after) else multiLiteral? fuel read after
    else if isInline c || c = '\n' then multiLiteral? fuel (c :: read) rest
    else if c = '\r' && rest.head? = some '\n' then multiLiteral? fuel (c :: read) rest
    else none

/-- A text without one line end at its start. -/
def dropFirstNewline (s : List Char) : List Char := (newline? s).getD s

/-- A string of any form at the start of a text. -/
def string? (s : List Char) : Option (String × List Char) :=
  match s with
  | '"' :: '"' :: '"' :: rest => multiBasic? (rest.length + 1) [] (dropFirstNewline rest)
  | '\'' :: '\'' :: '\'' :: rest => multiLiteral? (rest.length + 1) [] (dropFirstNewline rest)
  | '"' :: rest => basic? (rest.length + 1) [] rest
  | '\'' :: rest => literal? rest
  | _ => none

end DialogueScript.Toml
