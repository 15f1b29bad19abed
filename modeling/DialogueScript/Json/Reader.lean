import DialogueScript.Json.Value
import DialogueScript.Text.Digit

/-!
# Reading JSON

`Json.read?` reads the first value of a text and gives the text after it; `Json.parse?` wants nothing but blanks after
the value. Texts nested 128 deep are refused.

A number that is no 64-bit integer becomes binary64 by the rule of its significand: digits are collected while they fit
64 bits, further ones only move the exponent or are dropped, and the significand is then multiplied or divided by one
power of ten, with one rounding.
-/

namespace DialogueScript

namespace Json

/-! ## Blanks and literals -/

/-- The blanks between the tokens. -/
def isSpace (c : Char) : Bool := c == ' ' || c == '\t' || c == '\n' || c == '\r'

/-- A text without its leading blanks. -/
def skipSpace (s : List Char) : List Char := s.dropWhile isSpace

/-- The text after a word that it must start with. -/
def expect? : List Char → List Char → Option (List Char)
  | [], s => some s
  | c :: word, d :: s => if c = d then expect? word s else none
  | _ :: _, [] => none

/-! ## Numbers -/

/-- The greatest unsigned integer of 64 bits. -/
def maxWord : Nat := Nat.pow 2 64 - 1

/-- Collects digits into a significand while it fits 64 bits; gives the significand, how many digits it took and the
digits that were left. -/
def collect (significand taken : Nat) : List Char → Nat × Nat × List Char
  | [] => (significand, taken, [])
  | c :: rest =>
    let next := significand * 10 + digitsValue 10 [c]
    if maxWord < next then (significand, taken, c :: rest) else collect next (taken + 1) rest

/-- A binary64 number times or over a power of ten that may be out of range. Steps of `10 ^ 308` bring a large negative
power into range. -/
def scaleByTen? (x : Binary64) (e : Int) : Nat → Option Binary64
  | 0 => some (.zero x.negative)
  | fuel + 1 =>
    if e.natAbs ≤ 308 then do
      let power ← Binary64.powerOfTen? e.natAbs
      if 0 ≤ e then x.mul? power else x.div? power
    else if x.isZero then some x
    else if 0 ≤ e then none
    else do
      let power ← Binary64.powerOfTen? 308
      let y ← x.div? power
      scaleByTen? y (e + 308) fuel

/-- The binary64 number for a significand and a power of ten, or nothing when it is too large. A number becomes zero
after three steps at most. -/
def ofParts? (negative : Bool) (significand : Nat) (e : Int) : Option Binary64 := do
  let x ← Binary64.ofRatio? negative significand 1
  scaleByTen? x e 8

/-- An exponent: its value, its sign and the text after it. -/
def exponent? (s : List Char) : Option (Bool × Nat × List Char) :=
  let (negative, s) := match s with
    | '+' :: rest => (false, rest)
    | '-' :: rest => (true, rest)
    | _ => (false, s)
  let digits := s.takeWhile isDigit
  if digits.isEmpty then none else some (negative, digitsValue 10 digits, s.dropWhile isDigit)

/-- Applies the exponent of a number. Past 31 bits the exponent alone decides: zero stays zero, a positive exponent is
out of range, a negative one gives zero. -/
def withExponent? (negative : Bool) (significand : Nat) (start : Int) (s : List Char) :
    Option (Binary64 × List Char) := do
  let (down, e, rest) ← exponent? s
  if Nat.pow 2 31 ≤ e then
    if !down && significand != 0 then none else some (.zero negative, rest)
  else do
    let x ← ofParts? negative significand (if down then start - e else start + e)
    some (x, rest)

/-- The number whose integer part is a run of digits, and the text after it. -/
def unsigned? (negative : Bool) (s : List Char) : Option (Json × List Char) := do
  let whole := s.takeWhile isDigit
  let rest := s.dropWhile isDigit
  if whole.isEmpty || (1 < whole.length && whole.head? == some '0') then none
  let (significand, _, beyond) := collect 0 0 whole
  let start : Int := beyond.length
  match rest with
  | '.' :: rest =>
    let places := rest.takeWhile isDigit
    let rest := rest.dropWhile isDigit
    if places.isEmpty then none
    let (significand, taken, _) := collect significand 0 places
    let start := start - (taken : Int)
    match rest with
    | 'e' :: rest | 'E' :: rest => do
      let (x, rest) ← withExponent? negative significand start rest
      some (.real x, rest)
    | _ => do
      let x ← ofParts? negative significand start
      some (.real x, rest)
  | 'e' :: rest | 'E' :: rest => do
    let (x, rest) ← withExponent? negative significand start rest
    some (.real x, rest)
  | _ =>
    if !beyond.isEmpty then do
      let x ← ofParts? negative significand start
      some (.real x, rest)
    else if !negative then some (.integer significand, rest)
    else if significand = 0 || Nat.pow 2 63 < significand then do
      let x ← ofParts? true significand 0
      some (.real x, rest)
    else some (.integer (-(significand : Int)), rest)

/-- A number at the start of a text. -/
def number? (s : List Char) : Option (Json × List Char) :=
  match s with
  | '-' :: rest => unsigned? true rest
  | _ => unsigned? false s

/-! ## Strings -/

/-- The character of an escape in hexadecimal. A leading surrogate must be followed by the escape of a trailing one. -/
def unicode? (s : List Char) : Option (Char × List Char) := do
  let (n, rest) ← hex? 4 0 s
  if 0xDC00 ≤ n && n ≤ 0xDFFF then none
  else if 0xD800 ≤ n && n ≤ 0xDBFF then
    match rest with
    | '\\' :: 'u' :: rest => do
      let (m, rest) ← hex? 4 0 rest
      if 0xDC00 ≤ m && m ≤ 0xDFFF then
        some (Char.ofNat (0x10000 + (n - 0xD800) * 0x400 + (m - 0xDC00)), rest)
      else none
    | _ => none
  else some (Char.ofNat n, rest)

/-- The character of an escape, after its backslash. -/
def escape? : List Char → Option (Char × List Char)
  | '"' :: rest => some ('"', rest)
  | '\\' :: rest => some ('\\', rest)
  | '/' :: rest => some ('/', rest)
  | 'b' :: rest => some ('\x08', rest)
  | 'f' :: rest => some ('\x0c', rest)
  | 'n' :: rest => some ('\n', rest)
  | 'r' :: rest => some ('\r', rest)
  | 't' :: rest => some ('\t', rest)
  | 'u' :: rest => unicode? rest
  | _ => none

/-- A string after its opening quote; `read` holds its characters so far, the last one first. -/
def string? : Nat → List Char → List Char → Option (String × List Char)
  | 0, _, _ => none
  | _ + 1, _, [] => none
  | fuel + 1, read, c :: rest =>
    if c = '"' then some (String.ofList read.reverse, rest)
    else if c = '\\' then do
      let (d, rest) ← escape? rest
      string? fuel (d :: read) rest
    else if c.toNat < 0x20 then none
    else string? fuel (c :: read) rest

/-! ## Values -/

/-- How deep arrays and objects may be nested. -/
def depthLimit : Nat := 127

mutual

/-- A value at the start of a text without leading blanks. -/
def value? (depth : Nat) : Nat → List Char → Option (Json × List Char)
  | 0, _ => none
  | fuel + 1, s =>
    match s with
    | [] => none
    | 'n' :: rest => (expect? ['u', 'l', 'l'] rest).map fun rest => (.null, rest)
    | 't' :: rest => (expect? ['r', 'u', 'e'] rest).map fun rest => (.bool true, rest)
    | 'f' :: rest => (expect? ['a', 'l', 's', 'e'] rest).map fun rest => (.bool false, rest)
    | '"' :: rest => (string? (rest.length + 1) [] rest).map fun (s, rest) => (.string s, rest)
    | '[' :: rest =>
      match depth with
      | 0 => none
      | depth + 1 =>
        match skipSpace rest with
        | ']' :: rest => some (.array [], rest)
        | rest => (items? depth fuel [] rest).map fun (items, rest) => (.array items, rest)
    | '{' :: rest =>
      match depth with
      | 0 => none
      | depth + 1 =>
        match skipSpace rest with
        | '}' :: rest => some (.object [], rest)
        | rest => (members? depth fuel [] rest).map fun (members, rest) => (.object members, rest)
    | _ => number? s

/-- The items of an array from the next one on; `read` holds the earlier ones, the last one first. -/
def items? (depth : Nat) : Nat → List Json → List Char → Option (List Json × List Char)
  | 0, _, _ => none
  | fuel + 1, read, s => do
    let (v, rest) ← value? depth fuel (skipSpace s)
    match skipSpace rest with
    | ',' :: rest => items? depth fuel (v :: read) rest
    | ']' :: rest => some ((v :: read).reverse, rest)
    | _ => none

/-- The members of an object from the next one on; `read` holds the earlier ones, the last one first. -/
def members? (depth : Nat) :
    Nat → List (String × Json) → List Char → Option (List (String × Json) × List Char)
  | 0, _, _ => none
  | fuel + 1, read, s =>
    match skipSpace s with
    | '"' :: rest => do
      let (name, rest) ← string? (rest.length + 1) [] rest
      match skipSpace rest with
      | ':' :: rest => do
        let (v, rest) ← value? depth fuel (skipSpace rest)
        match skipSpace rest with
        | ',' :: rest => members? depth fuel ((name, v) :: read) rest
        | '}' :: rest => some (((name, v) :: read).reverse, rest)
        | _ => none
      | _ => none
    | _ => none

end

/-- The first value of a text, and the text after it. -/
def read? (s : List Char) : Option (Json × List Char) := value? depthLimit (s.length + 1) (skipSpace s)

/-- The value that is all of a text. -/
def parse? (s : List Char) : Option Json := do
  let (v, rest) ← read? s
  if (skipSpace rest).isEmpty then some v else none

end Json

end DialogueScript
