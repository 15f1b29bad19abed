import DialogueScript.Text.Cut
import DialogueScript.Toml.Text
import DialogueScript.Toml.Value

/-!
# TOML numbers, dates and booleans

A value that is neither a string nor bracketed is a run of letters, digits, signs, points and colons. `scalar?` says
which value the run is. Integers may need up to 128 bits; a floating-point literal too large for binary64 is refused, as
is a date that is not in the calendar.
-/

namespace DialogueScript.Toml

/-! ## Digits -/

/-- The digits of a run in which single underscores may stand between digits. -/
def ungrouped? (digit : Char → Bool) (s : List Char) : Option (List Char) :=
  let groups := splitOn '_' s
  if groups.all fun g => !g.isEmpty && g.all digit then some groups.flatten else none

/-- The digits of a decimal integer: no zero stands in front of another digit. -/
def decimal? (s : List Char) : Option (List Char) := do
  let digits ← ungrouped? isDigit s
  if 1 < digits.length && digits.head? = some '0' then none else some digits

/-- A sign in front of a number. -/
def signed (s : List Char) : Bool × List Char :=
  match s with
  | '-' :: rest => (true, rest)
  | '+' :: rest => (false, rest)
  | _ => (false, s)

/-! ## Integers -/

/-- An integer, unless it needs more than 128 bits. -/
def inRange? (n : Int) : Option Int := if -(Int.pow 2 127) ≤ n && n < Int.pow 2 128 then some n else none

/-- The integer of digits in another base. -/
def based? (base : Nat) (digit : Char → Bool) (s : List Char) : Option Int := do
  let digits ← ungrouped? digit s
  inRange? (digitsValue base digits)

/-- An integer literal: decimal with an optional sign, or hexadecimal, octal or binary without one. -/
def integer? (s : List Char) : Option Int :=
  match s with
  | '0' :: 'x' :: rest => based? 16 isHexDigit rest
  | '0' :: 'o' :: rest => based? 8 (fun c => '0' ≤ c && c ≤ '7') rest
  | '0' :: 'b' :: rest => based? 2 (fun c => c == '0' || c == '1') rest
  | _ => do
    let (negative, s) := signed s
    let digits ← decimal? s
    let n : Int := digitsValue 10 digits
    inRange? (if negative then -n else n)

/-! ## Floating-point numbers -/

/-- Whether `digits * 10 ^ e` rounds to a finite binary64 number: it lies below the middle between the greatest one
and the next power of two. -/
def isFinite (digits : List Char) (e : Int) : Bool :=
  let digits := digits.dropWhile (· == '0')
  let lead := (digits.length : Int) + e
  if digits.isEmpty || lead ≤ 300 then true
  else if 320 < lead then false
  else
    let n := digitsValue 10 digits
    let limit := Nat.pow 2 1024 - Nat.pow 2 970
    if 0 ≤ e then n * Nat.pow 10 e.toNat < limit else n < limit * Nat.pow 10 (-e).toNat

/-- The exponent of a literal, zero when there is none. -/
def exponentOf? : Option (List Char) → Option Int
  | none => some 0
  | some s => do
    let (negative, s) := signed s
    let digits ← ungrouped? isDigit s
    let n : Int := digitsValue 10 digits
    some (if negative then -n else n)

/-- Splits a literal at its exponent mark. -/
def splitExponent (s : List Char) : List Char × Option (List Char) :=
  match cut 'e' s with
  | some (mantissa, e) => (mantissa, some e)
  | none =>
    match cut 'E' s with
    | some (mantissa, e) => (mantissa, some e)
    | none => (s, none)

/-- Whether a text is a floating-point literal of finite value, or one of the words for infinity and not-a-number. -/
def isFloat (s : List Char) : Bool :=
  let (_, s) := signed s
  if s = ['i', 'n', 'f'] || s = ['n', 'a', 'n'] then true
  else
    let (mantissa, e) := splitExponent s
    let parts := match cut '.' mantissa with
      | none => if e.isNone then none else (decimal? mantissa).map fun whole => (whole, [])
      | some (whole, places) =>
        match decimal? whole, ungrouped? isDigit places with
        | some whole, some places => some (whole, places)
        | _, _ => none
    match parts, exponentOf? e with
    | some (whole, places), some e => isFinite (whole ++ places) (e - places.length)
    | _, _ => false

/-! ## Dates and times -/

/-- Exactly `count` digits at the start of a text, and the text after them. -/
def fixed? (count : Nat) (s : List Char) : Option (Nat × List Char) :=
  let digits := s.take count
  if digits.length = count && digits.all isDigit then some (digitsValue 10 digits, s.drop count) else none

/-- The text after a character that it must start with. -/
def after? (c : Char) : List Char → Option (List Char)
  | d :: rest => if c = d then some rest else none
  | [] => none

/-- How many days a month has. -/
def daysIn (year month : Nat) : Nat :=
  if month = 2 then
    if year % 4 = 0 && (year % 100 != 0 || year % 400 = 0) then 29 else 28
  else if month = 4 || month = 6 || month = 9 || month = 11 then 30
  else 31

/-- A date of the calendar, and the text after it. -/
def date? (s : List Char) : Option (List Char) := do
  let (year, s) ← fixed? 4 s
  let (month, s) ← fixed? 2 (← after? '-' s)
  let (day, s) ← fixed? 2 (← after? '-' s)
  if 1 ≤ month && month ≤ 12 && 1 ≤ day && day ≤ daysIn year month then some s else none

/-- The fraction of a second, if there is one, and the text after it. -/
def fraction? (s : List Char) : Option (List Char) :=
  match s with
  | '.' :: rest => if (rest.takeWhile isDigit).isEmpty then none else some (rest.dropWhile isDigit)
  | _ => some s

/-- A time of day, and the text after it. The seconds may be missing, and a leap second is a second. -/
def time? (s : List Char) : Option (List Char) := do
  let (hour, s) ← fixed? 2 s
  let (minute, s) ← fixed? 2 (← after? ':' s)
  if 23 < hour || 59 < minute then none
  match s with
  | ':' :: rest => do
    let (second, s) ← fixed? 2 rest
    if 60 < second then none else fraction? s
  | _ => some s

/-- An offset from universal time, and the text after it. -/
def offset? (s : List Char) : Option (List Char) :=
  match s with
  | 'Z' :: rest | 'z' :: rest => some rest
  | '+' :: rest | '-' :: rest => do
    let (hour, s) ← fixed? 2 rest
    let (minute, s) ← fixed? 2 (← after? ':' s)
    if 23 < hour || 59 < minute then none else some s
  | _ => none

/-- Whether a text is a time of day, a date, or a date and a time with or without an offset. -/
def isDateTime (s : List Char) : Bool :=
  match time? s with
  | some rest => rest.isEmpty
  | none =>
    match date? s with
    | some [] => true
    | some (c :: rest) =>
      (c == 'T' || c == 't' || c == ' ') &&
        match time? rest with
        | some [] => true
        | some rest => offset? rest == some []
        | none => false
    | none => false

/-! ## Runs -/

/-- The characters of a run. -/
def isScalarChar (c : Char) : Bool :=
  isDigit c || isLetter c || c == '_' || c == '+' || c == '-' || c == '.' || c == ':'

/-- The run at the start of a text, and the text after it. One blank may stand between a date and a time. -/
def run (s : List Char) : List Char × List Char :=
  let first := s.takeWhile isScalarChar
  let rest := s.drop first.length
  match rest with
  | ' ' :: c :: _ =>
    if isDigit c && date? first == some [] then
      let second := (rest.drop 1).takeWhile isScalarChar
      (first ++ [' '] ++ second, rest.drop (second.length + 1))
    else (first, rest)
  | _ => (first, rest)

/-- The value that a run stands for. -/
def scalarOf? (s : List Char) : Option Value :=
  if s = ['t', 'r', 'u', 'e'] then some (.boolean true)
  else if s = ['f', 'a', 'l', 's', 'e'] then some (.boolean false)
  else
    match integer? s with
    | some n => some (.integer n)
    | none =>
      if isDateTime s then some (.dateTime (String.ofList s))
      else if isFloat s then some (.float (String.ofList s))
      else none

/-- A run at the start of a text as a value, and the text after it. -/
def scalar? (s : List Char) : Option (Value × List Char) := do
  let (literal, rest) := run s
  let v ← scalarOf? literal
  some (v, rest)

end DialogueScript.Toml
