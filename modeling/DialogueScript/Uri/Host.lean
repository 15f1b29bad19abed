import DialogueScript.Uri.Domain
import DialogueScript.Uri.Percent

/-!
# Hosts

The host of a special scheme is a domain in ASCII and lower case, an IPv4 address or an IPv6 address in brackets; a
domain whose last label is a number must be an IPv4 address. The host of any other scheme is kept as written. Hosts are
given by their texts in a URI.
-/

namespace DialogueScript.Uri

/-! ## IPv4 -/

/-- A number in an IPv4 address: decimal, octal after a zero, or hexadecimal. -/
def ipv4Number? (s : List Char) : Option Nat :=
  match s with
  | [] => none
  | '0' :: 'x' :: rest | '0' :: 'X' :: rest => if rest.all isHexDigit then some (digitsValue 16 rest) else none
  | '0' :: c :: rest =>
    if (c :: rest).all fun d => '0' ≤ d && d ≤ '7' then some (digitsValue 8 (c :: rest)) else none
  | _ => if s.all isDigit then some (digitsValue 10 s) else none

/-- The labels of a domain; one empty label at the end does not count. -/
def labels (domain : List Char) : List (List Char) :=
  let all := splitOn '.' domain
  if 1 < all.length && all.getLast? == some [] then all.dropLast else all

/-- Whether the last label of a domain is a number. -/
def endsInNumber (domain : List Char) : Bool :=
  match (labels domain).getLast? with
  | none => false
  | some last => (!last.isEmpty && last.all isDigit) || (ipv4Number? last).isSome

/-- The address of numbers of which the last fills the bytes that the others leave. -/
def ipv4Address? (numbers : List Nat) : Option Nat := do
  let last ← numbers.getLast?
  let others := numbers.dropLast
  if 3 < others.length || others.any (255 < ·) || Nat.pow 256 (4 - others.length) ≤ last then none
  else
    let high := (others.zip [3, 2, 1]).foldl (fun sum (n, place) => sum + n * Nat.pow 256 place) 0
    some (high + last)

/-- An IPv4 address in its dotted form. -/
def ipv4? (domain : List Char) : Option (List Char) := do
  let numbers ← (labels domain).mapM ipv4Number?
  let address ← ipv4Address? numbers
  let bytes := [3, 2, 1, 0].map fun place => Nat.toDigits 10 (address / Nat.pow 256 place % 256)
  some (List.intercalate ['.'] bytes)

/-! ## IPv6 -/

/-- The two pieces of an IPv4 address at the end of an IPv6 address: four decimal numbers without zeros in front. -/
def embeddedIpv4? (s : List Char) : Option (List Nat) := do
  let numbers ← (splitOn '.' s).mapM fun part =>
    if part.isEmpty || 3 < part.length || !part.all isDigit || (1 < part.length && part.head? == some '0') then none
    else if digitsValue 10 part ≤ 255 then some (digitsValue 10 part)
    else none
  match numbers with
  | [a, b, c, d] => some [a * 256 + b, c * 256 + d]
  | _ => none

/-- The pieces between colons; the last part may be an IPv4 address. -/
def ipv6Pieces? : List (List Char) → Option (List Nat)
  | [] => some []
  | [last] =>
    if last.contains '.' then embeddedIpv4? last
    else if last.isEmpty || 4 < last.length || !last.all isHexDigit then none
    else some [digitsValue 16 last]
  | part :: rest => do
    if part.isEmpty || 4 < part.length || !part.all isHexDigit then none
    let pieces ← ipv6Pieces? rest
    some (digitsValue 16 part :: pieces)

/-- The pieces of a text between colons, none for the empty text. -/
def ipv6Side? (s : List Char) : Option (List Nat) := if s.isEmpty then some [] else ipv6Pieces? (splitOn ':' s)

/-- Splits a text at its first pair of colons. -/
def cutDoubleColon : List Char → Option (List Char × List Char)
  | [] => none
  | ':' :: ':' :: rest => some ([], rest)
  | c :: rest => (cutDoubleColon rest).map fun (before, after) => (c :: before, after)

/-- The eight pieces of an IPv6 address; a pair of colons stands for at least one piece of zero. -/
def ipv6Address? (s : List Char) : Option (List Nat) := do
  match cutDoubleColon s with
  | none =>
    let pieces ← ipv6Side? s
    if pieces.length = 8 then some pieces else none
  | some (before, after) =>
    let high ← ipv6Side? before
    let low ← ipv6Side? after
    if before.contains '.' || 8 ≤ high.length + low.length then none
    else some (high ++ List.replicate (8 - high.length - low.length) 0 ++ low)

/-- How many zeros a list starts with. -/
def zerosAhead (pieces : List Nat) : Nat := (pieces.takeWhile (· == 0)).length

/-- The start and length of the first longest run of at least two zeros. -/
def longestZeros (pieces : List Nat) : Option (Nat × Nat) :=
  let runs := (List.range pieces.length).map fun i => (i, zerosAhead (pieces.drop i))
  runs.foldl (fun best (i, n) =>
    match best with
    | none => if 2 ≤ n then some (i, n) else none
    | some (_, m) => if m < n then some (i, n) else best) none

/-- Pieces in hexadecimal between colons. -/
def joinPieces (pieces : List Nat) : List Char := List.intercalate [':'] (pieces.map (Nat.toDigits 16))

/-- An IPv6 address in its shortest form. -/
def renderIpv6 (pieces : List Nat) : List Char :=
  match longestZeros pieces with
  | none => joinPieces pieces
  | some (i, n) => joinPieces (pieces.take i) ++ [':', ':'] ++ joinPieces (pieces.drop (i + n))

/-- An IPv6 address in brackets. -/
def bracketedIpv6? (s : List Char) : Option (List Char) := do
  if s.getLast? != some ']' then none
  let pieces ← ipv6Address? (s.drop 1).dropLast
  some (['['] ++ renderIpv6 pieces ++ [']'])

/-! ## Domains and other hosts -/

/-- The characters that no host may hold. -/
def isForbidden (c : Char) : Bool :=
  c == '\x00' || c == '\t' || c == '\n' || c == '\r' || c == ' ' || c == '#' || c == '/' || c == ':' || c == '<' ||
    c == '>' || c == '?' || c == '@' || c == '[' || c == '\\' || c == ']' || c == '^' || c == '|'

/-- The characters that no domain may hold. -/
def isForbiddenInDomain (c : Char) : Bool := isForbidden c || c.toNat < 0x20 || c == '%' || c.toNat == 0x7F

/-- The host of a special scheme. -/
def specialHost? (s : List Char) : Option (List Char) := do
  if s.head? == some '[' then bracketedIpv6? s
  else do
    let domain ← Domain.toAscii? (← Utf8.decode? (decode s))
    if domain.isEmpty || domain.any isForbiddenInDomain then none
    else if endsInNumber domain then ipv4? domain
    else some domain

/-- The host of a scheme that is not special; it may be empty. -/
def plainHost? (s : List Char) : Option (List Char) :=
  if s.head? == some '[' then bracketedIpv6? s
  else if s.any isForbidden then none
  else some (encode isControl s)

end DialogueScript.Uri
