import DialogueScript.Number.Binary64

/-!
# The shortest decimal of a binary64 number

`shortest` gives the fewest decimal digits that still round to a number: for one digit, two digits and so on it looks
at the two neighbours of the number on the decimal grid and takes the first grid on which one of them rounds back, of
two the nearer, and of two equally near ones the one with an even last digit. `Binary64.text` writes these digits down:
positionally while the first digit stands for a power of ten from `10 ^ -5` to `10 ^ 15`, and with a signed exponent
otherwise.
-/

namespace DialogueScript

namespace Binary64

/-- A decimal `digits * 10 ^ exponent`. -/
structure Decimal where
  digits : Nat
  exponent : Int
  deriving DecidableEq, Repr

/-- The fraction `num * 10 ^ e / den` as a pair of naturals. -/
def scaledTen (num den : Nat) (e : Int) : Nat × Nat :=
  if 0 ≤ e then (num * Nat.pow 10 e.toNat, den) else (num, den * Nat.pow 10 (-e).toNat)

/-- The least `k` below a bound with `den ≤ num * Nat.pow 10 k`. -/
def tensToOne (num den : Nat) : Nat → Nat → Nat
  | 0, k => k
  | fuel + 1, k => if den ≤ num * Nat.pow 10 k then k else tensToOne num den fuel (k + 1)

/-- The greatest `e` with `10 ^ e ≤ num / den`, for a positive fraction not below the least binary64 number. -/
def floorLog10 (num den : Nat) : Int :=
  if den ≤ num then (Nat.toDigits 10 (num / den)).length - 1
  else -(tensToOne num den 330 1 : Int)

/-- The fractions that round to a positive number lie between these bounds, given in quarters of a unit in the last
place; the bounds themselves count when the significand is even. Below a power of two the spacing is halved. -/
def bounds (x : Binary64) : Nat × Nat :=
  let low := if x.significand = Nat.pow 2 52 && minExponent < x.exponent then 4 * x.significand - 1 else 4 * x.significand - 2
  (low, 4 * x.significand + 2)

/-- Whether `c * 10 ^ g` rounds to the positive number `x`. -/
def roundsTo (x : Binary64) (c : Nat) (g : Int) : Bool :=
  let (low, high) := x.bounds
  let (n, d) := scaledTen c 1 g
  let (s, t) := scaled 1 1 (x.exponent - 2)
  let candidate := n * t
  let least := low * s * d
  let greatest := high * s * d
  if x.significand % 2 == 0 then least ≤ candidate && candidate ≤ greatest
  else least < candidate && candidate < greatest

/-- The decimal with the given number of digits that is nearest to `x` among those that round to it; a tie goes to the
even one. -/
def onGrid? (x : Binary64) (lead : Int) (count : Nat) : Option Decimal :=
  let g := lead - (count : Int) + 1
  let (num, den) := x.ratio
  let (n, d) := scaledTen num den (-g)
  let below := n / d
  let nearer := roundHalfEven n d
  let farther := if nearer = below then below + 1 else below
  if x.roundsTo nearer g then some ⟨nearer, g⟩
  else if x.roundsTo farther g then some ⟨farther, g⟩
  else none

/-- The first grid with at most the given number of digits more that has a decimal rounding to `x`. -/
def firstGrid (x : Binary64) (lead : Int) : Nat → Nat → Decimal
  | 0, _ => ⟨0, 0⟩
  | fuel + 1, count =>
    match x.onGrid? lead count with
    | some decimal => decimal
    | none => firstGrid x lead fuel (count + 1)

/-- The shortest decimal of a positive number; seventeen digits always suffice. -/
def shortest (x : Binary64) : Decimal :=
  let (num, den) := x.ratio
  firstGrid x (floorLog10 num den) 17 1

/-- Which decimals are written positionally: the greatest and least power of ten of the first digit. -/
structure DecimalFormat where
  greatest : Int
  least : Int

/-- Sixteen places before the point and four zeros after it are written out. -/
def plain : DecimalFormat := ⟨15, -5⟩

/-- The digits without zeros at their end, at least one digit. -/
def significant (digits : List Char) : List Char :=
  match (digits.reverse.dropWhile (· == '0')).reverse with
  | [] => ['0']
  | d :: rest => d :: rest

/-- Positional notation of digits whose first one stands for `10 ^ lead`. -/
def positional (digits : List Char) (lead : Int) : List Char :=
  if lead < 0 then ['0', '.'] ++ List.replicate (-lead - 1).toNat '0' ++ digits
  else
    let whole := lead.toNat + 1
    if digits.length ≤ whole then digits ++ List.replicate (whole - digits.length) '0' ++ ['.', '0']
    else digits.take whole ++ ['.'] ++ digits.drop whole

/-- Notation with an exponent, whose sign is always written. -/
def exponential (digits : List Char) (lead : Int) : List Char :=
  let point := match digits with
    | [] => []
    | [d] => [d]
    | d :: rest => d :: '.' :: rest
  point ++ ['e', if lead < 0 then '-' else '+'] ++ Nat.toDigits 10 lead.natAbs

/-- The text of a number, with the fewest digits that read back as it. -/
def text (x : Binary64) : String :=
  let sign := if x.negative then ['-'] else []
  if x.isZero then String.ofList (sign ++ ['0', '.', '0'])
  else
    let decimal := x.shortest
    let all := Nat.toDigits 10 decimal.digits
    let lead := decimal.exponent + (all.length : Int) - 1
    let digits := significant all
    let body := if plain.least ≤ lead && lead ≤ plain.greatest then positional digits lead
      else exponential digits lead
    String.ofList (sign ++ body)

end Binary64

end DialogueScript
