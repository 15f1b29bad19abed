/-!
# Punycode

A label of a host name that leaves ASCII is written with its ASCII characters first and then, in increasing order of
their code points, the places of the others as differences. A difference is a run of digits to base 36 whose weights
adapt to the differences before. Labels are lists of code points; `encode` writes one and `decode?` reads it back.
-/

namespace DialogueScript.Uri.Punycode

/-! ## Digits -/

/-- The digit of a value below 36. -/
def digit (n : Nat) : Char := if n < 26 then Char.ofNat (0x61 + n) else Char.ofNat (0x30 + (n - 26))

/-- The value of a digit; capitals count as small letters. -/
def digitValue? (c : Char) : Option Nat :=
  if 'a' ≤ c && c ≤ 'z' then some (c.toNat - 0x61)
  else if 'A' ≤ c && c ≤ 'Z' then some (c.toNat - 0x41)
  else if '0' ≤ c && c ≤ '9' then some (c.toNat - 0x30 + 26)
  else none

/-- The digits at a position below this value end a difference. -/
def threshold (position bias : Nat) : Nat :=
  if position ≤ bias then 1 else if bias + 26 ≤ position then 26 else position - bias

theorem threshold_pos (position bias : Nat) : 0 < threshold position bias := by
  simp only [threshold]
  repeat' split
  all_goals omega

/-- Scales a difference down and counts the steps. -/
def scaleDown (n k : Nat) : Nat × Nat := if 455 < n then scaleDown (n / 35) (k + 36) else (n, k)
termination_by n
decreasing_by exact Nat.div_lt_self (by omega) (by omega)

/-- The bias after a difference. -/
def adapt (difference count : Nat) (first : Bool) : Nat :=
  let n := if first then difference / 700 else difference / 2
  let (n, k) := scaleDown (n + n / count) 0
  k + 36 * n / (n + 38)

/-- The digits of a difference from a position on. -/
def digits (bias position n : Nat) : List Char :=
  let t := threshold position bias
  if n < t then [digit n]
  else digit (t + (n - t) % (36 - t)) :: digits bias (position + 36) ((n - t) / (36 - t))
termination_by n
decreasing_by
  have := threshold_pos position bias
  exact Nat.lt_of_le_of_lt (Nat.div_le_self _ _) (by omega)

/-! ## Writing -/

/-- What has been written: the digits, the difference so far, the bias and how many characters are placed. -/
structure Progress where
  written : List Char
  difference : Nat
  bias : Nat
  placed : Nat

/-- Places one character if it has the current code point. -/
def place (basic current : Nat) (p : Progress) (n : Nat) : Progress :=
  if n < current then { p with difference := p.difference + 1 }
  else if n = current then
    { written := p.written ++ digits p.bias 36 p.difference
      difference := 0
      bias := adapt p.difference (p.placed + 1) (p.placed == basic)
      placed := p.placed + 1 }
  else p

/-- Places the characters with some code points, which are given in increasing order; `bound` is the least code point
that may come next. -/
def placeAll (label : List Nat) (basic : Nat) : List Nat → Nat → Progress → Progress
  | [], _, p => p
  | current :: more, bound, p =>
    let p := { p with difference := p.difference + (current - bound) * (p.placed + 1) }
    let p := label.foldl (place basic current) p
    placeAll label basic more (current + 1) { p with difference := p.difference + 1 }

/-- Puts a number into an increasing list, once. -/
def insertOnce (n : Nat) : List Nat → List Nat
  | [] => [n]
  | m :: rest => if n < m then n :: m :: rest else if n = m then m :: rest else m :: insertOnce n rest

/-- A label in ASCII. -/
def encode (label : List Nat) : List Char :=
  let ascii := label.filter (· < 0x80)
  let others := (label.filter (0x80 ≤ ·)).foldl (fun sorted n => insertOnce n sorted) []
  let done := placeAll label ascii.length others 0x80 ⟨[], 0, 72, ascii.length⟩
  ascii.map Char.ofNat ++ (if ascii.isEmpty then [] else ['-']) ++ done.written

/-! ## Reading -/

/-- Reads a difference from a position on: its value with what was read before, and the text after it. -/
def difference? (bias : Nat) : Nat → Nat → Nat → List Char → Option (Nat × List Char)
  | _, _, _, [] => none
  | position, weight, value, c :: rest => do
    let d ← digitValue? c
    let t := threshold position bias
    let value := value + d * weight
    if d < t then some (value, rest) else difference? bias (position + 36) (weight * (36 - t)) value rest

theorem difference?_length {bias position weight value n : Nat} {s rest : List Char}
    (h : difference? bias position weight value s = some (n, rest)) : rest.length < s.length := by
  induction s generalizing position weight value with
  | nil => simp [difference?] at h
  | cons c s ih =>
    rw [difference?] at h
    cases hd : digitValue? c with
    | none => simp [hd] at h
    | some d =>
      simp only [hd, Option.bind_eq_bind, Option.bind_some] at h
      split at h
      · simp only [Option.some.injEq, Prod.mk.injEq] at h
        simp [← h.2]
      · exact Nat.lt_succ_of_lt (ih h)

/-- Places the characters that differences stand for into a label. `bound` is the code point and `index` the place
where the last one left off. -/
def insertAll? (bias bound index : Nat) (label : List Nat) (s : List Char) : Option (List Nat) :=
  if s.isEmpty then some label
  else
    match h : difference? bias 36 1 index s with
    | none => none
    | some (n, rest) =>
      let count := label.length + 1
      let current := bound + n / count
      let here := n % count
      if current < 0xD800 || (0xDFFF < current && current < 0x110000) then
        insertAll? (adapt (n - index) count (index == 0)) current (here + 1)
          (label.insertIdx here current) rest
      else none
termination_by s.length
decreasing_by exact difference?_length h

/-- The label that a text in ASCII stands for. The ASCII characters stand before the last dash, if one is there that
does not begin the text. -/
def decode? (s : List Char) : Option (List Nat) :=
  let tail := (s.reverse.takeWhile (· != '-')).reverse
  let ascii := s.take (s.length - tail.length - 1)
  if ascii.isEmpty then insertAll? 72 0x80 0 [] s
  else insertAll? 72 0x80 0 (ascii.map Char.toNat) tail

end DialogueScript.Uri.Punycode
