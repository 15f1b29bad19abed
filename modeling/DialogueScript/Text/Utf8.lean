/-!
# UTF-8

A character is written as one to four bytes: a lead byte, which tells how many bytes follow, and those bytes. `decode?`
reads bytes that must be UTF-8. `decodeLossy` reads any bytes: where no character stands, the longest run of bytes that
could begin one, at least one byte, becomes the replacement character.
-/

namespace DialogueScript.Utf8

/-- The bytes of a text. -/
def encode (s : List Char) : List UInt8 := s.flatMap String.utf8EncodeChar

/-- Reads the bytes that follow a lead byte: the code point they make together with the bits read before, if all are
there, and the bytes after those that fit. The bounds hold for the next byte; those behind it may be any bytes that
follow. -/
def follow : Nat → Nat → Nat → Nat → List UInt8 → Option Nat × List UInt8
  | 0, _, _, n, rest => (some n, rest)
  | _ + 1, _, _, _, [] => (none, [])
  | count + 1, low, high, n, b :: rest =>
    if low ≤ b.toNat && b.toNat ≤ high then follow count 0x80 0xBF (n * 64 + b.toNat % 64) rest
    else (none, b :: rest)

/-- Reads a character that begins with a byte: its code point, if it is complete, and the bytes after it. The bounds
leave out forms that are too long, surrogates, and numbers that are too large. -/
def next (b : UInt8) (rest : List UInt8) : Option Nat × List UInt8 :=
  let n := b.toNat
  if n < 0x80 then (some n, rest)
  else if n < 0xC2 then (none, rest)
  else if n < 0xE0 then follow 1 0x80 0xBF (n % 32) rest
  else if n = 0xE0 then follow 2 0xA0 0xBF (n % 16) rest
  else if n = 0xED then follow 2 0x80 0x9F (n % 16) rest
  else if n < 0xF0 then follow 2 0x80 0xBF (n % 16) rest
  else if n = 0xF0 then follow 3 0x90 0xBF (n % 8) rest
  else if n < 0xF4 then follow 3 0x80 0xBF (n % 8) rest
  else if n = 0xF4 then follow 3 0x80 0x8F (n % 8) rest
  else (none, rest)

theorem follow_length (count low high n : Nat) (bytes : List UInt8) :
    (follow count low high n bytes).2.length ≤ bytes.length := by
  induction count generalizing low high n bytes with
  | zero => simp [follow]
  | succ count ih =>
    cases bytes with
    | nil => simp [follow]
    | cons b rest =>
      simp only [follow]
      split
      · exact Nat.le_trans (ih _ _ _ rest) (by simp)
      · simp

theorem next_length (b : UInt8) (rest : List UInt8) : (next b rest).2.length ≤ rest.length := by
  simp only [next]
  repeat' split
  all_goals first
    | exact Nat.le_refl _
    | exact follow_length _ _ _ _ _

/-- The characters of bytes, where one is there. -/
def chars : List UInt8 → List (Option Char)
  | [] => []
  | b :: rest => (next b rest).1.map Char.ofNat :: chars (next b rest).2
termination_by bytes => bytes.length
decreasing_by exact Nat.lt_succ_of_le (next_length b rest)

/-- The text that bytes are the UTF-8 form of. -/
def decode? (bytes : List UInt8) : Option (List Char) := (chars bytes).mapM id

/-- The text of bytes that need not be UTF-8. -/
def decodeLossy (bytes : List UInt8) : List Char := (chars bytes).map fun c => c.getD '\uFFFD'

end DialogueScript.Utf8
