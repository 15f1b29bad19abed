import DialogueScript.Text.Blank
import DialogueScript.Text.Cut
import DialogueScript.Text.Digit

/-!
# Frames

On a stream every message stands in a frame: a head of lines, an empty line, and the body. The head gives the length of
the body in bytes.
-/

namespace DialogueScript

namespace Frame

/-- The frame of a body. -/
def encode (body : String) : String := "Content-Length: " ++ toString body.utf8ByteSize ++ "\r\n\r\n" ++ body

/-- The length that a line of a head gives, if it is about the length. -/
def length? (line : List Char) : Option Nat := do
  let (name, value) ← cut ':' line
  let digits := trim value
  if name.map Char.toLower = "content-length".toList && !digits.isEmpty && digits.all isDigit then
    some (digitsValue 10 digits)
  else none

end Frame

end DialogueScript
