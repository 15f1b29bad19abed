import DialogueScript.Text.Cut
import DialogueScript.Unicode.Direction
import DialogueScript.Unicode.Joining
import DialogueScript.Unicode.Normal
import DialogueScript.Uri.DomainMapping
import DialogueScript.Uri.Punycode

/-!
# Domains

A domain is a sequence of labels between points. `Domain.toAscii?` brings a domain that may hold any characters to
ASCII: characters are mapped, the text is put into its composed form, and every label that leaves ASCII is written in
Punycode with `xn--` in front. A label that is written so already must stand for a label that needs no mapping. Labels
must not begin with a mark, joiners must have something to join, and where some label is written from right to left no
label may mix directions.
-/

namespace DialogueScript.Uri.Domain

open Unicode

/-- What stands in front of a label in Punycode. -/
def mark : List Nat := "xn--".toList.map Char.toNat

/-- How many characters a label that leaves ASCII may have. -/
def labelLimit : Nat := 1000

/-- How long the Punycode of a label may be when it is read. -/
def codeLimit : Nat := 2000

/-- Whether a code point is in ASCII. -/
def isAscii (n : Nat) : Bool := n < 0x80

/-! ## Mapping -/

/-- A domain with its characters mapped, in composed form. -/
def mapped? (domain : List Char) : Option (List Nat) := do
  let images ← domain.mapM fun c =>
    match mapChar c.toNat with
    | .kept => some [c.toNat]
    | .replaced image => some image
    | .dropped => some []
    | .refused => none
  some (compose images.flatten)

/-- Splits a text of code points at the points. -/
def labels (domain : List Nat) : List (List Nat) := splitOn '.'.toNat domain

/-- Whether a label is as mapping would leave it. -/
def isMapped (label : List Nat) : Bool := label.all (fun n => mapChar n == .kept) && isComposed label

/-! ## Joiners -/

/-- Whether a letter that joins the next one ends a text, which is given last code point first. -/
def joinsAhead (before : List Nat) : Bool :=
  match before.dropWhile isTransparent with
  | n :: _ => joinsNext n
  | [] => false

/-- Whether a letter that joins the one before begins a text. -/
def joinsBehind (after : List Nat) : Bool :=
  match after.dropWhile isTransparent with
  | n :: _ => joinsPrevious n
  | [] => false

/-- Whether a text ends with a sign that takes a vowel away. The text is given last code point first. -/
def endsInVirama (before : List Nat) : Bool := (before.head?.map isVirama).getD false

/-- Whether every joiner of a text has something to join, given what stands before the text, last code point first: the
joiner stands behind a sign that takes a vowel away, and the non-joiner there or between letters that would join. -/
def joinersFit (before : List Nat) : List Nat → Bool
  | [] => true
  | n :: after =>
    let fits :=
      if n = 0x200D then endsInVirama before
      else if n = 0x200C then endsInVirama before || (joinsAhead before && joinsBehind after)
      else true
    fits && joinersFit (n :: before) after

/-! ## Directions -/

/-- Whether a code point makes its domain one of mixed directions. -/
def turns (n : Nat) : Bool := direction n == .leftward || direction n == .arabicNumber

/-- The direction of the last character of a label that is no mark. -/
def lastDirection? (directions : List Direction) : Option Direction :=
  (directions.reverse.dropWhile fun d => d == .mark).head?

/-- Whether a label keeps one direction. A label written from right to left begins with such a letter, holds none of the
other direction, ends with a letter or number and does not mix both kinds of numbers; a label written from left to right
begins with such a letter, holds nothing of the other direction and ends with a letter or number. -/
def keepsDirection (label : List Nat) : Bool :=
  let directions := label.map direction
  match directions with
  | [] => true
  | .leftward :: _ =>
    !directions.contains .rightward &&
      (match lastDirection? directions with
        | some .leftward | some .europeanNumber | some .arabicNumber => true
        | _ => false) &&
      !(directions.contains .europeanNumber && directions.contains .arabicNumber)
  | .rightward :: _ =>
    !directions.contains .leftward && !directions.contains .arabicNumber &&
      (match lastDirection? directions with
        | some .rightward | some .europeanNumber => true
        | _ => false)
  | _ => false

/-! ## Labels -/

/-- The label that a mapped label stands for: what its Punycode says, or itself. Punycode must not stand for a label
that needs none, or that needs mapping, or that looks like Punycode again. -/
def meaning? (label : List Nat) : Option (List Nat) :=
  if mark.isPrefixOf label then do
    let code := label.drop mark.length
    if !code.all isAscii || codeLimit < code.length then none
    let plain ← Punycode.decode? (code.map Char.ofNat)
    if plain.all isAscii || !isMapped plain || mark.isPrefixOf plain then none else some plain
  else some label

/-- Whether a label is well-formed: it does not begin with a mark, its joiners fit, and it is not too long. -/
def isWellFormed (label : List Nat) : Bool :=
  !(label.head?.map isMark).getD false && joinersFit [] label && (label.all isAscii || label.length ≤ labelLimit)

/-- A label in ASCII. -/
def asciiLabel (label : List Nat) : List Char :=
  if label.all isAscii then label.map Char.ofNat else mark.map Char.ofNat ++ Punycode.encode label

/-- A domain in ASCII. -/
def toAscii? (domain : List Char) : Option (List Char) := do
  let all := labels (← mapped? domain)
  let meanings ← all.mapM meaning?
  if !meanings.all isWellFormed then none
  if meanings.any (fun label => label.any turns) && !meanings.all keepsDirection then none
  some (List.intercalate ['.'] (all.map asciiLabel))

end DialogueScript.Uri.Domain
