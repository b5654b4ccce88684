/-!
# Identifiers of environments and diagrams

An identifier is any text. Identifiers that the editor makes up are *numbered*: the stem of their
kind, a hyphen and a number (`env-3`, `diagram-12`).

- `Identifier.number?` reads the number back; other spellings of the same number (`env-+3`,
  `env-03`) carry it too, texts of any other form carry none.
- `Identifier.fresh` steps past the identifiers that are taken: it answers with the numbered
  identifier of the least free number above the last one used.
-/

namespace Choreography

/-- What an identifier stands for. -/
inductive Kind where
  | environment
  | diagram
  deriving DecidableEq, Repr

/-- The word that opens every numbered identifier of a kind. -/
def Kind.stem : Kind → String
  | .environment => "env"
  | .diagram => "diagram"

/-- An identifier: a text, compared character by character. -/
structure Identifier (kind : Kind) where
  text : String
  deriving DecidableEq, Repr

/-- Identifier of an environment. -/
abbrev EnvironmentId := Identifier .environment

/-- Identifier of a diagram. -/
abbrev DiagramId := Identifier .diagram

/-- The largest number that an identifier carries. -/
def Identifier.maxNumber : Nat := Nat.pow 2 64 - 1

/-- Reads decimal digits behind at most one plus sign. A number above `maxNumber` is refused. -/
def Identifier.readNumber? (cs : List Char) : Option Nat :=
  let digits := match cs with
    | '+' :: rest => rest
    | _ => cs
  if digits.isEmpty || !digits.all Char.isDigit then none
  else
    let n := Nat.ofDigitChars 10 digits 0
    if n ≤ maxNumber then some n else none

namespace Identifier

variable {kind : Kind}

/-- The numbered identifier of a kind: `env-n` or `diagram-n`. -/
def numbered (kind : Kind) (n : Nat) : Identifier kind :=
  ⟨kind.stem ++ "-" ++ toString n⟩

/-- The number that an identifier carries: what follows the stem and a hyphen, if it reads as
a number. -/
def number? (id : Identifier kind) : Option Nat :=
  let opening := (kind.stem ++ "-").toList
  let cs := id.text.toList
  if opening.isPrefixOf cs then readNumber? (cs.drop opening.length) else none

/-- The first number from `n` on whose identifier is not taken, at most `tries` further. -/
def firstFree (taken : List (Identifier kind)) : (tries n : Nat) → Nat
  | 0, n => n
  | tries + 1, n => if numbered kind n ∈ taken then firstFree taken tries (n + 1) else n

/-- A new identifier and its number: the least number above `last` whose identifier is not
taken. Of any `taken.length + 1` numbered identifiers one is free, so as many tries as there are
taken identifiers always reach it.

The number can be of any size here. A counter that is a word of 64 bits has no number above
`maxNumber`: once an identifier with that number has been loaded (`env-18446744073709551615`), its
next step fails, or starts again at zero, where this one goes on. -/
def fresh (last : Nat) (taken : List (Identifier kind)) : Identifier kind × Nat :=
  let n := firstFree taken taken.length (last + 1)
  (numbered kind n, n)

end Identifier

end Choreography
