import Choreography.Json.Fault

/-!
# Words, numbers and strings of JSON

The readers of this module take the text behind the first character of a lexeme and answer with
what they read and the rest of the text. A fault is placed where reading stopped: in front of the
rest, or behind the one byte that was looked at.
-/

namespace Choreography

namespace Json

/-- Reads from the front of a text: an answer and the rest. -/
abbrev Reader (α : Type) := List Char → Except Fault (α × List Char)

/-- Space, tab, line feed and carriage return stand between lexemes. -/
def isBlank (c : Char) : Bool :=
  c = ' ' || c = '\t' || c = '\n' || c = '\r'

/-- The text without the blanks in front. -/
def skipBlanks (s : List Char) : List Char :=
  s.dropWhile isBlank

/-- Reads the remaining letters of a literal. -/
def readLetters : (letters : List Char) → List Char → Except Fault (List Char)
  | [], s => .ok s
  | _ :: _, [] => .error (.before .endInValue [])
  | l :: letters, c :: rest =>
    if c = l then readLetters letters rest else .error (.within .literalDue (c :: rest))

/-! ## Numbers -/

/-- A number as it is told apart in messages. -/
inductive Number where
  | integer (n : Int)
  | float (negative : Bool) (magnitude : Binary64)
  deriving DecidableEq, Repr

namespace Number

/-- The largest significand that is kept: further digits only move the exponent. -/
def maxSignificand : Nat := Nat.pow 2 64 - 1

/-- The largest exponent that is read; a longer one overflows. -/
def maxExponent : Nat := Nat.pow 2 31 - 1

/-- The value of a decimal digit. -/
def digit (c : Char) : Nat := c.toNat - '0'.toNat

/-- Appends digits to a number as long as it stays within the limit. Answers with the number and
the digits left over. -/
def absorb (limit : Nat) : (n : Nat) → List Char → Nat × List Char
  | n, [] => (n, [])
  | n, c :: rest =>
    let next := n * 10 + digit c
    if next ≤ limit then absorb limit next rest else (n, c :: rest)

/-- A power of ten, rounded to a double. -/
def powerOfTen (e : Nat) : Binary64 :=
  (Binary64.round? (Nat.pow 10 e) 1).getD .zero

/-- Divides by `10 ^ 308` until the exponent is in reach; at most `steps` times, as three make
any significand vanish. -/
def shrink : (steps : Nat) → Binary64 → Nat → Option Binary64
  | 0, _, _ => some .zero
  | steps + 1, x, e =>
    if e ≤ 308 then x.div? (powerOfTen e)
    else if x.mantissa = 0 then some x
    else do shrink steps (← x.div? (powerOfTen 308)) (e - 308)

/-- The double made from a significand and a power of ten: both are rounded, and then their product
or quotient. None if it is too large. -/
def scale (significand : Nat) (exponent : Int) : Option Binary64 := do
  let x ← Binary64.round? significand 1
  if exponent < 0 then shrink 5 x exponent.natAbs
  else if exponent ≤ 308 then x.mul? (powerOfTen exponent.toNat)
  else if x.mantissa = 0 then some x
  else none

/-- The double of a significand and an exponent, read up to the rest of the text. -/
def float? (negative : Bool) (significand : Nat) (exponent : Int) (rest : List Char) :
    Except Fault (Number × List Char) :=
  match scale significand exponent with
  | some x => .ok (.float negative x, rest)
  | none => .error (.before .numberOutOfRange rest)

/-- Reads an exponent behind its letter. -/
def readExponent (negative : Bool) (significand : Nat) (exponent : Int) : Reader Number := fun s =>
  let (down, s) := match s with
    | '+' :: rest => (false, rest)
    | '-' :: rest => (true, rest)
    | _ => (false, s)
  match s with
  | [] => .error (.before .endInValue [])
  | c :: _ =>
    if !c.isDigit then .error (.within .invalidNumber s)
    else
      let rest := s.dropWhile Char.isDigit
      match absorb maxExponent 0 (s.takeWhile Char.isDigit) with
      | (e, []) => float? negative significand (if down then exponent - e else exponent + e) rest
      | (_, _ :: more) =>
        if significand = 0 || down then .ok (.float negative .zero, rest)
        else .error (.before .numberOutOfRange (more ++ rest))

/-- Reads an exponent if there is one. -/
def readOptionalExponent (negative : Bool) (significand : Nat) (exponent : Int) :
    Reader Number := fun s =>
  match s with
  | 'e' :: rest | 'E' :: rest => readExponent negative significand exponent rest
  | _ => float? negative significand exponent s

/-- Reads a fraction behind its point. -/
def readFraction (negative : Bool) (significand : Nat) (exponent : Int) : Reader Number := fun s =>
  let digits := s.takeWhile Char.isDigit
  let rest := s.dropWhile Char.isDigit
  if digits.isEmpty then
    .error (.within (if rest.isEmpty then .endInValue else .invalidNumber) rest)
  else
    let (significand, left) := absorb maxSignificand significand digits
    readOptionalExponent negative significand
      (exponent - ((digits.length : Int) - left.length)) rest

/-- The number of a significand without fraction and exponent. A negative one that is zero or
beyond 64 bits counts as a double. -/
def whole (negative : Bool) (significand : Nat) (rest : List Char) :
    Except Fault (Number × List Char) :=
  if !negative then .ok (.integer significand, rest)
  else if 0 < significand && significand ≤ Nat.pow 2 63 then .ok (.integer (-significand), rest)
  else float? true significand 0 rest

/-- Reads a number behind its sign. -/
def read (negative : Bool) : Reader Number := fun s =>
  let digits := s.takeWhile Char.isDigit
  let rest := s.dropWhile Char.isDigit
  match digits with
  | [] => .error (if s.isEmpty then .before .endInValue s else .within .invalidNumber s)
  | '0' :: d :: more => .error (.within .invalidNumber (d :: more ++ rest))
  | _ =>
    let (significand, left) := absorb maxSignificand 0 digits
    match rest with
    | '.' :: rest => readFraction negative significand left.length rest
    | 'e' :: rest | 'E' :: rest => readExponent negative significand left.length rest
    | _ =>
      if left.isEmpty then whole negative significand rest
      else float? negative significand left.length rest

/-- Skips an exponent behind its letter. -/
def skipExponent (s : List Char) : Except Fault (List Char) :=
  let s := match s with
    | '+' :: rest | '-' :: rest => rest
    | _ => s
  match s with
  | c :: rest =>
    if c.isDigit then .ok (rest.dropWhile Char.isDigit) else .error (.within .invalidNumber s)
  | [] => .error (.within .invalidNumber [])

/-- Skips what may follow the whole part and the fraction. -/
def skipOptionalExponent (s : List Char) : Except Fault (List Char) :=
  match s with
  | 'e' :: rest | 'E' :: rest => skipExponent rest
  | _ => .ok s

/-- Skips a number behind its sign. Its size does not matter. -/
def skip (s : List Char) : Except Fault (List Char) :=
  let rest := s.dropWhile Char.isDigit
  match s.takeWhile Char.isDigit with
  | [] => .error (.within .invalidNumber s)
  | '0' :: d :: more => .error (.within .invalidNumber (d :: more ++ rest))
  | _ =>
    match rest with
    | '.' :: rest =>
      if (rest.takeWhile Char.isDigit).isEmpty then .error (.within .invalidNumber rest)
      else skipOptionalExponent (rest.dropWhile Char.isDigit)
    | _ => skipOptionalExponent rest

end Number

/-! ## Strings -/

/-- The value of a hexadecimal digit. -/
def hexDigit? (c : Char) : Option Nat :=
  if '0' ≤ c && c ≤ '9' then some (c.toNat - '0'.toNat)
  else if 'a' ≤ c && c ≤ 'f' then some (c.toNat - 'a'.toNat + 10)
  else if 'A' ≤ c && c ≤ 'F' then some (c.toNat - 'A'.toNat + 10)
  else none

/-- The value of four hexadecimal digits. -/
def hexValue? : List Char → Option Nat
  | [a, b, c, d] => do
    return (((← hexDigit? a) * 16 + (← hexDigit? b)) * 16 + (← hexDigit? c)) * 16 + (← hexDigit? d)
  | _ => none

/-- Reads four hexadecimal digits. If they are none, the fault lies behind the four bytes that
were looked at, or at the end of a shorter text. -/
def readHex : Reader Nat := fun s =>
  match hexValue? (s.take 4) with
  | some n => .ok (n, s.drop 4)
  | none =>
    let bytes := Text.byteLength s
    .error (if bytes < 4 then ⟨.endInString, 0⟩ else ⟨.invalidEscape, bytes - 4⟩)

/-- A trailing surrogate. -/
def isTrailing (n : Nat) : Bool := 0xDC00 ≤ n && n ≤ 0xDFFF

/-- A leading surrogate. -/
def isLeading (n : Nat) : Bool := 0xD800 ≤ n && n ≤ 0xDBFF

/-- The character of two surrogates. -/
def pair (leading trailing : Nat) : Char :=
  Char.ofNat ((leading - 0xD800) * 0x400 + (trailing - 0xDC00) + 0x10000)

/-- Reads the escape of the second surrogate behind the first one. -/
def readTrailing (leading : Nat) : Reader Char := fun s =>
  match s with
  | '\\' :: 'u' :: rest => do
    let (trailing, rest) ← readHex rest
    if isTrailing trailing then return (pair leading trailing, rest)
    else throw (.before .loneSurrogate rest)
  | [] | ['\\'] => .error (.before .endInString [])
  | '\\' :: rest => .error (.within .halfPair rest)
  | _ => .error (.within .halfPair s)

/-- Reads an escape behind its backslash. -/
def readEscape : Reader Char := fun s =>
  match s with
  | [] => .error (.before .endInString [])
  | '"' :: rest => .ok ('"', rest)
  | '\\' :: rest => .ok ('\\', rest)
  | '/' :: rest => .ok ('/', rest)
  | 'b' :: rest => .ok ('\x08', rest)
  | 'f' :: rest => .ok ('\x0c', rest)
  | 'n' :: rest => .ok ('\n', rest)
  | 'r' :: rest => .ok ('\r', rest)
  | 't' :: rest => .ok ('\t', rest)
  | 'u' :: rest => do
    let (n, rest) ← readHex rest
    if isTrailing n then throw (.before .loneSurrogate rest)
    else if isLeading n then readTrailing n rest
    else return (Char.ofNat n, rest)
  | _ => .error (.within .invalidEscape s)

/-- Reads the characters of a string and its closing quote. Each of them uses up at least one
character of the text, so a `bound` as long as the text is never too short. -/
def readCharacters : (bound : List Char) → Reader (List Char)
  | [], _ => .error (.before .endInString [])
  | _ :: bound, s =>
    match s with
    | [] => .error (.before .endInString [])
    | '"' :: rest => .ok ([], rest)
    | '\\' :: rest => do
      let (c, rest) ← readEscape rest
      let (cs, rest) ← readCharacters bound rest
      return (c :: cs, rest)
    | c :: rest =>
      if c < ' ' then .error (.within .controlCharacter s)
      else do
        let (cs, rest) ← readCharacters bound rest
        return (c :: cs, rest)

/-- Reads a string behind its opening quote. -/
def readStringBody : Reader String := fun s => do
  let (cs, rest) ← readCharacters s s
  return (String.ofList cs, rest)

/-- Skips an escape behind its backslash. Surrogates need not pair up. -/
def skipEscape (s : List Char) : Except Fault (List Char) :=
  match s with
  | [] => .error (.before .endInString [])
  | 'u' :: rest => do return (← readHex rest).2
  | c :: rest =>
    if c ∈ ['"', '\\', '/', 'b', 'f', 'n', 'r', 't'] then .ok rest
    else .error (.within .invalidEscape s)

/-- Skips the characters of a string and its closing quote, with a `bound` as `readCharacters` has
it. A control character is not counted into the place of its fault. -/
def skipCharacters : (bound : List Char) → List Char → Except Fault (List Char)
  | [], _ => .error (.before .endInString [])
  | _ :: bound, s =>
    match s with
    | [] => .error (.before .endInString [])
    | '"' :: rest => .ok rest
    | '\\' :: rest => do skipCharacters bound (← skipEscape rest)
    | c :: rest =>
      if c < ' ' then .error (.before .controlCharacter s) else skipCharacters bound rest

/-- Skips a string behind its opening quote. -/
def skipStringBody (s : List Char) : Except Fault (List Char) :=
  skipCharacters s s

end Json

end Choreography
