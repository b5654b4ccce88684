import Choreography.Number.Binary64
import Choreography.Toml.Value

/-!
# Literals of TOML

A literal is a value without brackets: a string, a number, a time or a truth value. The text of
a literal, quotes included, is known before it is looked into; what it stands for is decided here.
-/

namespace Choreography

namespace Toml

/-- Space and tab. -/
def isBlank (c : Char) : Bool := c = ' ' || c = '\t'

/-- A character that may stand in comments and strings. -/
def isOrdinary (c : Char) : Bool := c = '\t' || (' ' ≤ c && c ≠ '\x7f')

/-- The text behind a line end, if there is one in front. -/
def lineEnd? : List Char → Option (List Char)
  | '\n' :: rest | '\r' :: '\n' :: rest => some rest
  | _ => none

/-- The value of a hexadecimal digit. -/
def hexDigit? (c : Char) : Option Nat :=
  if c.isDigit then some (c.toNat - '0'.toNat)
  else if 'a' ≤ c && c ≤ 'f' then some (c.toNat - 'a'.toNat + 10)
  else if 'A' ≤ c && c ≤ 'F' then some (c.toNat - 'A'.toNat + 10)
  else none

/-! ## Strings -/

/-- The text between quotes, if they stand on both sides. -/
def between? (quotes text : List Char) : Option (List Char) :=
  if quotes.isPrefixOf text && quotes.isSuffixOf text && 2 * quotes.length ≤ text.length then
    some ((text.drop quotes.length).take (text.length - 2 * quotes.length))
  else none

/-- All characters may stand in a string, line ends included if there may be several lines. -/
def isContent (lines : Bool) : List Char → Bool
  | [] => true
  | '\r' :: '\n' :: rest => lines && isContent lines rest
  | c :: rest => (isOrdinary c || (lines && c = '\n')) && isContent lines rest

/-- The code point of so many hexadecimal digits, and the rest of the text. -/
def codePoint? (digits : Nat) (s : List Char) : Option (Char × List Char) := do
  let ds := s.take digits
  guard (ds.length = digits)
  let n ← ds.foldlM (fun n c => do return n * 16 + (← hexDigit? c)) 0
  if h : n.isValidChar then some (Char.ofNatAux n h, s.drop digits) else none

/-- The character of an escape behind its backslash, and the rest of the text. -/
def escaped? : List Char → Option (Char × List Char)
  | 'b' :: rest => some ('\x08', rest)
  | 't' :: rest => some ('\t', rest)
  | 'n' :: rest => some ('\n', rest)
  | 'f' :: rest => some ('\x0c', rest)
  | 'r' :: rest => some ('\r', rest)
  | 'e' :: rest => some ('\x1b', rest)
  | '"' :: rest => some ('"', rest)
  | '\\' :: rest => some ('\\', rest)
  | 'x' :: rest => codePoint? 2 rest
  | 'u' :: rest => codePoint? 4 rest
  | 'U' :: rest => codePoint? 8 rest
  | _ => none

/-- The text behind a backslash at the end of a line: all blanks and line ends are dropped. -/
def joined? (s : List Char) : Option (List Char) := do
  let rest ← lineEnd? (s.dropWhile isBlank)
  return rest.dropWhile fun c => isBlank c || c = '\r' || c = '\n'

/-- The text with its escapes resolved. Each step uses up at least one character, so a `bound` as
long as the text is never too short. -/
def unescape? : (bound : List Char) → List Char → Option (List Char)
  | _, [] => some []
  | [], _ :: _ => none
  | _ :: bound, c :: rest =>
    if c = '\\' then
      match joined? rest with
      | some rest => unescape? bound rest
      | none => do
        let (c, rest) ← escaped? rest
        return c :: (← unescape? bound rest)
    else do return c :: (← unescape? bound rest)

/-- The string of a text in the given quotes, on one line or, in three quotes on both sides, on
several ones. Then a line end right behind the opening quotes is dropped. Escapes are only known
within double quotes. -/
def quoted? (quote : Char) (lines : Bool) (text : List Char) : Option String := do
  let body ← between? (if lines then [quote, quote, quote] else [quote]) text
  let body := if lines then (lineEnd? body).getD body else body
  guard (isContent lines body)
  return String.ofList (← if quote = '"' then unescape? body body else some body)

/-- The text begins with three quotes, so its string may have several lines. -/
def hasLines : List Char → Bool
  | '"' :: '"' :: '"' :: _ | '\'' :: '\'' :: '\'' :: _ => true
  | _ => false

/-- The string of a text in quotes. -/
def string? (text : List Char) : Option String :=
  match text with
  | '"' :: _ => quoted? '"' (hasLines text) text
  | '\'' :: _ => quoted? '\'' (hasLines text) text
  | _ => none

/-! ## Numbers -/

/-- A hexadecimal digit. -/
def isHexDigit (c : Char) : Bool := (hexDigit? c).isSome

/-- The digits without underscores as a number. -/
def numeral (base : Nat) (cs : List Char) : Nat :=
  (cs.filterMap hexDigit?).foldl (fun n d => n * base + d) 0

/-- Takes a sign from the front. Tells whether it is a minus. -/
def takeSign : List Char → Bool × List Char
  | '+' :: rest => (false, rest)
  | '-' :: rest => (true, rest)
  | s => (false, s)

/-- Each underscore of a text stands between two digits. -/
def linksDigits (isDigit : Char → Bool) : (behindDigit : Bool) → List Char → Bool
  | _, [] => true
  | behindDigit, '_' :: rest =>
    behindDigit && rest.head?.any isDigit && linksDigits isDigit false rest
  | _, c :: rest => linksDigits isDigit (isDigit c) rest

/-- Each underscore stands between two digits, or between the first character and a digit: a sign
counts as a digit. -/
def areLinked (isDigit : Char → Bool) : List Char → Bool
  | [] => true
  | c :: rest => c ≠ '_' && linksDigits isDigit true rest

/-- A whole number with a prefix for its base, which is left out here. A number without digits is
none that can be read. -/
def prefixed? (base : Nat) (isDigit : Char → Bool) (cs : List Char) : Option Value :=
  if cs.all (fun c => isDigit c || c = '_') && areLinked isDigit cs then
    some (.number (!cs.isEmpty && numeral base cs < Nat.pow 2 128))
  else none

/-- A whole number with or without a sign, and no zero in front of other digits. Its underscores may
link any hexadecimal digits, and what stands between them is free; but only decimal digits can be
read, of a number that fits in 128 bits. -/
def integer? (cs : List Char) : Option Value :=
  let (negative, ds) := takeSign cs
  if !ds.isEmpty && (ds.head? ≠ some '0' || ds.length = 1) && areLinked isHexDigit cs then
    let digits := ds.filter (· ≠ '_')
    let most := if negative then Nat.pow 2 127 else Nat.pow 2 128 - 1
    some (.number (digits.all Char.isDigit && numeral 10 digits ≤ most))
  else none

/-- A decimal number: a whole number of units `10 ^ exponent`, its sign left out. -/
structure Decimal where
  significand : Nat
  exponent : Int
  deriving DecidableEq, Repr

/-- The number does not round to infinity. All numbers below `10 ^ 308` fit and none from `10 ^ 309`
on; only in between the number has to be rounded. -/
def Decimal.fits (d : Decimal) : Bool :=
  let magnitude := d.exponent + (Nat.toDigits 10 d.significand).length
  d.significand = 0 || magnitude ≤ 308 ||
    (magnitude = 309 &&
      (Binary64.round? (d.significand * Nat.pow 10 d.exponent.toNat)
        (Nat.pow 10 (-d.exponent).toNat)).isSome)

/-- Splits off decimal digits, with underscores that are left out. There is at least one digit. -/
def splitDigits? (cs : List Char) : Option (List Char × List Char) :=
  let isPart (c : Char) : Bool := c.isDigit || c = '_'
  let ds := (cs.takeWhile isPart).filter Char.isDigit
  if ds.isEmpty then none else some (ds, cs.dropWhile isPart)

/-- Splits off the fraction of a number, if there is one. -/
def splitFraction? : List Char → Option (List Char × List Char)
  | '.' :: rest => splitDigits? rest
  | rest => some ([], rest)

/-- Splits off the exponent of a number, if there is one. -/
def splitExponent? : List Char → Option (Int × List Char)
  | 'e' :: rest | 'E' :: rest => do
    let (down, rest) := takeSign rest
    let (ds, rest) ← splitDigits? rest
    let n : Int := numeral 10 ds
    return (if down then -n else n, rest)
  | rest => some (0, rest)

/-- A number with a fraction, an exponent or both. -/
def decimal? (cs : List Char) : Option Decimal := do
  guard (areLinked Char.isDigit cs)
  let (_, cs) := takeSign cs
  let (whole, rest) ← splitDigits? cs
  guard (cs.head? ≠ some '0' || whole.length = 1)
  let (fraction, rest) ← splitFraction? rest
  let (exponent, rest) ← splitExponent? rest
  guard rest.isEmpty
  return ⟨numeral 10 (whole ++ fraction), exponent - fraction.length⟩

/-- The number of a text. It may be one that cannot be read: a whole one with strange digits or out
of range, or one that rounds to infinity. -/
def number? (text : List Char) : Option Value :=
  match text with
  | '0' :: 'x' :: ds => prefixed? 16 isHexDigit ds
  | '0' :: 'o' :: ds => prefixed? 8 (fun c => '0' ≤ c && c ≤ '7') ds
  | '0' :: 'b' :: ds => prefixed? 2 (fun c => c = '0' || c = '1') ds
  | _ =>
    let (_, cs) := takeSign text
    if cs = "inf".toList || cs = "nan".toList then some (.number true)
    else
      let rest := cs.dropWhile Char.isDigit
      if ' ' ∈ rest then none
      else if rest.any (fun c => c = '.' || c = 'e' || c = 'E') then
        (decimal? text).map fun d => .number d.fits
      else if rest.isEmpty || rest.head? = some '_' then integer? text
      else none

/-! ## Times -/

/-- The days of a month. -/
def daysIn (year month : Nat) : Nat :=
  if month = 2 then
    if year % 4 = 0 && (year % 100 ≠ 0 || year % 400 = 0) then 29 else 28
  else if month ∈ [4, 6, 9, 11] then 30 else 31

/-- A number of exactly so many decimal digits, within bounds. -/
def isField (width low high : Nat) (cs : List Char) : Bool :=
  cs.length = width && cs.all Char.isDigit && low ≤ numeral 10 cs && numeral 10 cs ≤ high

/-- `1979-05-27` -/
def isDate (cs : List Char) : Bool :=
  match cs with
  | [y₁, y₂, y₃, y₄, '-', m₁, m₂, '-', d₁, d₂] =>
    let year := [y₁, y₂, y₃, y₄]
    let month := [m₁, m₂]
    isField 4 0 9999 year && isField 2 1 12 month &&
      isField 2 1 (daysIn (numeral 10 year) (numeral 10 month)) [d₁, d₂]
  | _ => false

/-- `07:32:00.999`; seconds and their fraction may be missing. -/
def isClock (cs : List Char) : Bool :=
  match cs with
  | h₁ :: h₂ :: ':' :: m₁ :: m₂ :: rest =>
    isField 2 0 23 [h₁, h₂] && isField 2 0 59 [m₁, m₂] &&
      match rest with
      | [] => true
      | ':' :: s₁ :: s₂ :: rest =>
        isField 2 0 60 [s₁, s₂] &&
          match rest with
          | [] => true
          | '.' :: ds => !ds.isEmpty && ds.all Char.isDigit
          | _ => false
      | _ => false
  | _ => false

/-- `Z` or `+07:00` -/
def isZone (cs : List Char) : Bool :=
  match cs with
  | ['Z'] | ['z'] => true
  | [sign, h₁, h₂, ':', m₁, m₂] =>
    (sign = '+' || sign = '-') && isField 2 0 23 [h₁, h₂] && isField 2 0 59 [m₁, m₂]
  | _ => false

/-- A clock time with or without a zone. -/
def isZonedClock (cs : List Char) : Bool :=
  let isZoneStart (c : Char) : Bool := c = 'Z' || c = 'z' || c = '+' || c = '-'
  let clock := cs.takeWhile (!isZoneStart ·)
  let zone := cs.dropWhile (!isZoneStart ·)
  isClock clock && (zone.isEmpty || isZone zone)

/-- A date, a clock time, or both. -/
def isTime (cs : List Char) : Bool :=
  isDate cs || isClock cs ||
    (isDate (cs.take 10) &&
      match cs.drop 10 with
      | c :: clock => (c = 'T' || c = 't' || c = ' ') && isZonedClock clock
      | [] => false)

/-! ## Values of literals -/

/-- The value of a literal. -/
def literal? (text : List Char) : Option Value :=
  if text = "true".toList then some (.boolean true)
  else if text = "false".toList then some (.boolean false)
  else if isTime text then some .time
  else
    match string? text with
    | some s => some (.text s)
    | none => number? text

end Toml

end Choreography
