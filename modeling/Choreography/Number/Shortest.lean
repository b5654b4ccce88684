import Choreography.Number.Binary64

/-!
# The shortest decimal text of a double

`Binary64.shortest` finds the decimal number with the fewest digits that rounds to a given
magnitude, and among those the one nearest to it. `Binary64.text` writes it: positionally, with at
least one digit behind the point, from `1e-5` up to below `1e16`, else with a signed exponent.
-/

namespace Choreography

namespace Binary64

/-- A whole number of units `10 ^ exponent`. -/
structure Digits where
  significand : Nat
  exponent : Int
  deriving DecidableEq, Repr

/-- The decimal on the grid of units `10 ^ p` that rounds to `x`: of the two neighbours of `x` on
the grid the nearer one, if it rounds to `x`, and else the other. -/
def onGrid? (x : Binary64) (p : Int) : Option Nat :=
  let (four, den) := scaled (4 * x.mantissa) x.exponent
  let (unit, _) := scaled 1 x.exponent
  let below := if x.mantissa = leastFull ∧ x.exponent > minExponent then unit else 2 * unit
  let above := 2 * unit
  let num := four * Nat.pow 10 (-p).toNat
  let low := (four - below) * Nat.pow 10 (-p).toNat
  let high := (four + above) * Nat.pow 10 (-p).toNat
  let grid := 4 * den * Nat.pow 10 p.toNat
  let rounds (c : Nat) : Bool :=
    if x.mantissa % 2 = 0 then low ≤ c * grid && c * grid ≤ high
    else low < c * grid && c * grid < high
  let floor := num / grid
  let nearest := roundDiv num grid
  let other := if nearest = floor then floor + 1 else floor
  if 0 < nearest && rounds nearest then some nearest
  else if 0 < other && rounds other then some other
  else none

/-- Looks for the coarsest grid that has a decimal for `x`, from the units `10 ^ p` down. -/
def coarsest (x : Binary64) : (grids : Nat) → (p : Int) → Digits
  | 0, p => ⟨0, p⟩
  | grids + 1, p =>
    match x.onGrid? p with
    | some c => ⟨c, p⟩
    | none => x.coarsest grids (p - 1)

/-- The shortest decimal that rounds to `x`. The first grid is coarser than `x` itself, and
seventeen digits are always enough. -/
def shortest (x : Binary64) : Digits :=
  let bits : Int := x.mantissa.log2 + x.exponent
  let d := x.coarsest 24 (bits * 30103 / 100000 + 2)
  trimmed 24 d
where
  /-- Without zeros at the end. -/
  trimmed : Nat → Digits → Digits
    | 0, d => d
    | n + 1, d =>
      if d.significand ≠ 0 ∧ d.significand % 10 = 0 then
        trimmed n ⟨d.significand / 10, d.exponent + 1⟩
      else d

/-- `n` zeros. -/
def zeros (n : Nat) : List Char :=
  List.replicate n '0'

/-- The decimal text of a magnitude. -/
def text (x : Binary64) : List Char :=
  if x.mantissa = 0 then ['0', '.', '0']
  else
    let d := x.shortest
    let digits := Nat.toDigits 10 d.significand
    let scientific : Int := d.exponent + digits.length - 1
    if -5 ≤ scientific ∧ scientific < 16 then
      if 0 ≤ d.exponent then digits ++ zeros d.exponent.toNat ++ ['.', '0']
      else if 0 ≤ scientific then
        digits.take (scientific.toNat + 1) ++ '.' :: digits.drop (scientific.toNat + 1)
      else '0' :: '.' :: zeros (-scientific - 1).toNat ++ digits
    else
      let power := Nat.toDigits 10 scientific.natAbs
      let fraction := if digits.length = 1 then [] else '.' :: digits.drop 1
      digits.take 1 ++ fraction ++ 'e' :: (if scientific < 0 then '-' else '+')
        :: power

end Binary64

end Choreography
