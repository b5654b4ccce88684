/-!
# Double-precision magnitudes

A `Binary64` is a non-negative double: a whole mantissa below `2 ^ 53` times a power of two.
`Binary64.round?` rounds an exact quotient of natural numbers to the nearest one, a tie going to
the even mantissa; products and quotients are the exact results, rounded.

All arithmetic is exact on natural numbers; nothing relies on the machine's own floats.
-/

namespace Choreography

/-- The magnitude `mantissa * 2 ^ exponent`. -/
structure Binary64 where
  mantissa : Nat
  exponent : Int
  deriving DecidableEq, Repr

namespace Binary64

/-- The least full mantissa. Only magnitudes of the least exponent have a smaller one. -/
def leastFull : Nat := Nat.pow 2 52

/-- The least exponent: that of the smallest magnitude above zero. -/
def minExponent : Int := -1074

/-- The greatest exponent of a full mantissa. -/
def maxExponent : Int := 971

/-- Nothing. -/
def zero : Binary64 := ⟨0, minExponent⟩

/-- `n * 2 ^ e` and `2 ^ (-e)` as a quotient: the numerator for `e ≥ 0`, the denominator else. -/
def scaled (n : Nat) (e : Int) : Nat × Nat :=
  (n * Nat.pow 2 e.toNat, Nat.pow 2 (-e).toNat)

/-- The nearest whole number to a quotient, a tie going to the even one. -/
def roundDiv (num den : Nat) : Nat :=
  let q := num / den
  let r := 2 * (num % den)
  if r > den || (r = den && q % 2 = 1) then q + 1 else q

/-- The magnitude nearest to `num / den`; none if that is too large. -/
def round? (num den : Nat) : Option Binary64 :=
  if num = 0 then some zero
  else
    let guess : Int := num.log2 - den.log2 - 52
    let (n, d) := scaled num (-guess)
    let e := if n < leastFull * (den * d) then guess - 1 else guess
    let e := max e minExponent
    let (n, d) := scaled num (-e)
    let m := roundDiv n (den * d)
    let (m, e) := if m = 2 * leastFull then (leastFull, e + 1) else (m, e)
    if e > maxExponent then none else some ⟨m, e⟩

/-- The product of two magnitudes, rounded. -/
def mul? (a b : Binary64) : Option Binary64 :=
  let (n, d) := scaled (a.mantissa * b.mantissa) (a.exponent + b.exponent)
  round? n d

/-- The quotient of two magnitudes, rounded. The divisor is not zero. -/
def div? (a b : Binary64) : Option Binary64 :=
  let (n, d) := scaled a.mantissa (a.exponent - b.exponent)
  round? n (d * b.mantissa)

end Binary64

end Choreography
