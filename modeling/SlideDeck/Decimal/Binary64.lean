/-!
# Binary floating point numbers

The finite numbers of the 64-bit binary format as exact values: a sign, a mantissa and a power of
two. A decimal is rounded to the nearest of them, a tie going to the even mantissa.
-/

namespace SlideDeck.Decimal

/-- A finite number `± mantissa · 2 ^ exponent` of the 64-bit format. The mantissa has exactly 53
bits, or the exponent is the least one. -/
structure Binary64 where
  /-- The sign; zero has one too. -/
  negative : Bool
  /-- The mantissa, less than `2 ^ 53`. -/
  mantissa : Nat
  /-- The exponent of two, at least `-1074`. -/
  exponent : Int
deriving DecidableEq, Repr, Inhabited

namespace Binary64

/-- The least exponent of two. -/
def minExponent : Int := -1074

/-- The greatest exponent of two. -/
def maxExponent : Int := 971

/-- The number with the other sign. -/
def neg (x : Binary64) : Binary64 := { x with negative := !x.negative }

/-- True of the two zeros. -/
def isZero (x : Binary64) : Bool := x.mantissa == 0

/-- Equality of the numbers: the two zeros are equal. -/
def sameNumber (x y : Binary64) : Bool := x == y || (x.isZero && y.isZero)

/-- The quotient rounded to the nearest integer, a tie going to the even one. -/
def roundQuotient (num den : Nat) : Nat :=
  let q := num / den
  let r := num % den
  if 2 * r < den then q
  else if 2 * r > den then q + 1
  else if q % 2 == 0 then q else q + 1

/-- `num / den` as a quotient of units of `2 ^ e`. -/
def inUnits (num den : Nat) (e : Int) : Nat × Nat :=
  if 0 ≤ e then (num, den * Nat.pow 2 e.toNat) else (num * Nat.pow 2 (-e).toNat, den)

/-- The number nearest to the positive quotient `num / den`, or nothing beyond the largest one. -/
def ofQuotient? (num den : Nat) : Option Binary64 :=
  let guess : Int := (Nat.log2 num : Int) - Nat.log2 den - 52
  let e := if (inUnits num den guess).1 < (inUnits num den guess).2 * Nat.pow 2 52 then guess - 1
    else guess
  let e := max e minExponent
  let (n, d) := inUnits num den e
  let m := roundQuotient n d
  let (m, e) := if m == Nat.pow 2 53 then (Nat.pow 2 52, e + 1) else (m, e)
  if e > maxExponent then none else some ⟨false, m, e⟩

/-- The number nearest to `digits · 10 ^ scale`, or nothing beyond the largest one. -/
def ofDecimal? (digits : Nat) (scale : Int) : Option Binary64 :=
  let size : Int := (Nat.log2 digits : Int) / 4 + scale
  if digits == 0 then some ⟨false, 0, minExponent⟩
  else if size > 400 then none
  else if (Nat.log2 digits : Int) / 3 + 1 + scale < -400 then some ⟨false, 0, minExponent⟩
  else if 0 ≤ scale then ofQuotient? (digits * Nat.pow 10 scale.toNat) 1
  else ofQuotient? digits (Nat.pow 10 (-scale).toNat)

end Binary64

end SlideDeck.Decimal
