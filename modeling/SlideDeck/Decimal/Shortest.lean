import SlideDeck.Decimal.Binary64

/-!
# Shortest decimals

The shortest decimal that reads back as a given number. A decimal reads back as the number when it
lies in the interval of reals that round to it; its ends belong to it when the mantissa is even. On
the grid of decimals with `n` digits only the two neighbours of the number have to be tested, so the
first `n` with a hit gives the shortest decimal, and of two hits the nearer one is taken.
-/

namespace SlideDeck.Decimal

/-- The interval of reals that round to a number, in the unit `1 / den`. -/
structure Rounding where
  /-- The number itself. -/
  value : Nat
  /-- The lower end. -/
  low : Nat
  /-- The upper end. -/
  high : Nat
  /-- The common denominator. -/
  den : Nat
  /-- True when the ends belong to the interval. -/
  closed : Bool

/-- The rounding interval of a number without its sign. Below a power of two the numbers lie twice
as dense as above it. -/
def Binary64.rounding (x : Binary64) : Rounding :=
  let m := x.mantissa
  let below := if m == Nat.pow 2 52 && x.exponent > Binary64.minExponent then 4 * m - 1
    else 4 * m - 2
  let e := x.exponent - 2
  let up := if 0 ≤ e then Nat.pow 2 e.toNat else 1
  let den := if 0 ≤ e then 1 else Nat.pow 2 (-e).toNat
  { value := 4 * m * up, low := below * up, high := (4 * m + 2) * up, den := den,
    closed := m % 2 == 0 }

/-- True when `digits · num / den'` lies in the interval, `num / den'` being the unit of a grid. -/
def Rounding.holds (r : Rounding) (digits num den : Nat) : Bool :=
  let p := digits * num * r.den
  let low := r.low * den
  let high := r.high * den
  if r.closed then low ≤ p && p ≤ high else low < p && p < high

/-- The number of decimal digits of `value / den` before the point; zero or less for a fraction that
starts with zeros. It is found by a search upwards from below. -/
def pointOf (value den : Nat) : Nat → Int → Int
  | 0, k => k
  | fuel + 1, k =>
    let reached := if 0 ≤ k then value < den * Nat.pow 10 k.toNat
      else value * Nat.pow 10 (-k).toNat < den
    if reached then k else pointOf value den fuel (k + 1)

/-- A decimal `0.d₁d₂… · 10 ^ point`. -/
structure Digits where
  /-- The digits as one number. -/
  digits : Nat
  /-- The number of digits before the decimal point. -/
  point : Int
deriving DecidableEq, Repr

/-- The text of the digits of a number. -/
def digitText (n : Nat) : List Char := Nat.toDigits 10 n

/-- Digits without zeros at their end. -/
def trimZeros : Nat → Nat → Nat
  | 0, n => n
  | fuel + 1, n => if n != 0 && n % 10 == 0 then trimZeros fuel (n / 10) else n

/-- Tests the grids of `n`, `n + 1`, … digits in turn. -/
def searchGrid (r : Rounding) (point : Int) : Nat → Nat → Digits
  | 0, _ => ⟨0, 0⟩
  | fuel + 1, n =>
    let scale : Int := point - n
    let num := if 0 ≤ scale then Nat.pow 10 scale.toNat else 1
    let den := if 0 ≤ scale then 1 else Nat.pow 10 (-scale).toNat
    let d := r.value * den / (num * r.den)
    let finish := fun (d : Nat) =>
      let size : Int := (digitText d).length
      Digits.mk (trimZeros 20 d) (point - n + size)
    let lowHit := r.holds d num den
    let highHit := r.holds (d + 1) num den
    if lowHit && highHit then
      let toLow := r.value * den - d * num * r.den
      let toHigh := (d + 1) * num * r.den - r.value * den
      finish (if toLow < toHigh || (toLow == toHigh && d % 2 == 0) then d else d + 1)
    else if lowHit then finish d
    else if highHit then finish (d + 1)
    else searchGrid r point fuel (n + 1)

/-- The shortest decimal that reads back as the number, without its sign. -/
def Binary64.shortest (x : Binary64) : Digits :=
  let r := x.rounding
  let start : Int := if x.exponent < 0 then -330 else 0
  searchGrid r (pointOf r.value r.den 700 start) 18 1

/-- How a decimal is laid out as text. -/
structure Layout where
  /-- The least number of digits before the point that is still written positionally. -/
  minPoint : Int
  /-- The greatest number of digits before the point that is still written positionally. -/
  maxPoint : Int
  /-- What is written behind a whole number in positional notation. -/
  wholeMark : String
  /-- What stands between the digits and their power of ten. -/
  exponentMark : String
deriving Repr

/-- Zeros as text. -/
def zeros (n : Nat) : String := String.ofList (List.replicate n '0')

/-- Writes a decimal in a layout. -/
def Layout.write (layout : Layout) (d : Digits) : String :=
  let text := digitText d.digits
  let size : Int := text.length
  if layout.minPoint ≤ d.point && d.point ≤ layout.maxPoint then
    if d.point ≤ 0 then "0." ++ zeros (-d.point).toNat ++ String.ofList text
    else if size ≤ d.point then
      String.ofList text ++ zeros (d.point - size).toNat ++ layout.wholeMark
    else
      String.ofList (text.take d.point.toNat) ++ "." ++ String.ofList (text.drop d.point.toNat)
  else
    let mantissa := match text with
      | [] => ""
      | [c] => String.ofList [c]
      | c :: rest => String.ofList (c :: '.' :: rest)
    mantissa ++ layout.exponentMark ++ toString (d.point - 1)

/-- Numbers from `1e-5` up to below `1e16` are written positionally, whole ones with `.0`; the
others as a mantissa and a power of ten. -/
def numberLayout : Layout := ⟨-4, 16, ".0", "e"⟩

/-- The text of a number: its sign and the shortest decimal that reads back. -/
def Binary64.text (x : Binary64) : String :=
  let body := if x.isZero then "0.0" else numberLayout.write x.shortest
  if x.negative then "-" ++ body else body

end SlideDeck.Decimal
