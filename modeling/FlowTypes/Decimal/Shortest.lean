import FlowTypes.Decimal.Reading

/-!
# The shortest decimal of a double

The fewest decimal digits that are read back as the double, and of the numbers with so few digits
the one nearest to it.

The reals that round to a double form an interval around it, half way to its two neighbours; the
ends belong to it when the significand is even.  On the grid of the multiples of a power of ten, if
any point lies in the interval then so does one of the two grid points next to the double, so only
these two are tried, on finer and finer grids.
-/

namespace FlowTypes

namespace Binary64

/-- The interval of the reals that round to a magnitude, in quarters of the unit: its lower end,
the number itself and its upper end.  Below a power of two the next double is only half as far. -/
def interval (magnitude : Nat) : Nat × Nat × Nat :=
  let m := significand magnitude
  let e := scale magnitude
  let below := if m = rowSize ∧ 0 < e then 1 else 2
  ((4 * m - below) <<< e, (4 * m) <<< e, (4 * m + 2) <<< e)

/-- How many quarters of the unit make one. -/
def quarters : Nat := 1 <<< 1076

/-- The number of places between the point and the first digit that is not zero, counted from the
point to the left: `1` for the numbers from one up to ten, `0` for those from a tenth up to one. -/
def leadingPlace (value : Nat) : Int :=
  if quarters ≤ value then (Text.decimal (value / quarters)).length
  else 1 - ((Text.decimal ((quarters - 1) / value)).length : Int)

/-- The nearest multiple of `10 ^ place` that rounds to a magnitude, counted in such multiples; of
two that are equally near, the larger one. -/
def onGrid? (magnitude : Nat) (place : Int) : Option Nat :=
  let (low, value, high) := interval magnitude
  let up := Nat.pow 10 (-place).toNat
  let unit := quarters * Nat.pow 10 place.toNat
  let closed := significand magnitude % 2 == 0
  let d := value * up / unit
  let lowerIn := decide (low * up < d * unit) || (closed && low * up == d * unit)
  let upperIn := decide ((d + 1) * unit < high * up) || (closed && (d + 1) * unit == high * up)
  match lowerIn, upperIn with
  | false, false => none
  | true, false => some d
  | false, true => some (d + 1)
  | true, true => if 2 * (value * up - d * unit) < unit then some d else some (d + 1)

/-- A decimal without zeros at the end of its significand, which has at most `fuel` of them. -/
def dropZeros : Nat → Decimal → Decimal
  | 0, d => d
  | fuel + 1, d =>
    if d.significand % 10 = 0 then dropZeros fuel ⟨d.significand / 10, d.exponent + 1⟩ else d

/-- The shortest decimal of a finite magnitude other than zero.  Seventeen digits tell any two
doubles apart. -/
def shortest (magnitude : Nat) : Decimal :=
  let place := leadingPlace (interval magnitude).2.1
  let found := (List.range 17).findSome? fun (n : Nat) =>
    (onGrid? magnitude (place - 1 - n)).map fun d => Decimal.mk d (place - 1 - n)
  dropZeros 17 (found.getD ⟨0, 0⟩)

end Binary64

/-! ## Text -/

/-- Which numbers are written with all their places: those whose first digit stands at most
`highest` places before the point and not below the place `lowest`.  The others are written with
one digit before the point and an exponent. -/
structure Decimal.Layout where
  lowest : Int
  highest : Int

namespace Decimal

open Text

/-- Digits with a point `place` digits from the left; there is a digit on both sides of it. -/
def positional (digits : List Char) (place : Int) : List Char :=
  if place ≤ 0 then ['0', '.'] ++ List.replicate (-place).toNat '0' ++ digits
  else
    let n := place.toNat
    if digits.length ≤ n then digits ++ List.replicate (n - digits.length) '0' ++ ['.', '0']
    else digits.take n ++ '.' :: digits.drop n

/-- A whole number with a minus sign if it is negative. -/
def signed (n : Int) : List Char :=
  if n < 0 then '-' :: decimal n.natAbs else decimal n.natAbs

/-- One digit before the point, the others behind it, and the exponent. -/
def scientific (digits : List Char) (place : Int) : List Char :=
  let mantissa := match digits with
    | d :: ds => if ds.isEmpty then [d] else d :: '.' :: ds
    | [] => []
  mantissa ++ 'e' :: signed (place - 1)

/-- A decimal other than zero, laid out. -/
def text (layout : Layout) (d : Decimal) : List Char :=
  let digits := decimal d.significand
  let place := digits.length + d.exponent
  if layout.lowest ≤ place ∧ place ≤ layout.highest then positional digits place
  else scientific digits place

end Decimal

/-- The text of a double. -/
def Binary64.text (layout : Decimal.Layout) (x : Binary64) : List Char :=
  if x.isNaN then ['N', 'a', 'N']
  else
    let unsigned :=
      if x.isInfinite then ['i', 'n', 'f']
      else if x.magnitude = 0 then ['0', '.', '0']
      else (shortest x.magnitude).text layout
    if x.isNegative then '-' :: unsigned else unsigned

end FlowTypes
