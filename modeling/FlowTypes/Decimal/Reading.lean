import FlowTypes.Decimal.Binary64
import FlowTypes.Text.Numeral

/-!
# Reading doubles

A decimal numeral with an optional point and an optional exponent, read as the nearest double, and
the words for infinity and for what is no number.  The exact value of the numeral is kept until the
one rounding at the end.
-/

namespace FlowTypes

/-- The number `significand · 10 ^ exponent`. -/
structure Decimal where
  significand : Nat
  exponent : Int
  deriving DecidableEq, Repr, Inhabited

namespace Decimal

open Text

/-- The exponent behind the digits: nothing, or the letter `e` and a whole number. -/
def readExponent? : List Char → Option Int
  | [] => some 0
  | c :: cs =>
    if c = 'e' || c = 'E' then
      match cs with
      | '-' :: ds => (readDigits? ds).map fun n => -(n : Int)
      | ds => (readDigits? (dropPlus ds)).map fun n => (n : Int)
    else none

/-- Reads a numeral without a sign.  There is a digit before or behind the point. -/
def read? (cs : List Char) : Option Decimal :=
  let whole := cs.takeWhile Char.isDigit
  let rest := cs.dropWhile Char.isDigit
  let (fraction, rest) := match rest with
    | '.' :: ds => (ds.takeWhile Char.isDigit, ds.dropWhile Char.isDigit)
    | ds => ([], ds)
  match readDigits? (whole ++ fraction), readExponent? rest with
  | some n, some e => some ⟨n, e - fraction.length⟩
  | _, _ => none

/-- The magnitude of the double nearest to a decimal number.  Numbers of more than 310 places
before the point are infinite, and those that start more than 330 places behind it are zero, so
that no power of ten has to be larger than that. -/
def round (d : Decimal) : Nat :=
  let places := (decimal d.significand).length + d.exponent
  if d.significand = 0 ∨ places < -330 then 0
  else if 310 < places then Binary64.infinity
  else if 0 ≤ d.exponent then
    Binary64.roundRatio ((d.significand * Nat.pow 10 d.exponent.toNat) <<< 1074) 1
  else Binary64.roundRatio (d.significand <<< 1074) (Nat.pow 10 (-d.exponent).toNat)

end Decimal

namespace Binary64

/-- A text in lower case, as far as it is ASCII. -/
def lowered (cs : List Char) : List Char :=
  cs.map Char.toLower

/-- Reads a double without its sign, as a magnitude. -/
def readMagnitude? (cs : List Char) : Option Nat :=
  if lowered cs = ['i', 'n', 'f'] ∨ lowered cs = ['i', 'n', 'f', 'i', 'n', 'i', 't', 'y'] then
    some infinity
  else if lowered cs = ['n', 'a', 'n'] then some nan.magnitude
  else (Decimal.read? cs).map Decimal.round

/-- Reads a double, with a sign or without. -/
def read? : List Char → Option Binary64
  | '-' :: cs => (readMagnitude? cs).map (ofMagnitude true)
  | cs => (readMagnitude? (Text.dropPlus cs)).map (ofMagnitude false)

end Binary64

end FlowTypes
