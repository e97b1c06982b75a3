/-!
# Binary64 words

A double is kept as its 64-bit word.  Its magnitude, the word without the sign bit, orders the
doubles that are not NaN, so rounding only has to find the magnitude: above a row of subnormal
numbers come `2⁵²` numbers for each exponent, and the magnitude counts them.  All arithmetic is
exact, on natural numbers, in units of the least positive double, which is `2⁻¹⁰⁷⁴`.

## Main results

A magnitude that stands for a number is rebuilt from its significand and scale
(`magnitude_of_parts`), and rounding takes the exact value of such a number back to its magnitude
(`roundRatio_units`).
-/

namespace FlowTypes

/-- A double, as the word that stores it. -/
structure Binary64 where
  bits : UInt64
  deriving DecidableEq, Repr, Inhabited

namespace Binary64

/-- How many magnitudes there are for each exponent. -/
def rowSize : Nat := 1 <<< 52

/-- The weight of the sign bit. -/
def signWeight : Nat := 1 <<< 63

/-- The magnitude of infinity; above it come the words that are not numbers. -/
def infinity : Nat := 2047 * rowSize

/-- The word for a sign and a magnitude. -/
def ofMagnitude (negative : Bool) (magnitude : Nat) : Binary64 :=
  ⟨UInt64.ofNat (if negative then signWeight + magnitude else magnitude)⟩

/-- The word that stands for no number. -/
def nan : Binary64 := ofMagnitude false (infinity + rowSize / 2)

def isNegative (x : Binary64) : Bool :=
  decide (signWeight ≤ x.bits.toNat)

def magnitude (x : Binary64) : Nat :=
  x.bits.toNat % signWeight

def isNaN (x : Binary64) : Bool :=
  decide (infinity < x.magnitude)

def isInfinite (x : Binary64) : Bool :=
  x.magnitude == infinity

/-! ## Significand and scale -/

/-- The power of two that the significand of a magnitude is multiplied by, in units of the least
positive double. -/
def scale (magnitude : Nat) : Nat :=
  magnitude / rowSize - 1

/-- The significand of a magnitude: the fraction, with the leading bit that is not stored unless
the number is subnormal. -/
def significand (magnitude : Nat) : Nat :=
  if magnitude / rowSize = 0 then magnitude % rowSize else rowSize + magnitude % rowSize

/-- The exact value of a magnitude, in units of the least positive double. -/
def units (magnitude : Nat) : Nat :=
  significand magnitude <<< scale magnitude

theorem rowSize_pos : 0 < rowSize := by decide

theorem magnitude_of_parts (magnitude : Nat) :
    scale magnitude * rowSize + significand magnitude = magnitude := by
  have hdiv := Nat.div_add_mod magnitude rowSize
  unfold scale significand
  split
  · next h => rw [h] at hdiv ⊢; omega
  · next h =>
    obtain ⟨q, hq⟩ : ∃ q, magnitude / rowSize = q + 1 := ⟨_, (Nat.succ_pred h).symm⟩
    rw [hq, Nat.mul_comm, Nat.add_mul] at hdiv
    rw [hq, Nat.add_sub_cancel]
    omega

theorem significand_lt (magnitude : Nat) : significand magnitude < 2 * rowSize := by
  have := Nat.mod_lt magnitude rowSize_pos
  unfold significand
  split <;> omega

/-! ## Rounding -/

/-- A quotient rounded to the nearest whole number, a half to the even neighbour. -/
def roundHalfEven (num den : Nat) : Nat :=
  let q := num / den
  let r := num % den
  if den < 2 * r || (den == 2 * r && q % 2 == 1) then q + 1 else q

/-- A whole quotient is not changed by rounding. -/
theorem roundHalfEven_mul (n : Nat) {den : Nat} (h : 0 < den) : roundHalfEven (n * den) den = n := by
  simp [roundHalfEven, Nat.mul_div_cancel _ h]
  omega

/-- The magnitude nearest to `num / den` units, a half to the even one.  The scale is the least
one that leaves at most 53 bits before the point; a significand that rounds up to `2⁵³` carries
into the scale, as the next magnitude should. -/
def roundRatio (num den : Nat) : Nat :=
  let e := Nat.log2 (num / den) - 52
  min (e * rowSize + roundHalfEven num (den <<< e)) infinity

/-- The exponent that rounding chooses for the exact value of a magnitude is its scale. -/
theorem log2_units (magnitude : Nat) : Nat.log2 (units magnitude) - 52 = scale magnitude := by
  have hlt := significand_lt magnitude
  rw [units, Nat.shiftLeft_eq]
  by_cases h : magnitude / rowSize = 0
  · rw [scale, h, Nat.zero_sub, Nat.pow_zero, Nat.mul_one]
    by_cases h0 : significand magnitude = 0
    · rw [h0, Nat.log2_zero]
    · have := (Nat.log2_lt (k := 53) h0).2 hlt
      omega
  · have hle : rowSize ≤ significand magnitude := by
      rw [significand, if_neg h]
      exact Nat.le_add_right _ _
    have hpos : 0 < 2 ^ scale magnitude := Nat.pow_pos (by decide)
    have h0 : significand magnitude * 2 ^ scale magnitude ≠ 0 :=
      Nat.ne_of_gt (Nat.mul_pos (Nat.lt_of_lt_of_le rowSize_pos hle) hpos)
    have hupper : Nat.log2 (significand magnitude * 2 ^ scale magnitude) < 53 + scale magnitude := by
      rw [Nat.log2_lt h0, Nat.pow_add]
      exact (Nat.mul_lt_mul_right hpos).2 hlt
    have hlower : 52 + scale magnitude ≤ Nat.log2 (significand magnitude * 2 ^ scale magnitude) := by
      rw [Nat.le_log2 h0, Nat.pow_add]
      exact Nat.mul_le_mul_right _ hle
    omega

/-- The exact value of a finite magnitude rounds to this magnitude. -/
theorem roundRatio_units {magnitude den : Nat} (hden : 0 < den) (hfin : magnitude < infinity) :
    roundRatio (units magnitude * den) den = magnitude := by
  have hsplit : units magnitude * den = significand magnitude * (den <<< scale magnitude) := by
    rw [units, Nat.shiftLeft_eq, Nat.shiftLeft_eq, Nat.mul_assoc, Nat.mul_comm den]
  have hstep : 0 < den <<< scale magnitude := by
    rw [Nat.shiftLeft_eq]
    exact Nat.mul_pos hden (Nat.pow_pos (by decide))
  simp only [roundRatio, Nat.mul_div_cancel _ hden, log2_units]
  rw [hsplit, roundHalfEven_mul _ hstep, magnitude_of_parts]
  exact Nat.min_eq_left (Nat.le_of_lt hfin)

end Binary64

end FlowTypes
