import LinkedShapes.Number.Binary64

/-!
# Decimals with a 64-bit significand

A decimal number is held as a 64-bit significand and a power of ten. Digits of the whole part that
the significand has no room for still count as places; the fraction ends where there is no more room.
The number is then the significand times the power of ten in double precision, which rounds twice and
so may miss the nearest number by its last bit.

## Main statements

* `significand_pushWhole_le`, `significand_pushFraction_le`: the significand keeps within 64 bits.
-/

namespace LinkedShapes.Number

/-- The decimal number `significand * 10 ^ exponent`. -/
structure Scaled where
  /-- The digits that are kept. -/
  significand : Nat
  /-- The power of ten. -/
  exponent : Int
  deriving DecidableEq, Inhabited

namespace Scaled

/-- The number without digits. -/
def zero : Scaled := ⟨0, 0⟩

/-- The significand with one more digit at its end. -/
def extended (s : Scaled) (digit : Char) : Nat := 10 * s.significand + digitValue digit

/-- The number with one more digit before the point. Once a digit had no room, all that follow it
are counted only. -/
def pushWhole (s : Scaled) (digit : Char) : Scaled :=
  if s.exponent = 0 ∧ s.extended digit ≤ maxNat64 then ⟨s.extended digit, 0⟩
  else ⟨s.significand, s.exponent + 1⟩

/-- The number with more digits behind the point, up to the first that has no room. -/
def pushFraction (s : Scaled) : List Char → Scaled
  | [] => s
  | digit :: rest =>
    if s.extended digit ≤ maxNat64 then pushFraction ⟨s.extended digit, s.exponent - 1⟩ rest
    else s

/-- The number with a number of digits before and behind the point, and a power of ten. -/
def ofDigits (whole fraction : List Char) (exponent : Int) : Scaled :=
  let digits := (whole.foldl pushWhole zero).pushFraction fraction
  ⟨digits.significand, digits.exponent + exponent⟩

theorem significand_pushWhole_le {s : Scaled} (digit : Char) (h : s.significand ≤ maxNat64) :
    (s.pushWhole digit).significand ≤ maxNat64 := by
  unfold pushWhole
  split
  · next room => exact room.2
  · exact h

theorem significand_pushFraction_le {s : Scaled} (digits : List Char)
    (h : s.significand ≤ maxNat64) : (s.pushFraction digits).significand ≤ maxNat64 := by
  induction digits generalizing s with
  | nil => exact h
  | cons digit rest ih =>
    unfold pushFraction
    split
    · next room => exact ih room
    · exact h

end Scaled

namespace Binary64

/-- The magnitude of a number as a numerator and a denominator. -/
def ratio (x : Binary64) : Nat × Nat :=
  let (up, down) := powerRatio 2 x.exponent
  (x.significand * up, down)

/-- The greatest power of ten that is a finite number. -/
def maxPowerOfTen : Nat := 308

/-- The number nearest to a power of ten as a numerator and a denominator. -/
def powerOfTen (power : Nat) : Nat × Nat :=
  ((ofDecimal? false 1 power).map ratio).getD (1, 1)

/-- The number nearest to the quotient of two positive ratios, or to zero if the first is zero; none
if it is above the greatest one. -/
def ofQuotient? (negative : Bool) (dividend divisor : Nat × Nat) : Option Binary64 :=
  if dividend.1 = 0 then some (zero negative)
  else ofRatio? negative (dividend.1 * divisor.2) (dividend.2 * divisor.1)

/-- The magnitude of a number times a power of ten, with its sign. Powers below the least that can
be divided by at once are divided by in steps. -/
def scale? (x : Binary64) (power : Int) : Option Binary64 :=
  if x.significand = 0 then some x
  else if maxPowerOfTen < power then none
  else if 0 ≤ power then
    let (up, down) := powerOfTen power.toNat
    ofQuotient? x.negative x.ratio (down, up)
  else if _below : power < -maxPowerOfTen then
    (ofQuotient? x.negative x.ratio (powerOfTen maxPowerOfTen)).bind fun quotient =>
      scale? quotient (power + maxPowerOfTen)
  else ofQuotient? x.negative x.ratio (powerOfTen power.natAbs)
termination_by power.natAbs
decreasing_by
  simp only [maxPowerOfTen] at *
  omega

end Binary64

/-- The number in double precision: the number nearest to the significand, times the power of ten;
none if it is above the greatest one. -/
def Scaled.toBinary64? (s : Scaled) (negative : Bool) : Option Binary64 :=
  (Binary64.ofDecimal? negative s.significand 0).bind (·.scale? s.exponent)

end LinkedShapes.Number
