import GradleMigration.Data.Datum

/-
  Decimal numerals as real numbers of double precision.

  Key definitions include:
    * `Decimal`
    * `Decimal.nearest`
    * `Decimal.toReal`

  A decimal is rounded to the nearest number with a mantissa
  of 53 bits, a tie to the even one; only then is it decided
  whether it is whole.
-/

------------------------------------------------------------
-- Rounding
------------------------------------------------------------

namespace GradleMigration

/- A numeral: sign, digits as one number, and power of ten. -/
structure Decimal where
  negative : Bool
  digits : Nat
  exponent : Int
deriving DecidableEq, Repr

namespace Decimal

/- The quotient rounded to the nearest, a tie to the even. -/
def roundedQuotient
    (n d : Nat) : Nat :=
  let q := n / d
  let r := n % d
  if 2 * r < d then q
  else if d < 2 * r then q + 1
  else if q % 2 = 0 then q
  else q + 1

/- A power of two. -/
def twoTo
    (n : Nat) : Nat :=
  Nat.pow 2 n

/- Mantissa bits of a double. -/
def precision : Nat :=
  53

/- The least power of two in a double. -/
def leastPower : Int :=
  -1074

/- The quotient `n / d` in units of a power of two. -/
def scaled
    (n d : Nat)
    (power : Int) : Nat :=
  if power < 0 then
    roundedQuotient (n * twoTo power.natAbs) d
  else
    roundedQuotient n (d * twoTo power.natAbs)

/-
  The mantissa and the power of two of the double nearest to
  the positive quotient `n / d`.
-/
def nearest
    (n d : Nat) : Nat × Int :=
  let guess := (n.log2 : Int) - d.log2 - precision
  let first := max guess leastPower
  if scaled n d first < twoTo precision then
    (scaled n d first, first)
  else if scaled n d (first + 1) < twoTo precision then
    (scaled n d (first + 1), first + 1)
  else
    (scaled n d (first + 2), first + 2)

end Decimal

end GradleMigration

------------------------------------------------------------
-- Reals
------------------------------------------------------------

namespace GradleMigration

namespace Decimal

/- A whole value with the sign of the numeral. -/
def signed
    (decimal : Decimal)
    (n : Nat) : RealValue :=
  .whole (if decimal.negative then -(n : Int) else n)

/- The real number for a mantissa and a power of two. -/
def ofBinary
    (decimal : Decimal)
    (mantissa : Nat)
    (power : Int) : RealValue :=
  if 0 ≤ power then
    if 971 < power then
      .infinite
    else
      decimal.signed (mantissa * twoTo power.natAbs)
  else if mantissa % twoTo power.natAbs = 0 then
    decimal.signed (mantissa / twoTo power.natAbs)
  else
    .fraction

/-
  The real number of a numeral.  Numerals far beyond the range
  of doubles are infinite or zero.
-/
def toReal
    (decimal : Decimal) : RealValue :=
  if decimal.digits = 0 then
    decimal.signed 0
  else
    let size :=
      ((Nat.toDigits 10 decimal.digits).length : Int) +
        decimal.exponent
    if 400 < size then
      .infinite
    else if size < -400 then
      decimal.signed 0
    else
      let (mantissa, power) :=
        if decimal.exponent < 0 then
          nearest decimal.digits
            (Nat.pow 10 decimal.exponent.natAbs)
        else
          nearest
            (decimal.digits *
              Nat.pow 10 decimal.exponent.natAbs) 1
      decimal.ofBinary mantissa power

end Decimal

end GradleMigration
