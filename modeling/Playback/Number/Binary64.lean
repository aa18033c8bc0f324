/-!
# Binary64 numbers

Recorded values, waiting times and measured durations are binary64 numbers. A number is kept
as its 64 bits and read in exact arithmetic, so that every operation below is a computation on
natural numbers followed by one rounding:

* `Binary64.mantissa`, `Binary64.scale` — the magnitude of a finite number is
  `mantissa * 2 ^ scale`;
* `Binary64.ofRatio` — **rounding**: the number nearest to a quotient, an exact half going to
  the even neighbour;
* `add`, `mul`, `div` — the exact result, rounded;
* `Binary64.roundToMultiples` — how many units of a given size come nearest to a number.
-/

namespace Playback

/-- **A binary64 number**, given by its 64 bits: a sign, 11 bits of exponent and 52 of fraction. -/
structure Binary64 where
  /-- The sign bit, the exponent field and the fraction, from high to low. -/
  bits : UInt64
  deriving DecidableEq, Repr, Inhabited

namespace Binary64

/-! ## Fields -/

/-- Whether the sign bit is set; it is for `-0` and may be for a number that is not one. -/
def negative (x : Binary64) : Bool := decide (Nat.pow 2 63 ≤ x.bits.toNat)

/-- The bits below the sign, which order the numbers of one sign by magnitude. -/
def magnitudeBits (x : Binary64) : Nat := x.bits.toNat % Nat.pow 2 63

/-- The 11 bits of exponent. -/
def exponentField (x : Binary64) : Nat := x.magnitudeBits / Nat.pow 2 52

/-- The 52 bits of fraction. -/
def fraction (x : Binary64) : Nat := x.magnitudeBits % Nat.pow 2 52

/-- A number is finite unless its exponent field is all ones. -/
def isFinite (x : Binary64) : Bool := decide (x.exponentField < 2047)

/-- Not a number: all ones in the exponent and a fraction. -/
def isNaN (x : Binary64) : Bool := decide (2047 * Nat.pow 2 52 < x.magnitudeBits)

/-- Both zeros. -/
def isZero (x : Binary64) : Bool := decide (x.magnitudeBits = 0)

/-- The integer part of the magnitude's binary form, see `scale`. -/
def mantissa (x : Binary64) : Nat :=
  if x.exponentField = 0 then x.fraction else Nat.pow 2 52 + x.fraction

/-- The power of two that `mantissa` counts. -/
def scale (x : Binary64) : Int :=
  if x.exponentField = 0 then -1074 else (x.exponentField : Int) - 1075

/-- Greater than zero, infinity included. -/
def isPositive (x : Binary64) : Bool := !x.negative && !x.isZero && !x.isNaN

/-! ## Building numbers -/

/-- The number with the given sign and bits of magnitude. -/
def ofMagnitude (negative : Bool) (magnitude : Nat) : Binary64 :=
  ⟨UInt64.ofNat (magnitude % Nat.pow 2 63 + if negative then Nat.pow 2 63 else 0)⟩

/-- The same magnitude with the other sign. -/
def neg (x : Binary64) : Binary64 := ofMagnitude (!x.negative) x.magnitudeBits

/-- Zero with a sign. -/
def zero (negative : Bool) : Binary64 := ofMagnitude negative 0

/-- Infinity with a sign. -/
def infinity (negative : Bool) : Binary64 := ofMagnitude negative (2047 * Nat.pow 2 52)

/-- The quiet number that is not one, with a sign. -/
def nan (negative : Bool) : Binary64 := ofMagnitude negative (2047 * Nat.pow 2 52 + Nat.pow 2 51)

/-- **The nearest integer to a quotient**, an exact half going to the even one. -/
def roundQuotient (num den : Nat) : Nat :=
  let q := num / den
  let r := num % den
  if 2 * r < den then q
  else if den < 2 * r then q + 1
  else if q % 2 = 0 then q else q + 1

/-- `num / den` counted in units of `2 ^ e`, as a quotient of natural numbers. -/
def scaledQuotient (num den : Nat) (e : Int) : Nat × Nat :=
  if e < 0 then (num * Nat.pow 2 e.natAbs, den) else (num, den * Nat.pow 2 e.natAbs)

/-- The unit in which a positive quotient has 53 binary digits, but never finer than the
smallest positive number. -/
def unitOf (num den : Nat) : Int :=
  -- the quotient lies between `2 ^ (guess + 51)` and `2 ^ (guess + 53)`
  let guess : Int := (num.log2 : Int) - (den.log2 : Int) - 52
  let (n, d) := scaledQuotient num den guess
  let e := if n / d < Nat.pow 2 52 then guess - 1 else guess
  max e (-1074)

/-- **Rounding.** The binary64 number nearest to `± num / den`; beyond the largest finite number
by half a unit or more it is infinity. -/
def ofRatio (negative : Bool) (num den : Nat) : Binary64 :=
  if num = 0 ∨ den = 0 then zero negative
  else
    let e := unitOf num den
    let (n, d) := scaledQuotient num den e
    -- the leading bit of the quotient, and a carry out of the rounding, add to the exponent field
    let magnitude := (e + 1074).toNat * Nat.pow 2 52 + roundQuotient n d
    if 2047 * Nat.pow 2 52 ≤ magnitude then infinity negative else ofMagnitude negative magnitude

/-- The nearest number to a natural number. -/
def ofNat (n : Nat) : Binary64 := ofRatio false n 1

/-- The nearest number to an integer. -/
def ofInt (n : Int) : Binary64 := ofRatio (decide (n < 0)) n.natAbs 1

/-- The nearest number to `± digits * 10 ^ exponent`, where `width` bounds the count of decimal
digits of `digits`. Exponents far outside the range of finite numbers are decided at once. -/
def ofDecimal (negative : Bool) (digits width : Nat) (exponent : Int) : Binary64 :=
  if digits = 0 then zero negative
  else if exponent > 400 then infinity negative
  else if exponent + width < -400 then zero negative
  else if exponent < 0 then ofRatio negative digits (Nat.pow 10 exponent.natAbs)
  else ofRatio negative (digits * Nat.pow 10 exponent.natAbs) 1

/-! ## Arithmetic on finite numbers -/

/-- The magnitude as a quotient of natural numbers. -/
def ratio (x : Binary64) : Nat × Nat :=
  if x.scale < 0 then (x.mantissa, Nat.pow 2 x.scale.natAbs)
  else (x.mantissa * Nat.pow 2 x.scale.natAbs, 1)

/-- The sum of two finite numbers, rounded. -/
def add (x y : Binary64) : Binary64 :=
  let (a, b) := x.ratio
  let (c, d) := y.ratio
  let signed (negative : Bool) (n : Nat) : Int := if negative then -(n : Int) else n
  let sum := signed x.negative (a * d) + signed y.negative (c * b)
  if sum = 0 then zero (x.negative && y.negative)
  else ofRatio (decide (sum < 0)) sum.natAbs (b * d)

/-- The product of two finite numbers, rounded. -/
def mul (x y : Binary64) : Binary64 :=
  let (a, b) := x.ratio
  let (c, d) := y.ratio
  ofRatio (x.negative != y.negative) (a * c) (b * d)

/-- The quotient of a finite number by a finite number other than zero, rounded. -/
def div (x y : Binary64) : Binary64 :=
  let (a, b) := x.ratio
  let (c, d) := y.ratio
  ofRatio (x.negative != y.negative) (a * d) (b * c)

/-- How many `1 / unitsPerOne`-th parts come nearest to the magnitude, a half going to the even
count. -/
def roundToMultiples (x : Binary64) (unitsPerOne : Nat) : Nat :=
  let (n, d) := x.ratio
  roundQuotient (n * unitsPerOne) d

end Binary64

end Playback
