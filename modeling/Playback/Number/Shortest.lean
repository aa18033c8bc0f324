import Playback.Number.Binary64

/-!
# Shortest decimals

The written form of a binary64 number is **the decimal with the fewest digits that reads back to
the same number**; of several such decimals it is the one nearest to the number.

* `Decimal` — digits and a power of ten;
* `Binary64.ReadsBack` — the interval of quotients that round to a number, as a test on decimals;
* `Binary64.shortest` — the shortest decimal of a finite number other than zero.

For each count of digits the two neighbours of the number on that decimal grid are tested; if any
point of a grid reads back, one of the two does.
-/

namespace Playback

/-- **A decimal**: `digits * 10 ^ exponent`. -/
structure Decimal where
  /-- The significant digits, as one natural number. -/
  digits : Nat
  /-- The power of ten that `digits` counts. -/
  exponent : Int
  deriving DecidableEq, Repr, Inhabited

namespace Decimal

/-- A decimal as a quotient of natural numbers. -/
def ratio (d : Decimal) : Nat × Nat :=
  if d.exponent < 0 then (d.digits, Nat.pow 10 d.exponent.natAbs)
  else (d.digits * Nat.pow 10 d.exponent.natAbs, 1)

/-- Removes up to `fuel` trailing zeros from the digits. -/
def trimZeros : Nat → Decimal → Decimal
  | 0, d => d
  | fuel + 1, d =>
    if d.digits ≠ 0 ∧ d.digits % 10 = 0 then trimZeros fuel ⟨d.digits / 10, d.exponent + 1⟩
    else d

end Decimal

namespace Binary64

/-- Four times the magnitude, and four times the ends of the interval that rounds to it, all in
units of `2 ^ (scale - 2)`. The lower gap is half as wide at a power of two. -/
def interval (x : Binary64) : Nat × Nat × Nat :=
  let m := x.mantissa
  let low := if x.fraction = 0 ∧ 1 < x.exponentField then 4 * m - 1 else 4 * m - 2
  (low, 4 * m, 4 * m + 2)

/-- **A decimal reads back** to a number when it lies in the interval that rounds to it; the ends
belong to the interval exactly when the mantissa is even. -/
def readsBack (x : Binary64) (d : Decimal) : Bool :=
  let (num, den) := d.ratio
  let e := x.scale - 2
  let (low, _, high) := x.interval
  let value := if e < 0 then num * Nat.pow 2 e.natAbs else num
  let unit := if e < 0 then den else den * Nat.pow 2 e.natAbs
  if x.mantissa % 2 = 0 then decide (low * unit ≤ value) && decide (value ≤ high * unit)
  else decide (low * unit < value) && decide (value < high * unit)

/-- The greatest exponent `k` with `10 ^ k ≤ num / den`, found from an estimate that is at most
one too low or too high. -/
def decimalExponent (num den : Nat) : Int :=
  let atLeast (k : Int) : Bool :=
    if k < 0 then decide (den ≤ num * Nat.pow 10 k.natAbs)
    else decide (den * Nat.pow 10 k.natAbs ≤ num)
  -- 30103 / 100000 is the decimal logarithm of two, a little too high
  let bits : Int := (num.log2 : Int) - (den.log2 : Int)
  let guess := Int.fdiv (bits * 30103) 100000
  if atLeast (guess + 1) then guess + 1
  else if atLeast guess then guess
  else guess - 1

/-- The neighbours of the magnitude among the multiples of `10 ^ k`, and whether the upper one is
nearer (an exact half takes the even one). -/
def neighbours (x : Binary64) (k : Int) : Nat × Bool :=
  let (num, den) := x.ratio
  let n := if k < 0 then num * Nat.pow 10 k.natAbs else num
  let d := if k < 0 then den else den * Nat.pow 10 k.natAbs
  let q := n / d
  let r := n % d
  (q, decide (d < 2 * r) || (decide (d = 2 * r) && q % 2 == 1))

/-- Tests the grids with `17 - fuel + 1` digits and more. -/
def searchShortest (x : Binary64) (top : Int) : Nat → Nat → Decimal
  -- not reached: with 17 digits some neighbour reads back
  | 0, _ => ⟨x.mantissa, 0⟩
  | fuel + 1, count =>
    let k := top - (count : Int) + 1
    let (q, upperNearer) := x.neighbours k
    let lower : Decimal := ⟨q, k⟩
    let upper : Decimal := ⟨q + 1, k⟩
    let near := if upperNearer then upper else lower
    let far := if upperNearer then lower else upper
    if x.readsBack near && near.digits != 0 then near
    else if x.readsBack far && far.digits != 0 then far
    else searchShortest x top fuel (count + 1)

/-- **The shortest decimal** of a finite number other than zero, without trailing zeros. -/
def shortest (x : Binary64) : Decimal :=
  let (num, den) := x.ratio
  (searchShortest x (decimalExponent num den) 17 1).trimZeros 20

end Binary64

end Playback
