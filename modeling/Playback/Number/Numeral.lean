import Playback.Number.Shortest

/-!
# Numerals

How numbers stand in text:

* `digitsOf` — a natural number in decimal digits;
* `Binary64.plain` — positional notation without an exponent, as in messages;
* `Binary64.scientific` — the notation of data files, with an exponent outside a fixed range;
* `Binary64.fixed` — a fixed count of places, an exact half going to the even digit;
* `Binary64.ofText?` — reading a numeral, rounding to the nearest number;
* `natOfText?`, `intOfText?` — reading whole numbers with an optional sign.
-/

namespace Playback

/-! ## Digits -/

/-- The decimal digits of a natural number, without leading zeros. -/
def digitsOf (n : Nat) : List Char := Nat.toDigits 10 n

/-- Zeros in front of a list of digits up to a width. -/
def padZeros (width : Nat) (ds : List Char) : List Char :=
  List.replicate (width - ds.length) '0' ++ ds

/-- An ASCII decimal digit. -/
def isDigit (c : Char) : Bool := decide ('0' ≤ c) && decide (c ≤ '9')

/-- The value of an ASCII digit. -/
def digitValue (c : Char) : Nat := c.toNat - 48

/-- The number that a list of ASCII digits denotes. -/
def natOfDigits (ds : List Char) : Nat := ds.foldl (fun n c => n * 10 + digitValue c) 0

/-- The value of a digit in a base of at most sixteen. -/
def digitIn? (base : Nat) (c : Char) : Option Nat :=
  let v :=
    if isDigit c then c.toNat - 48
    else if 'a' ≤ c ∧ c ≤ 'f' then c.toNat - 87
    else if 'A' ≤ c ∧ c ≤ 'F' then c.toNat - 55
    else base
  if v < base then some v else none

/-- The number that a nonempty list of digits denotes in a base, `none` if some character is no
digit of it. -/
def natInBase? (base : Nat) (ds : List Char) : Option Nat :=
  if ds.isEmpty then none
  else ds.foldl (fun n c => do return (← n) * base + (← digitIn? base c)) (some 0)

/-- A whole number with an optional plus sign. -/
def natOfText? (text : List Char) : Option Nat :=
  match text with
  | '+' :: ds => natInBase? 10 ds
  | ds => natInBase? 10 ds

/-- A whole number with an optional sign. -/
def intOfText? (text : List Char) : Option Int :=
  match text with
  | '-' :: ds => (natInBase? 10 ds).map fun n => -(n : Int)
  | ds => (natOfText? ds).map Int.ofNat

/-- Whether an integer fits a signed word of 64 bits. -/
def fitsWord (n : Int) : Bool :=
  decide (-9223372036854775808 ≤ n) && decide (n < 9223372036854775808)

namespace Decimal

/-- Positional notation, without a point when the decimal is whole. -/
def plain (d : Decimal) : List Char :=
  let ds := digitsOf d.digits
  if 0 ≤ d.exponent then ds ++ List.replicate d.exponent.natAbs '0'
  else
    let places := d.exponent.natAbs
    let padded := padZeros (places + 1) ds
    let cut := padded.length - places
    padded.take cut ++ '.' :: padded.drop cut

/-- One digit, a point, the other digits if there are any, and the exponent with its sign. -/
def scientific (d : Decimal) : List Char :=
  let ds := digitsOf d.digits
  let e := d.exponent + (ds.length : Int) - 1
  let tail := ds.drop 1
  let power := (if e < 0 then '-' else '+') :: digitsOf e.natAbs
  ds.take 1 ++ (if tail.isEmpty then [] else '.' :: tail) ++ 'e' :: power

end Decimal

namespace Binary64

/-- The sign in front of a magnitude. -/
def signed (x : Binary64) (magnitude : List Char) : String :=
  String.ofList (if x.negative then '-' :: magnitude else magnitude)

/-- What stands for a number that is not finite. -/
def special (x : Binary64) : String :=
  if x.isNaN then "NaN" else if x.negative then "-inf" else "inf"

/-- **Positional notation**, as in messages: the shortest decimal without an exponent, and no
point for a whole number. -/
def plain (x : Binary64) : String :=
  if !x.isFinite then x.special
  else if x.isZero then x.signed ['0']
  else x.signed x.shortest.plain

/-- **The notation of data files**: the shortest decimal, always with a point or an exponent;
positional while the first digit stands at `10 ^ -5` to `10 ^ 15`. -/
def scientific (x : Binary64) : String :=
  if !x.isFinite then x.special
  else if x.isZero then x.signed ['0', '.', '0']
  else
    let d := x.shortest
    let top := d.exponent + ((digitsOf d.digits).length : Int) - 1
    if -5 ≤ top ∧ top ≤ 15 then
      x.signed (if 0 ≤ d.exponent then d.plain ++ ['.', '0'] else d.plain)
    else x.signed d.scientific

/-- **A fixed count of places**, an exact half going to the even digit. -/
def fixed (x : Binary64) (places : Nat) : String :=
  if !x.isFinite then x.special
  else
    let ds := padZeros (places + 1) (digitsOf (x.roundToMultiples (Nat.pow 10 places)))
    let cut := ds.length - places
    x.signed (ds.take cut ++ if places = 0 then [] else '.' :: ds.drop cut)

/-! ## Reading -/

/-- The exponent after the mark, at most as large as can matter; the text must end with it. -/
def exponentOfText? (text : List Char) : Option Int :=
  let clamp (n : Nat) : Int := min n 1000000000
  match text with
  | '-' :: ds => (natInBase? 10 ds).map fun n => -clamp n
  | '+' :: ds => (natInBase? 10 ds).map clamp
  | ds => (natInBase? 10 ds).map clamp

/-- A numeral without a sign: digits with at most one point among them, and an exponent. -/
def magnitudeOfText? (negative : Bool) (text : List Char) : Option Binary64 :=
  let whole := text.takeWhile isDigit
  let rest := text.dropWhile isDigit
  let (places, rest) := match rest with
    | '.' :: r => (r.takeWhile isDigit, r.dropWhile isDigit)
    | r => ([], r)
  let digits := whole ++ places
  if digits.isEmpty then none
  else
    let significant := digits.dropWhile (· == '0')
    let value (e : Int) : Binary64 :=
      ofDecimal negative (natOfDigits significant) significant.length (e - places.length)
    match rest with
    | [] => some (value 0)
    | c :: r => if c == 'e' || c == 'E' then (exponentOfText? r).map value else none

/-- The names of the numbers that have no digits, in any letter case. -/
def namedOfText? (negative : Bool) (text : List Char) : Option Binary64 :=
  let name := String.ofList (text.map Char.toLower)
  if name = "inf" ∨ name = "infinity" then some (infinity negative)
  else if name = "nan" then some (nan negative)
  else none

/-- **Reading a numeral**: an optional sign, then digits with a point and an exponent, or one of
the names of infinity and of what is no number. -/
def ofText? (text : List Char) : Option Binary64 :=
  let (negative, body) := match text with
    | '-' :: r => (true, r)
    | '+' :: r => (false, r)
    | r => (false, r)
  match namedOfText? negative body with
  | some x => some x
  | none => magnitudeOfText? negative body

end Binary64

end Playback
