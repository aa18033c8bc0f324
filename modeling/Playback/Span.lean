import Playback.Number.Numeral

/-!
# Spans of time

Durations and readings of the run's clock are natural numbers of nanoseconds.

* `Span.milliseconds` — the text of a duration in progress events: milliseconds with two places,
  computed in binary64 arithmetic;
* `Span.debug` — the text of a duration in messages: the largest unit of which there is at least
  one, and the fraction without trailing zeros;
* `Span.ofSeconds?` — the duration of a binary64 number of seconds.
-/

namespace Playback.Span

/-- Nanoseconds in a millisecond. -/
def perMilli : Nat := 1000000

/-- Nanoseconds in a second. -/
def perSecond : Nat := 1000000000

/-- A duration of whole milliseconds. -/
def ofMillis (ms : Nat) : Nat := ms * perMilli

/-- A duration in seconds, rounded: the whole seconds, plus the rest divided by its unit. -/
def seconds (ns : Nat) : Binary64 :=
  (Binary64.ofNat (ns / perSecond)).add
    ((Binary64.ofNat (ns % perSecond)).div (Binary64.ofNat perSecond))

/-- A duration in milliseconds, rounded: its seconds times a thousand. -/
def millis (ns : Nat) : Binary64 := (seconds ns).mul (Binary64.ofNat 1000)

/-- **A duration in a progress event**: milliseconds with two places. -/
def milliseconds (ns : Nat) : String := (millis ns).fixed 2

/-- A quotient with up to `places` digits after the point and no trailing zeros. -/
def fractional (whole rest places : Nat) : List Char :=
  let ds := (padZeros places (digitsOf rest)).reverse.dropWhile (· == '0')
  digitsOf whole ++ if rest = 0 then [] else '.' :: ds.reverse

/-- **A duration in a message**: in seconds, milliseconds, microseconds or nanoseconds. -/
def debug (ns : Nat) : String :=
  if perSecond ≤ ns then String.ofList (fractional (ns / perSecond) (ns % perSecond) 9) ++ "s"
  else if perMilli ≤ ns then String.ofList (fractional (ns / perMilli) (ns % perMilli) 6) ++ "ms"
  else if 1000 ≤ ns then String.ofList (fractional (ns / 1000) (ns % 1000) 3) ++ "µs"
  else String.ofList (digitsOf ns) ++ "ns"

/-- Why a number of seconds is no duration. -/
inductive RangeError where
  | negative
  | tooBig
  deriving DecidableEq, Repr

/-- What is said of a number of seconds that is no duration. -/
def RangeError.message : RangeError → String
  | negative => "cannot convert float seconds to Duration: value is negative"
  | tooBig => "cannot convert float seconds to Duration: value is either too big or NaN"

/-- **The duration of a number of seconds**, to the nearest nanosecond; whole seconds must fit 64
bits. -/
def ofSeconds? (x : Binary64) : Except RangeError Nat :=
  if x.negative && !x.isZero then .error .negative
  else if !x.isFinite then .error .tooBig
  else
    let ns := x.roundToMultiples perSecond
    if ns < Nat.pow 2 64 * perSecond then .ok ns else .error .tooBig

end Playback.Span
