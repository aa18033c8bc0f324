import Playback.Number.Numeral

/-!
# Instants

Points of the civil time line, counted from the beginning of 1970 in coordinated universal time.

* `Instant` — **whole seconds and nanoseconds**; a leap second has a thousand million nanoseconds
  and more;
* `Instant.total` — the instant as one number of nanoseconds;
* `Instant.ofMillis?` — the instant a number of milliseconds after the beginning of 1970;
* `Instant.minus`, `Instant.apart` — **the difference of two instants**, and that of the one which is
  read last and the other;
* `Instant.ofText?` — the instant that a date, a time of day and an offset denote.

Instants are representable from the beginning of the year -262143 to the end of the year 262142.
-/

namespace Playback

/-- **A point of time.** -/
structure Instant where
  /-- Whole seconds since the beginning of 1970. -/
  seconds : Int
  /-- Nanoseconds after those. -/
  nanos : Nat
  deriving DecidableEq, Repr, Inhabited

namespace Instant

/-! ## Calendar -/

/-- Whether a year has a twenty-ninth of February. -/
def isLeap (year : Int) : Bool := year % 4 = 0 && (year % 100 != 0 || year % 400 = 0)

/-- The number of days in a month. -/
def daysInMonth (year : Int) (month : Nat) : Nat :=
  match month with
  | 2 => if isLeap year then 29 else 28
  | 4 | 6 | 9 | 11 => 30
  | _ => 31

/-- Days from the first of January of the year 0 to that of a year. -/
def daysBeforeYear (year : Int) : Int :=
  let y := year - 1
  365 * year + y / 4 - y / 100 + y / 400 + 1

/-- Days from the beginning of a year to that of a month. -/
def daysBeforeMonth (year : Int) : Nat → Nat
  | 0 => 0
  | 1 => 0
  | month + 1 => daysBeforeMonth year month + daysInMonth year month

/-- **Days from the beginning of 1970** to a date. -/
def daysOfDate (year : Int) (month day : Nat) : Int :=
  daysBeforeYear year + daysBeforeMonth year month + (day - 1 : Nat) - daysBeforeYear 1970

/-! ## Numbers of nanoseconds -/

/-- Nanoseconds in a second. -/
def perSecond : Nat := 1000000000

/-- The first representable second. -/
def firstSecond : Int := daysOfDate (-262143) 1 1 * 86400

/-- The second after the last representable one. -/
def endSecond : Int := daysOfDate 262143 1 1 * 86400

/-- Whether an instant is representable. -/
def isRepresentable (t : Instant) : Bool :=
  firstSecond ≤ t.seconds && t.seconds < endSecond && t.nanos < 2 * perSecond

/-- An instant as one number of nanoseconds. -/
def total (t : Instant) : Int := t.seconds * perSecond + t.nanos

/-- The instant a number of nanoseconds after the beginning of 1970. -/
def ofTotal (ns : Int) : Instant := ⟨ns / perSecond, (ns % perSecond).toNat⟩

/-- **The instant of a number of milliseconds** since the beginning of 1970, if it is
representable. -/
def ofMillis? (ms : Int) : Option Instant :=
  let t := ofTotal (ms * 1000000)
  if t.isRepresentable then some t else none

/-! ## Differences -/

/-- The second of the day that an instant is read in. -/
def secondOfDay (t : Instant) : Int := t.seconds % 86400

/-- Whether an instant is read in a leap second. -/
def isLeapSecond (t : Instant) : Bool := perSecond ≤ t.nanos

/-- The leap seconds between two times of day: there is one if the smaller of them is read in it. -/
def leapsBetween (a b : Instant) : Int :=
  if b.secondOfDay < a.secondOfDay ∧ b.isLeapSecond then 1
  else if a.secondOfDay < b.secondOfDay ∧ a.isLeapSecond then -1
  else 0

/-- **One instant minus another**, in nanoseconds. Days and times of day are subtracted apart, so a
leap second counts between times of one day and not at the end of it. -/
def minus (a b : Instant) : Int := a.total - b.total + a.leapsBetween b * perSecond

/-- Whether an instant is not read before another. -/
def isNotBefore (a b : Instant) : Bool :=
  b.seconds < a.seconds || (a.seconds = b.seconds && b.nanos ≤ a.nanos)

/-- **The instant that is read last, minus the other**, in nanoseconds. -/
def apart (a b : Instant) : Int := if a.isNotBefore b then a.minus b else b.minus a

/-! ## Texts -/

/-- Reads exactly so many digits. -/
def readDigits (width : Nat) (cs : List Char) : Option (Nat × List Char) :=
  let ds := cs.take width
  if ds.length = width && ds.all isDigit then some (natOfDigits ds, cs.drop width) else none

/-- Reads one given character. -/
def readChar (c : Char) : List Char → Option (List Char)
  | d :: cs => if d = c then some cs else none
  | [] => none

/-- Reads the fraction of a second, in nanoseconds; digits after the ninth are dropped. -/
def readFraction : List Char → Option (Nat × List Char)
  | '.' :: cs =>
    let ds := cs.takeWhile isDigit
    if ds.isEmpty then none
    else
      let kept := ds.take 9
      some (natOfDigits kept * Nat.pow 10 (9 - kept.length), cs.dropWhile isDigit)
  | cs => some (0, cs)

/-- Reads an offset from universal time, in minutes: `Z`, or a sign with hours and minutes. -/
def readOffset : List Char → Option (Int × List Char)
  | [] => none
  | c :: cs =>
    if c = 'Z' ∨ c = 'z' then some (0, cs)
    -- the true minus sign is as good as the hyphen
    else if c = '+' ∨ c = '-' ∨ c = '\u2212' then do
      let (hours, cs) ← readDigits 2 cs
      let cs ← readChar ':' cs
      let (minutes, cs) ← readDigits 2 cs
      if hours < 24 ∧ minutes < 60 then
        let offset : Int := hours * 60 + minutes
        some (if c = '+' then offset else -offset, cs)
      else none
    else none

/-- Reads the letter or the blank between a date and a time of day. -/
def readSeparator : List Char → Option (List Char)
  | 'T' :: cs => some cs
  | 't' :: cs => some cs
  | ' ' :: cs => some cs
  | _ => none

/-- **The instant that a text denotes**: date, time of day and offset. A sixtieth second is the
leap second after the fifty-ninth. -/
def ofText? (text : List Char) : Option Instant := do
  let (year, cs) ← readDigits 4 text
  let (month, cs) ← readDigits 2 (← readChar '-' cs)
  let (day, cs) ← readDigits 2 (← readChar '-' cs)
  let (hour, cs) ← readDigits 2 (← readSeparator cs)
  let (minute, cs) ← readDigits 2 (← readChar ':' cs)
  let (second, cs) ← readDigits 2 (← readChar ':' cs)
  let (fraction, cs) ← readFraction cs
  let (offset, cs) ← readOffset cs
  if cs.isEmpty ∧ 1 ≤ month ∧ month ≤ 12 ∧ 1 ≤ day ∧ day ≤ daysInMonth year month ∧
      hour < 24 ∧ minute < 60 ∧ second ≤ 60 then
    let days := daysOfDate year month day
    -- the sixtieth second is kept as the fifty-ninth and a thousand million nanoseconds
    let clock : Int := hour * 3600 + minute * 60 + (min second 59 : Nat)
    some ⟨days * 86400 + clock - offset * 60, fraction + if second = 60 then perSecond else 0⟩
  else none

end Instant

end Playback
