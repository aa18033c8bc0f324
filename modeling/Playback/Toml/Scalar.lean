import Playback.Document
import Playback.Number.Numeral
import Playback.Text.Blank

/-!
# Scalars of TOML

Texts, numbers, dates and times as they are written in configuration files.

* `readText` — **a text between quotes**: basic or literal, on one line or several;
* `scalar?` — the value that a word denotes: a truth value, an integer that fits 64 bits, a float,
  or a date or time.
-/

namespace Playback.Toml

/-- A blank within a line. -/
def isGap (c : Char) : Bool := c == ' ' || c == '\t'

/-- Drops the blanks within a line. -/
def skipGap (cs : List Char) : List Char := cs.dropWhile isGap

/-- A character that may stand in a comment, or in a text on one line. -/
def isPrintable (c : Char) : Bool := c == '\t' || (0x20 ≤ c.toNat && c.toNat != 0x7F)

/-! ## Texts -/

/-- The character that an escape denotes, by its hexadecimal digits. -/
def scalarOfHex? (ds : List Char) : Option Char := do
  let n ← natInBase? 16 ds
  if n.isValidChar then some (Char.ofNat n) else none

/-- Reads so many hexadecimal digits of an escape. -/
def readHex (width : Nat) (cs : List Char) : Option (Char × List Char) :=
  if (cs.take width).length = width then
    (scalarOfHex? (cs.take width)).map fun c => (c, cs.drop width)
  else none

/-- Reads an escape after its backslash. -/
def readEscape : List Char → Option (Char × List Char)
  | 'b' :: cs => some (Char.ofNat 8, cs)
  | 't' :: cs => some ('\t', cs)
  | 'n' :: cs => some ('\n', cs)
  | 'f' :: cs => some (Char.ofNat 12, cs)
  | 'r' :: cs => some ('\r', cs)
  | '"' :: cs => some ('"', cs)
  | '\\' :: cs => some ('\\', cs)
  | 'u' :: cs => readHex 4 cs
  | 'U' :: cs => readHex 8 cs
  | _ => none

/-- Reads a line break. -/
def readBreak : List Char → Option (List Char)
  | '\n' :: cs => some cs
  | '\r' :: '\n' :: cs => some cs
  | _ => none

/-- Drops blanks and line breaks. -/
def skipBreaks : Nat → List Char → List Char
  | 0, cs => cs
  | fuel + 1, cs =>
    match readBreak (skipGap cs) with
    | some rest => skipBreaks fuel rest
    | none => skipGap cs

/-- Reads the rest of a text on one line, up to its closing quote. -/
def readLine (quote : Char) (escapes : Bool) : Nat → List Char → Option (List Char × List Char)
  | 0, _ => none
  | _, [] => none
  | fuel + 1, c :: cs =>
    if c = quote then some ([], cs)
    else if escapes && c = '\\' then do
      let (e, rest) ← readEscape cs
      let (text, rest) ← readLine quote escapes fuel rest
      some (e :: text, rest)
    else if isPrintable c then do
      let (text, rest) ← readLine quote escapes fuel cs
      some (c :: text, rest)
    else none

/-- Reads the rest of a text on several lines. Up to two quotes may stand before the closing three;
a backslash at the end of a line drops the line break and all blanks after it. -/
def readLines (quote : Char) (escapes : Bool) : Nat → List Char → Option (List Char × List Char)
  | 0, _ => none
  | _, [] => none
  | fuel + 1, c :: cs =>
    let quotes := ((c :: cs).takeWhile (· == quote)).length
    if 3 ≤ quotes then
      if quotes ≤ 5 then
        some (List.replicate (quotes - 3) quote, (c :: cs).drop quotes)
      else none
    else if escapes && c = '\\' then
      match readBreak (skipGap cs) with
      | some rest => readLines quote escapes fuel (skipBreaks (rest.length + 1) rest)
      | none => do
        let (e, rest) ← readEscape cs
        let (text, rest) ← readLines quote escapes fuel rest
        some (e :: text, rest)
    else
      match readBreak (c :: cs) with
      | some rest => do
        let (text, rest) ← readLines quote escapes fuel rest
        some ('\n' :: text, rest)
      | none =>
        if isPrintable c then do
          let (text, rest) ← readLines quote escapes fuel cs
          some (c :: text, rest)
        else none

/-- Reads a text on one line: basic with escapes, or literal without. -/
def readKeyText : List Char → Option (List Char × List Char)
  | '"' :: cs => readLine '"' true (cs.length + 1) cs
  | '\'' :: cs => readLine '\'' false (cs.length + 1) cs
  | _ => none

/-- Drops a line break at the beginning of a text on several lines. -/
def afterOpening (cs : List Char) : List Char := (readBreak cs).getD cs

/-- **Reads a text between quotes.** -/
def readText : List Char → Option (List Char × List Char)
  | '"' :: '"' :: '"' :: cs => readLines '"' true (cs.length + 1) (afterOpening cs)
  | '\'' :: '\'' :: '\'' :: cs => readLines '\'' false (cs.length + 1) (afterOpening cs)
  | cs => readKeyText cs

/-! ## Numbers -/

/-- The digits of a number without the underscores between them. -/
def joinedDigits? (isDigitChar : Char → Bool) (cs : List Char) : Option (List Char) :=
  let pieces := Text.splitOnChar '_' cs
  if pieces.all fun p => !p.isEmpty && p.all isDigitChar then some pieces.flatten else none

/-- A sign and what follows it. -/
def splitSign : List Char → Bool × List Char
  | '+' :: cs => (false, cs)
  | '-' :: cs => (true, cs)
  | cs => (false, cs)

/-- An integer that fits 64 bits. -/
def fitting? (n : Int) : Option Int := if fitsWord n then some n else none

/-- The digits of a decimal integer: no zero in front of others. -/
def wholeDigits? (cs : List Char) : Option (List Char) :=
  match joinedDigits? isDigit cs with
  | some ['0'] => some ['0']
  | some ('0' :: _) => none
  | ds => ds

/-- The integer that a word denotes. -/
def integer? : List Char → Option Int
  | '0' :: 'x' :: cs => based? 16 cs
  | '0' :: 'o' :: cs => based? 8 cs
  | '0' :: 'b' :: cs => based? 2 cs
  | cs => do
    let (negative, cs) := splitSign cs
    let n := natOfDigits (← wholeDigits? cs)
    fitting? (if negative then -(n : Int) else n)
where
  /-- The integer of digits in a base. -/
  based? (base : Nat) (cs : List Char) : Option Int := do
    let ds ← joinedDigits? (fun c => (digitIn? base c).isSome) cs
    fitting? (← natInBase? base ds)

/-- The digits of an exponent, with its sign. -/
def exponent? (cs : List Char) : Option (List Char) := do
  let (negative, cs) := splitSign cs
  let ds ← joinedDigits? isDigit cs
  some (if negative then '-' :: ds else ds)

/-- The float that a word denotes. A positive one must not exceed all bounds. -/
def float? (cs : List Char) : Option Binary64 := do
  let (negative, cs) := splitSign cs
  match cs with
  | ['i', 'n', 'f'] => some (Binary64.infinity negative)
  | ['n', 'a', 'n'] => some (Binary64.nan negative)
  | _ =>
    let isMark (c : Char) : Bool := c == 'e' || c == 'E'
    let mantissa := cs.takeWhile fun c => !isMark c
    let whole := mantissa.takeWhile (· != '.')
    let ds ← wholeDigits? whole
    let places ← match mantissa.dropWhile (· != '.') with
      | [] => some []
      | _ :: ps => (joinedDigits? isDigit ps).map ('.' :: ·)
    let power ← match cs.dropWhile fun c => !isMark c with
      | [] => some []
      | _ :: ps => (exponent? ps).map ('e' :: ·)
    if places.isEmpty && power.isEmpty then none
    else
      let x ← Binary64.ofText? ((if negative then ['-'] else []) ++ ds ++ places ++ power)
      if !x.isFinite && !negative then none else some x

/-! ## Dates and times -/

/-- Reads a number of exactly so many digits within bounds. -/
def readField (width low high : Nat) (cs : List Char) : Option (Nat × List Char) :=
  let ds := cs.take width
  let n := natOfDigits ds
  if ds.length = width ∧ ds.all isDigit ∧ low ≤ n ∧ n ≤ high then some (n, cs.drop width)
  else none

/-- Reads a given character. -/
def readMark (c : Char) : List Char → Option (List Char)
  | d :: cs => if d = c then some cs else none
  | [] => none

/-- The days of a month. -/
def monthDays (year month : Nat) : Nat :=
  if month = 2 then
    if year % 4 = 0 ∧ (year % 100 ≠ 0 ∨ year % 400 = 0) then 29 else 28
  else if month = 4 ∨ month = 6 ∨ month = 9 ∨ month = 11 then 30
  else 31

/-- Reads a date. -/
def readDate (cs : List Char) : Option (List Char) := do
  let (year, cs) ← readField 4 0 9999 cs
  let (month, cs) ← readField 2 1 12 (← readMark '-' cs)
  let (_, cs) ← readField 2 1 (monthDays year month) (← readMark '-' cs)
  some cs

/-- Reads a time of day. -/
def readClock (cs : List Char) : Option (List Char) := do
  let (_, cs) ← readField 2 0 23 cs
  let (_, cs) ← readField 2 0 59 (← readMark ':' cs)
  let (_, cs) ← readField 2 0 60 (← readMark ':' cs)
  match cs with
  | '.' :: rest => if rest.takeWhile isDigit = [] then none else some (rest.dropWhile isDigit)
  | _ => some cs

/-- Whether the text is an offset from universal time, or empty. -/
def isOffset : List Char → Bool
  | [] => true
  | ['Z'] => true
  | ['z'] => true
  | c :: cs =>
    (c == '+' || c == '-') && (do
      let (_, cs) ← readField 2 0 23 cs
      let (_, cs) ← readField 2 0 59 (← readMark ':' cs)
      if cs.isEmpty then some () else none).isSome

/-- Whether the text is a time of day with or without an offset. -/
def isClockWithOffset (cs : List Char) : Bool :=
  match readClock cs with
  | some rest => isOffset rest
  | none => false

/-- Whether the text is a date, a time, or both. -/
def isDateTime (cs : List Char) : Bool :=
  match readDate cs with
  | some [] => true
  | some (c :: rest) => (c == 'T' || c == 't' || c == ' ') && isClockWithOffset rest
  | none =>
    match readClock cs with
    | some rest => rest.isEmpty
    | none => false

/-- What dates and times are kept as: a table of one text. -/
def dateTime (cs : List Char) : Document :=
  .map [(.str "$__toml_private_datetime", .str (String.ofList cs))]

/-! ## Words -/

/-- A character of a word. -/
def isWordChar (c : Char) : Bool :=
  c.isAlphanum || c == '_' || c == '-' || c == '+' || c == '.' || c == ':'

/-- **The value that a word denotes.** -/
def scalar? (word : List Char) : Option Document :=
  match word with
  | ['t', 'r', 'u', 'e'] => some (.bool true)
  | ['f', 'a', 'l', 's', 'e'] => some (.bool false)
  | _ =>
    if isDateTime word then some (dateTime word)
    else
      match integer? word with
      | some n => some (.int n)
      | none => (float? word).map .float

/-- Reads a word and what it denotes. A date may go on with a time after one blank. -/
def readScalar (cs : List Char) : Option (Document × List Char) :=
  let word := cs.takeWhile isWordChar
  let rest := cs.dropWhile isWordChar
  let further := rest.tail.takeWhile isWordChar
  if readDate word = some [] ∧ rest.head? = some ' ' ∧ isClockWithOffset further then
    some (dateTime (word ++ ' ' :: further), rest.tail.dropWhile isWordChar)
  else (scalar? word).map fun d => (d, rest)

end Playback.Toml
