import Playback.Document

/-!
# Reading JSON text

`Json.read` reads a text into a document, left to right, and stops at the first character that
cannot stand where it stands; what follows is `damaged`. Well-formed text that denotes no value is
`unreadable`: numbers beyond all bounds, escapes of half a surrogate pair, and arrays and objects
nested more than `Json.maxDepth` levels deep.

* `Json.numberOf` — the value of a numeral. Whole numbers that fit 64 bits are integers. Of other
  numerals the leading digits that fit 64 bits are kept and scaled by powers of ten, each step
  rounded;
* `Json.readString` — a text in quotes;
* `Json.read` — a whole text, with the characters that are left over.
-/

namespace Playback.Json

/-- The characters that may stand between the parts of a text. -/
def isSpace (c : Char) : Bool := c == ' ' || c == '\n' || c == '\t' || c == '\r'

/-- The text after leading blanks. -/
def skipSpace (cs : List Char) : List Char := cs.dropWhile isSpace

/-- Arrays and objects may be nested this deep. -/
def maxDepth : Nat := 127

/-! ## Numbers -/

/-- Appends digits to a number while it fits 64 bits; the second part is what did not fit. -/
def absorbDigits (n : Nat) : List Char → Nat × List Char
  | [] => (n, [])
  | d :: ds =>
    let m := n * 10 + digitValue d
    if m < Nat.pow 2 64 then absorbDigits m ds else (n, d :: ds)

/-- A power of ten, rounded. -/
def powerOfTen (k : Nat) : Binary64 := Binary64.ofNat (Nat.pow 10 k)

/-- Divides by `10 ^ k` in steps of at most `10 ^ 308`, rounding each time; `fuel` steps suffice
to reach zero. -/
def scaleDown : Nat → Binary64 → Nat → Binary64
  | 0, x, _ => x
  | fuel + 1, x, k =>
    if k ≤ 308 then x.div (powerOfTen k)
    else if x.isZero then x
    else scaleDown fuel (x.div (powerOfTen 308)) (k - 308)

/-- **Scaling**: `significand * 10 ^ exponent` with a sign, `none` if it is beyond all bounds. -/
def scaled? (negative : Bool) (significand : Nat) (exponent : Int) : Option Binary64 :=
  let x := Binary64.ofNat significand
  let magnitude :=
    if exponent < 0 then some (scaleDown 4 x exponent.natAbs)
    else if significand = 0 then some x
    -- the powers of ten themselves are finite up to here
    else if 308 < exponent then none
    else
      let y := x.mul (powerOfTen exponent.natAbs)
      if y.isFinite then some y else none
  magnitude.map fun y => if negative then y.neg else y

/-- The value of an exponent's digits; beyond 31 bits only its size matters. -/
def exponentValue (ds : List Char) : Nat := min (natOfDigits ds) (Nat.pow 2 31)

/-- **The value of a numeral**, given its sign, the digits before and after the point, and the
exponent if there is one. -/
def numberOf (negative : Bool) (whole : List Char) (places : Option (List Char))
    (exponent : Option (Bool × List Char)) : Document :=
  let (n, dropped) := absorbDigits 0 whole
  match places, exponent, dropped with
  | none, none, [] =>
    if !negative then .int n
    else if 0 < n ∧ n ≤ Nat.pow 2 63 then .int (-(n : Int))
    -- also minus zero, which no integer is
    else .float ((Binary64.ofRatio true n 1))
  | _, _, _ =>
    let digits := places.getD []
    let (m, left) := absorbDigits n digits
    -- a digit dropped before the point raises the exponent, one kept after it lowers it
    let start : Int := (dropped.length : Int) - ((digits.length : Int) - (left.length : Int))
    let total : Int := match exponent with
      | none => start
      | some (true, ds) => start - exponentValue ds
      | some (false, ds) => start + exponentValue ds
    match scaled? negative m total with
    | some x => .float x
    | none => .unreadable

/-- Reads the exponent of a numeral: `none` if it is malformed. -/
def readExponent (cs : List Char) : Option (Option (Bool × List Char) × List Char) :=
  match cs with
  | c :: r =>
    if c == 'e' || c == 'E' then
      let (negative, r) := match r with
        | '-' :: r => (true, r)
        | '+' :: r => (false, r)
        | r => (false, r)
      let ds := r.takeWhile isDigit
      if ds.isEmpty then none else some (some (negative, ds), r.dropWhile isDigit)
    else some (none, cs)
  | [] => some (none, [])

/-- Reads the places after the point: `none` if there is a point and no digit after it. -/
def readPlaces (cs : List Char) : Option (Option (List Char) × List Char) :=
  match cs with
  | '.' :: r =>
    let ds := r.takeWhile isDigit
    if ds.isEmpty then none else some (some ds, r.dropWhile isDigit)
  | _ => some (none, cs)

/-- Reads a numeral without its sign. A zero is not followed by other digits. -/
def readMagnitude (negative : Bool) (cs : List Char) : Option (Document × List Char) := do
  let whole := cs.takeWhile isDigit
  let rest := cs.dropWhile isDigit
  if whole.isEmpty || (whole.length != 1 && whole.head? == some '0') then none
  else
    let (places, rest) ← readPlaces rest
    let (exponent, rest) ← readExponent rest
    return (numberOf negative whole places exponent, rest)

/-! ## Strings -/

/-- The value of four hexadecimal digits. -/
def hexQuad? : List Char → Option (Nat × List Char)
  | a :: b :: c :: d :: rest => do
    let n ← natInBase? 16 [a, b, c, d]
    return (n, rest)
  | _ => none

/-- One unit of a string: a character, half of a surrogate pair, or the closing quote. -/
inductive Piece where
  | char (c : Char)
  | half (unit : Nat)
  | close

/-- The next unit of a string, `none` where the text breaks off. -/
def nextPiece : List Char → Option (Piece × List Char)
  | [] => none
  | '"' :: rest => some (.close, rest)
  | '\\' :: rest =>
    match rest with
    | '"' :: r => some (.char '"', r)
    | '\\' :: r => some (.char '\\', r)
    | '/' :: r => some (.char '/', r)
    | 'b' :: r => some (.char '\x08', r)
    | 'f' :: r => some (.char '\x0c', r)
    | 'n' :: r => some (.char '\n', r)
    | 'r' :: r => some (.char '\r', r)
    | 't' :: r => some (.char '\t', r)
    | 'u' :: r => do
      let (n, r) ← hexQuad? r
      return (if 0xD800 ≤ n ∧ n ≤ 0xDFFF then .half n else .char (Char.ofNat n), r)
    | _ => none
  | c :: rest => if c.toNat < 32 then none else some (.char c, rest)

/-- Collects the units of a string up to the closing quote. -/
def readPieces : Nat → List Char → Option (List Piece × List Char)
  | 0, _ => none
  | fuel + 1, cs =>
    match nextPiece cs with
    | none => none
    | some (.close, rest) => some ([], rest)
    | some (piece, rest) => (readPieces fuel rest).map fun (ps, r) => (piece :: ps, r)

/-- The characters of a string's units; halves must stand in pairs. -/
def joinPieces : List Piece → Option (List Char)
  | [] => some []
  | .char c :: rest => (joinPieces rest).map (c :: ·)
  | .half high :: .half low :: rest =>
    -- a high half before a low one, and nothing else
    if high ≤ 0xDBFF ∧ 0xDC00 ≤ low then
      (joinPieces rest).map (Char.ofNat (0x10000 + (high - 0xD800) * 0x400 + (low - 0xDC00)) :: ·)
    else none
  | .half _ :: _ => none
  | .close :: rest => joinPieces rest

/-- **Reads a string** after its opening quote. -/
def readString (cs : List Char) : Option (Document × List Char) :=
  (readPieces (cs.length + 1) cs).map fun (ps, rest) =>
    (match joinPieces ps with
      | some chars => .str (String.ofList chars)
      | none => .unreadable, rest)

/-! ## Values -/

/-- The document of a container at a nesting level. -/
def atDepth (depth : Nat) (whole : Bool) (container : Document) : Document :=
  -- a container that broke off keeps what was read, since its first problem lies inside
  if whole && maxDepth < depth then .unreadable else container

mutual

/-- Reads a value at a nesting level. The rest is `none` where the text broke off. -/
def readValue : Nat → Nat → List Char → Document × Option (List Char)
  | 0, _, _ => (.damaged, none)
  | fuel + 1, depth, cs =>
    match skipSpace cs with
    | 'n' :: 'u' :: 'l' :: 'l' :: r => (.null, some r)
    | 't' :: 'r' :: 'u' :: 'e' :: r => (.bool true, some r)
    | 'f' :: 'a' :: 'l' :: 's' :: 'e' :: r => (.bool false, some r)
    | '"' :: r =>
      match readString r with
      | some (d, r) => (d, some r)
      | none => (.damaged, none)
    | '[' :: r =>
      match skipSpace r with
      | ']' :: r => (atDepth (depth + 1) true (.list []), some r)
      | r =>
        let (items, rest) := readItems fuel (depth + 1) r
        (atDepth (depth + 1) rest.isSome (.list items), rest)
    | '{' :: r =>
      match skipSpace r with
      | '}' :: r => (atDepth (depth + 1) true (.map []), some r)
      | r =>
        let (entries, rest) := readEntries fuel (depth + 1) r
        (atDepth (depth + 1) rest.isSome (.map entries), rest)
    | '-' :: r =>
      match readMagnitude true r with
      | some (d, r) => (d, some r)
      | none => (.damaged, none)
    | r =>
      match readMagnitude false r with
      | some (d, r) => (d, some r)
      | none => (.damaged, none)

/-- Reads the items of an array up to its closing bracket. -/
def readItems : Nat → Nat → List Char → List Document × Option (List Char)
  | 0, _, _ => ([.damaged], none)
  | fuel + 1, depth, cs =>
    let (item, rest) := readValue fuel depth cs
    match rest with
    | none => ([item, .damaged], none)
    | some rest =>
      match skipSpace rest with
      | ']' :: r => ([item], some r)
      | ',' :: r =>
        let (items, rest) := readItems fuel depth r
        (item :: items, rest)
      | _ => ([item, .damaged], none)

/-- Reads the entries of an object up to its closing brace. -/
def readEntries : Nat → Nat → List Char → List (Document × Document) × Option (List Char)
  | 0, _, _ => ([(.damaged, .damaged)], none)
  | fuel + 1, depth, cs =>
    match skipSpace cs with
    | '"' :: r =>
      match readString r with
      | none => ([(.damaged, .damaged)], none)
      | some (key, r) =>
        match skipSpace r with
        | ':' :: r =>
          let (value, rest) := readValue fuel depth r
          match rest with
          | none => ([(key, value), (.damaged, .damaged)], none)
          | some rest =>
            match skipSpace rest with
            | '}' :: r => ([(key, value)], some r)
            | ',' :: r =>
              let (entries, rest) := readEntries fuel depth r
              ((key, value) :: entries, rest)
            | _ => ([(key, value), (.damaged, .damaged)], none)
        | _ => ([(key, .damaged)], none)
    | _ => ([(.damaged, .damaged)], none)

end

/-- **Reads a text**: its document, and whether anything but blanks follows the value. A text that
breaks off has nothing after it. -/
def read (text : String) : Document × Bool :=
  let cs := text.toList
  match readValue (cs.length + 1) 0 cs with
  | (d, some rest) => (d, !(skipSpace rest).isEmpty)
  | (d, none) => (d, false)

end Playback.Json
