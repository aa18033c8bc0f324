import Playback.Yaml.Token

/-!
# A place in a stream

A `Cursor` is what is left of a stream and where that begins: how many characters precede it, on
which line it is and in which column. Moving over a line break of any form goes to the next line.
-/

namespace Playback.Yaml

/-- **A place in a stream.** -/
structure Cursor where
  /-- What is left of the stream. -/
  rest : List Char
  /-- How many characters precede it. -/
  index : Nat := 0
  /-- How many lines precede it. -/
  line : Nat := 0
  /-- How many characters precede it on its line. -/
  column : Nat := 0
  deriving Inhabited, Repr

namespace Cursor

/-- The character at a distance, if the stream goes on that far. -/
def peek (c : Cursor) (n : Nat := 0) : Option Char := c.rest[n]?

/-- Whether the character at a distance is the given one. -/
def isAt (c : Cursor) (ch : Char) (n : Nat := 0) : Bool := c.rest[n]? == some ch

/-- Whether a blank stands at a distance. -/
def blankAt (c : Cursor) (n : Nat := 0) : Bool := (c.rest[n]?).any isBlank

/-- Whether a line break stands at a distance. -/
def breakAt (c : Cursor) (n : Nat := 0) : Bool := (c.rest[n]?).any isBreak

/-- Whether the stream ends at a distance. -/
def endAt (c : Cursor) (n : Nat := 0) : Bool := (c.rest[n]?).isNone

/-- Whether a line ends at a distance. -/
def lineEndAt (c : Cursor) (n : Nat := 0) : Bool := c.breakAt n || c.endAt n

/-- Whether a word ends at a distance. -/
def gapAt (c : Cursor) (n : Nat := 0) : Bool := c.blankAt n || c.lineEndAt n

/-- Moves over one character of a line. -/
def skip (c : Cursor) : Cursor :=
  { c with rest := c.rest.drop 1, index := c.index + 1, column := c.column + 1 }

/-- Moves over some characters of a line. -/
def skipBy (c : Cursor) (n : Nat) : Cursor :=
  { c with rest := c.rest.drop n, index := c.index + n, column := c.column + n }

/-- Moves over the characters of a line that satisfy a test. -/
def skipWhile (c : Cursor) (p : Char → Bool) : Cursor :=
  c.skipBy (c.rest.takeWhile p).length

/-- The characters from here on that satisfy a test. -/
def takeWhile (c : Cursor) (p : Char → Bool) : List Char := c.rest.takeWhile p

/-- Moves over a line break, if one stands here; the second part is the break as content: a
separator stays, every other form is a line feed. -/
def readBreak (c : Cursor) : Cursor × List Char :=
  let next (n : Nat) (rest : List Char) : Cursor :=
    { rest, index := c.index + n, line := c.line + 1, column := 0 }
  match c.rest with
  | '\r' :: '\n' :: rest => (next 2 rest, ['\n'])
  | b :: rest =>
    if b.toNat = 0x2028 ∨ b.toNat = 0x2029 then (next 1 rest, [b])
    else if isBreak b then (next 1 rest, ['\n'])
    else (c, [])
  | [] => (c, [])

/-- Moves over a line break, if one stands here. -/
def skipBreak (c : Cursor) : Cursor := c.readBreak.1

/-- Moves to the end of the line. -/
def skipLine (c : Cursor) : Cursor := c.skipWhile fun ch => !isBreak ch

/-- Whether a line begins here with the mark of a document's start or end. -/
def isDocumentMark (c : Cursor) : Bool :=
  c.column == 0 && c.gapAt 3 &&
    ((c.isAt '-' && c.isAt '-' 1 && c.isAt '-' 2) || (c.isAt '.' && c.isAt '.' 1 && c.isAt '.' 2))

end Cursor

end Playback.Yaml
