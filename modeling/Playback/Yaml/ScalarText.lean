import Playback.Yaml.Cursor
import Playback.Number.Numeral

/-!
# The content of scalars

Reading the content of plain, quoted and block scalars. Line breaks inside plain and quoted
scalars are folded: one break becomes a blank, of several the first is dropped.

* `readPlain`, `readQuoted`, `readBlock` — the content, and the place after it; `none` where the
  stream is malformed.
-/

namespace Playback.Yaml

/-! ## Folding -/

/-- **White space between two pieces of a scalar.** -/
structure Gap where
  /-- Whether a line break was met. -/
  broken : Bool := false
  /-- Blanks before the first break. -/
  blanks : List Char := []
  /-- The first break. -/
  first : List Char := []
  /-- The breaks after it. -/
  later : List Char := []

/-- What a gap contributes to the content. -/
def Gap.fold (g : Gap) : List Char :=
  if g.broken then
    if g.first.head? = some '\n' then if g.later.isEmpty then [' '] else g.later
    else g.first ++ g.later
  else g.blanks

/-- Moves over blanks and breaks. Tabs that stand before column `indent` of a continuation line
are refused. -/
def readGap (indent : Int) : Nat → Cursor → Gap → Option (Cursor × Gap)
  | 0, c, g => some (c, g)
  | fuel + 1, c, g =>
    match c.peek with
    | some ch =>
      if isBlank ch then
        if g.broken then
          if (c.column : Int) < indent ∧ ch = '\t' then none
          else readGap indent fuel c.skip g
        else readGap indent fuel c.skip { g with blanks := g.blanks ++ [ch] }
      else if isBreak ch then
        let (next, b) := c.readBreak
        if g.broken then readGap indent fuel next { g with later := g.later ++ b }
        else readGap indent fuel next { g with broken := true, blanks := [], first := b }
      else some (c, g)
    | none => some (c, g)

/-! ## Plain scalars -/

/-- A character that delimits flow collections. -/
def isFlowMark (c : Char) : Bool :=
  c == ',' || c == '[' || c == ']' || c == '{' || c == '}'

/-- Reads the characters of a plain scalar up to a blank, a break or the end of the scalar. In a
flow collection a colon before a delimiter is refused. -/
def readWord (inFlow : Bool) : Nat → Cursor → List Char → Option (Cursor × List Char)
  | 0, c, acc => some (c, acc.reverse)
  | fuel + 1, c, acc =>
    match c.peek with
    | none => some (c, acc.reverse)
    | some ch =>
      if isBlank ch || isBreak ch then some (c, acc.reverse)
      -- neither the end of a key nor a part of the word
      else if inFlow && ch == ':' && (c.peek 1).any (fun d => isFlowMark d || d == '?') then none
      else if (ch == ':' && c.gapAt 1) || (inFlow && isFlowMark ch) then some (c, acc.reverse)
      else readWord inFlow fuel c.skip (ch :: acc)

/-- Reads the words of a plain scalar and the gaps between them. The last part says whether the
scalar was followed by a line break. -/
def readWords (inFlow : Bool) (indent : Int) :
    Nat → Cursor → Gap → List Char → Option (Cursor × List Char × Bool)
  | 0, c, g, content => some (c, content, g.broken)
  | fuel + 1, c, g, content =>
    if c.isDocumentMark || c.isAt '#' then some (c, content, g.broken)
    else do
      let (c', word) ← readWord inFlow (c.rest.length + 1) c []
      let content := if word.isEmpty then content else content ++ g.fold ++ word
      let g := if word.isEmpty then g else {}
      if c'.blankAt || c'.breakAt then
        let (next, g) ← readGap indent (c'.rest.length + 1) c' g
        if !inFlow && decide ((next.column : Int) < indent) then
          some (next, content, g.broken)
        else readWords inFlow indent fuel next g content
      else some (c', content, g.broken)

/-- **Reads a plain scalar** in a block indented by `indent - 1`. -/
def readPlain (inFlow : Bool) (indent : Int) (c : Cursor) : Option (Cursor × List Char × Bool) :=
  readWords inFlow indent (c.rest.length + 1) c {} []

/-! ## Quoted scalars -/

/-- What an escape of one character stands for. -/
def simpleEscape? (c : Char) : Option Char :=
  match c with
  | '0' => some '\x00'
  | 'a' => some '\x07'
  | 'b' => some '\x08'
  | 't' => some '\t'
  | '\t' => some '\t'
  | 'n' => some '\n'
  | 'v' => some '\x0b'
  | 'f' => some '\x0c'
  | 'r' => some '\r'
  | 'e' => some '\x1b'
  | ' ' => some ' '
  | '"' => some '"'
  | '/' => some '/'
  | '\\' => some '\\'
  | 'N' => some '\u0085'
  | '_' => some '\u00a0'
  | 'L' => some '\u2028'
  | 'P' => some '\u2029'
  | _ => none

/-- How many hexadecimal digits follow the letter of an escape. -/
def escapeWidth? (c : Char) : Option Nat :=
  match c with
  | 'x' => some 2
  | 'u' => some 4
  | 'U' => some 8
  | _ => none

/-- Reads an escape at a backslash. -/
def readEscape (c : Cursor) : Option (Cursor × Char) := do
  let letter ← c.peek 1
  match simpleEscape? letter with
  | some ch => some (c.skipBy 2, ch)
  | none =>
    let width ← escapeWidth? letter
    let digits := (c.rest.drop 2).take width
    if digits.length ≠ width then none
    else
      let n ← natInBase? 16 digits
      if (0xD800 ≤ n ∧ n ≤ 0xDFFF) ∨ 0x10FFFF < n then none
      else some (c.skipBy (2 + width), Char.ofNat n)

/-- Reads the characters of a quoted scalar up to a blank, a break or the closing quote. The last
part says whether an escaped line break was met. -/
def readQuotedWord (single : Bool) :
    Nat → Cursor → List Char → Option (Cursor × List Char × Bool)
  | 0, c, acc => some (c, acc.reverse, false)
  | fuel + 1, c, acc =>
    match c.peek with
    | none => some (c, acc.reverse, false)
    | some ch =>
      if isBlank ch || isBreak ch then some (c, acc.reverse, false)
      else if single then
        if ch == '\'' then
          if c.isAt '\'' 1 then readQuotedWord single fuel (c.skipBy 2) ('\'' :: acc)
          else some (c, acc.reverse, false)
        else readQuotedWord single fuel c.skip (ch :: acc)
      else if ch == '"' then some (c, acc.reverse, false)
      else if ch == '\\' then
        -- an escaped break leaves nothing of itself or of the blanks after it
        if c.breakAt 1 then some (c.skip.skipBreak, acc.reverse, true)
        else do
          let (c, e) ← readEscape c
          readQuotedWord single fuel c (e :: acc)
      else readQuotedWord single fuel c.skip (ch :: acc)

/-- Reads the words of a quoted scalar and the gaps between them. -/
def readQuotedWords (single : Bool) : Nat → Cursor → List Char → Option (Cursor × List Char)
  | 0, _, _ => none
  | fuel + 1, c, content =>
    if c.isDocumentMark || c.endAt then none
    else do
      let (c, word, broken) ← readQuotedWord single (c.rest.length + 1) c []
      let content := content ++ word
      if c.isAt (if single then '\'' else '"') then some (c.skip, content)
      else
        let (c, g) ← readGap 0 (c.rest.length + 1) c { broken }
        readQuotedWords single fuel c (content ++ g.fold)

/-- **Reads a quoted scalar** after its opening quote. -/
def readQuoted (single : Bool) (c : Cursor) : Option (Cursor × List Char) :=
  readQuotedWords single (c.rest.length + 1) c []

/-! ## Block scalars -/

/-- What happens to the line breaks at the end of a block scalar. -/
inductive Chomping where
  | strip
  | clip
  | keep
  deriving DecidableEq

/-- Reads a chomping mark. -/
def readChomping (c : Cursor) : Cursor × Option Chomping :=
  if c.isAt '+' then (c.skip, some .keep)
  else if c.isAt '-' then (c.skip, some .strip)
  else (c, none)

/-- Reads an indentation mark; zero is refused. -/
def readIncrement (c : Cursor) : Option (Cursor × Nat) :=
  match c.peek with
  | some ch =>
    if isDigit ch then if ch == '0' then none else some (c.skip, digitValue ch) else some (c, 0)
  | none => some (c, 0)

/-- Moves over blank lines and the indentation of the next line. With `indent = 0` the depth is
still open. The last parts are the breaks and the deepest column met. -/
def readBlankLines (indent : Nat) :
    Nat → Cursor → List Char → Nat → Option (Cursor × List Char × Nat)
  | 0, c, breaks, deepest => some (c, breaks, deepest)
  | fuel + 1, c, breaks, deepest =>
    -- blanks beyond the indentation belong to the content
    let room := if indent = 0 then c.rest.length else indent - c.column
    let c := c.skipBy ((c.rest.take room).takeWhile (· == ' ')).length
    let deepest := max deepest c.column
    if (indent = 0 ∨ c.column < indent) ∧ c.isAt '\t' then none
    else if c.breakAt then
      let (c, b) := c.readBreak
      readBlankLines indent fuel c (breaks ++ b) deepest
    else some (c, breaks, deepest)

/-- Blank lines, and the indentation they settle if it is still open. -/
def readBlockGap (parent : Int) (indent : Nat) (c : Cursor) :
    Option (Cursor × List Char × Nat) := do
  let (c, breaks, deepest) ← readBlankLines indent (c.rest.length + 1) c [] 0
  let settled := if indent = 0 then max (max (deepest : Int) (parent + 1)) 1 |>.toNat else indent
  return (c, breaks, settled)

/-- The lines of a block scalar. `lead` is the break before the current line and `blankLead`
whether the line before began with a blank. -/
def readBlockLines (literal : Bool) (parent : Int) (indent : Nat) :
    Nat → Cursor → List Char → List Char → List Char → Bool →
      Option (Cursor × List Char × List Char × List Char)
  | 0, c, content, lead, breaks, _ => some (c, content, lead, breaks)
  | fuel + 1, c, content, lead, breaks, blankLead =>
    if c.column = indent ∧ c.endAt = false then do
      let blank := c.blankAt
      let joint :=
        -- only a break between two lines of text folds; lines that begin with a blank keep theirs
        if !literal && lead.head? == some '\n' && !blankLead && !blank then
          if breaks.isEmpty then [' '] else []
        else lead
      let line := c.takeWhile fun ch => !isBreak ch
      let (c, lead) := c.skipLine.readBreak
      let (c, after, _) ← readBlockGap parent indent c
      readBlockLines literal parent indent fuel c (content ++ joint ++ breaks ++ line) lead after
        blank
    else some (c, content, lead, breaks)

/-- **Reads a block scalar** after its mark, in a block indented by `parent`. -/
def readBlock (literal : Bool) (parent : Int) (c : Cursor) : Option (Cursor × List Char) := do
  let (c, first) := readChomping c
  let (c, increment) ← readIncrement c
  -- the two marks may stand in either order
  let (c, second) := if first.isNone && increment != 0 then readChomping c else (c, none)
  let chomping := (first.or second).getD .clip
  let c := c.skipWhile isBlank
  let c := if c.isAt '#' then c.skipLine else c
  if !c.lineEndAt then none
  else
    let c := c.skipBreak
    let given := if increment = 0 then 0 else (max parent 0).toNat + increment
    let (c, breaks, indent) ← readBlockGap parent given c
    let (c, content, lead, breaks) ←
      readBlockLines literal parent indent (c.rest.length + 1) c [] [] breaks false
    let tail := match chomping with
      | .strip => []
      | .clip => lead
      | .keep => lead ++ breaks
    return (c, content ++ tail)

end Playback.Yaml
