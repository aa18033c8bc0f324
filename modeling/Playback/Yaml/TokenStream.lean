import Playback.Yaml.ScalarText

/-!
# Tokens of a stream

A `TokenStream` turns a text into tokens. Block structure follows from indentation, and the key of a
mapping is recognised only at the colon after it: a place where a key may have begun is remembered
as a `Candidate`, and the tokens of the key are put there once the colon is met. A candidate lies
on one line and is at most 1024 characters long.

* `TokenStream.step` — the next token or tokens;
* `TokenStream.settle` — goes on until the first token cannot change its meaning any more.

All of them are `none` where the stream is malformed.
-/

namespace Playback.Yaml

/-- **A place where a key may have begun.** -/
structure Candidate where
  /-- Whether it may still be a key. -/
  possible : Bool := false
  /-- Whether it must be one: it stands at the indentation of a block mapping. -/
  required : Bool := false
  /-- How many tokens precede it. -/
  token : Nat := 0
  /-- How many characters precede it. -/
  index : Nat := 0
  /-- Its line. -/
  line : Nat := 0
  /-- Its column. -/
  column : Nat := 0
  deriving Inhabited, Repr

/-- **Tokens in the making**: a place in a text and what is known of the tokens before it. -/
structure TokenStream where
  /-- The place reached. -/
  cursor : Cursor
  /-- Whether the first token was made. -/
  started : Bool := false
  /-- Tokens that were made and not yet taken. -/
  tokens : List Token := []
  /-- How many tokens were taken. -/
  taken : Nat := 0
  /-- Whether a key may begin here. -/
  keyAllowed : Bool := true
  /-- The candidates, one for each open flow collection and one for the block around them. -/
  candidates : List Candidate := [{}]
  /-- The column of the innermost block collection. -/
  indent : Int := -1
  /-- The columns of the block collections around it. -/
  outer : List Int := []
  /-- How many flow collections are open. -/
  flowLevel : Nat := 0
  deriving Inhabited, Repr

namespace TokenStream

/-- Whether a flow collection is open. -/
def inFlow (s : TokenStream) : Bool := s.flowLevel != 0

/-- Appends a token. -/
def push (s : TokenStream) (t : Token) : TokenStream := { s with tokens := s.tokens ++ [t] }

/-- Puts a token before the one with a number. -/
def insertAt (s : TokenStream) (number : Nat) (t : Token) : TokenStream :=
  let k := number - s.taken
  { s with tokens := s.tokens.take k ++ t :: s.tokens.drop k }

/-- Moves over one character. -/
def skip (s : TokenStream) : TokenStream := { s with cursor := s.cursor.skip }

/-! ## Indentation -/

/-- Opens a block collection at a column if it is deeper than the innermost one. -/
def openBlock (s : TokenStream) (column : Nat) (number : Option Nat) (t : Token) : TokenStream :=
  if s.inFlow then s
  else if s.indent < column then
    let s := { s with outer := s.indent :: s.outer, indent := column }
    match number with
    | none => s.push t
    | some n => s.insertAt n t
  else s

/-- Closes the block collections that are deeper than a column. -/
def closeBlocks (column : Int) : List Int → TokenStream → TokenStream
  | [], s => s
  | parent :: outer, s =>
    if column < s.indent then
      closeBlocks column outer { s.push .blockEnd with indent := parent, outer }
    else s

/-- Closes the block collections that are deeper than a column; flow collections have none. -/
def unroll (s : TokenStream) (column : Int) : TokenStream :=
  if s.inFlow then s else closeBlocks column s.outer s

/-! ## Candidates for keys -/

/-- Gives up candidates that ended or grew too long; one that must be a key may not. -/
def dropStale (s : TokenStream) : Option TokenStream := do
  let check (k : Candidate) : Option Candidate :=
    if k.possible && (k.line < s.cursor.line || k.index + 1024 < s.cursor.index) then
      if k.required then none else some { k with possible := false }
    else some k
  let candidates ← s.candidates.mapM check
  return { s with candidates }

/-- Gives up the innermost candidate. -/
def dropCandidate (s : TokenStream) : Option TokenStream :=
  match s.candidates with
  | k :: rest =>
    if k.possible && k.required then none
    else some { s with candidates := { k with possible := false } :: rest }
  | [] => some s

/-- Remembers that a key may begin here. -/
def saveCandidate (s : TokenStream) : Option TokenStream :=
  if s.keyAllowed then do
    -- at the indentation of the open mapping nothing but a key can stand
    let required := !s.inFlow && decide (s.indent = s.cursor.column)
    let s ← s.dropCandidate
    let k : Candidate := {
      possible := true
      required
      token := s.taken + s.tokens.length
      index := s.cursor.index
      line := s.cursor.line
      column := s.cursor.column }
    return { s with candidates := k :: s.candidates.drop 1 }
  else some s

/-! ## Directives, anchors and tags -/

/-- Reads a version number: one to nine digits. -/
def readVersionNumber (c : Cursor) : Option (Cursor × Nat) :=
  let ds := c.takeWhile isDigit
  if ds.isEmpty || 9 < ds.length then none else some (c.skipBy ds.length, natOfDigits ds)

/-- The characters that tags are made of. -/
def isTagChar (verbatim : Bool) (c : Char) : Bool :=
  isWord c || [';', '/', '?', ':', '@', '&', '=', '+', '$', '.', '%', '!', '~', '*', '\'', '(',
    ')'].contains c || (verbatim && [',', '[', ']'].contains c)

/-- One byte written as a percent sign and two hexadecimal digits. -/
def readByteEscape : List Char → Option (Nat × List Char)
  | '%' :: a :: b :: rest => (natInBase? 16 [a, b]).map fun n => (n, rest)
  | _ => none

/-- The bytes that continue a character. -/
def readContinuation : Nat → Nat → List Char → Option (Nat × List Char)
  | 0, n, cs => some (n, cs)
  | k + 1, n, cs => do
    let (b, cs) ← readByteEscape cs
    if b / 64 = 2 then readContinuation k (n * 64 + b % 64) cs else none

/-- A character written as the escaped bytes of its encoding. -/
def readCharEscape (cs : List Char) : Option (Char × List Char) := do
  let (b, rest) ← readByteEscape cs
  if b < 0x80 then some (Char.ofNat b, rest)
  else if b / 32 = 6 then (readContinuation 1 (b % 32) rest).map fun (n, r) => (Char.ofNat n, r)
  else if b / 16 = 14 then (readContinuation 2 (b % 16) rest).map fun (n, r) => (Char.ofNat n, r)
  else if b / 8 = 30 then (readContinuation 3 (b % 8) rest).map fun (n, r) => (Char.ofNat n, r)
  else none

/-- Reads the characters of a tag. -/
def readTagChars (verbatim : Bool) : Nat → Cursor → List Char → Option (Cursor × List Char)
  | 0, c, acc => some (c, acc.reverse)
  | fuel + 1, c, acc =>
    match c.peek with
    | some ch =>
      if ch == '%' then do
        let (e, rest) ← readCharEscape c.rest
        readTagChars verbatim fuel (c.skipBy (c.rest.length - rest.length)) (e :: acc)
      else if isTagChar verbatim ch then readTagChars verbatim fuel c.skip (ch :: acc)
      else some (c, acc.reverse)
    | none => some (c, acc.reverse)

/-- Reads a tag's characters after a head that was read as a handle. Something must be there. -/
def readTagText (verbatim : Bool) (head : List Char) (c : Cursor) :
    Option (Cursor × List Char) := do
  let (c, cs) ← readTagChars verbatim (c.rest.length + 1) c []
  if head.isEmpty && cs.isEmpty then none else some (c, head.drop 1 ++ cs)

/-- Reads a tag handle at an exclamation mark. -/
def readHandle (isDirective : Bool) (c : Cursor) : Option (Cursor × List Char) :=
  if !c.isAt '!' then none
  else
    let name := c.skip.takeWhile isWord
    let c := c.skip.skipBy name.length
    if c.isAt '!' then some (c.skip, '!' :: name ++ ['!'])
    else if isDirective && !name.isEmpty then none
    else some (c, '!' :: name)

/-- Reads a directive at its percent sign. -/
def readDirective (c : Cursor) : Option (Cursor × Token) := do
  let c := c.skip
  let name := c.takeWhile isWord
  let c := c.skipBy name.length
  if name.isEmpty || !c.gapAt then none
  else
    let c := c.skipWhile isBlank
    let (c, t) ←
      if name = "YAML".toList then do
        let (c, major) ← readVersionNumber c
        if !c.isAt '.' then none
        else
          let (c, minor) ← readVersionNumber c.skip
          some (c, Token.versionDirective major minor)
      else if name = "TAG".toList then do
        let (c, handle) ← readHandle true c
        if !c.blankAt then none
        else
          let (c, stem) ← readTagText true [] (c.skipWhile isBlank)
          if !c.gapAt then none
          else some (c, Token.tagDirective (String.ofList handle) (String.ofList stem))
      else none
    let c := c.skipWhile isBlank
    let c := if c.isAt '#' then c.skipLine else c
    if c.lineEndAt then some (c.skipBreak, t) else none

/-- Reads the name of an anchor or alias after its mark. -/
def readName (c : Cursor) : Option (Cursor × String) :=
  let name := c.takeWhile isWord
  let c := c.skipBy name.length
  let ends := c.gapAt || (c.peek).any fun ch => ['?', ':', ',', ']', '}', '%', '@', '`'].contains ch
  if name.isEmpty || !ends then none else some (c, String.ofList name)

/-- Reads a tag at its exclamation mark. -/
def readTag (inFlow : Bool) (c : Cursor) : Option (Cursor × Token) := do
  let (c, handle, suffix) ←
    if c.isAt '<' 1 then do
      let (c, cs) ← readTagText true [] (c.skipBy 2)
      if c.isAt '>' then some (c.skip, [], cs) else none
    else do
      let (c, handle) ← readHandle false c
      if 1 < handle.length && handle.getLast? == some '!' then
        let (c, cs) ← readTagText false [] c
        some (c, handle, cs)
      else
        let (c, cs) ← readTagText false handle c
        -- a lone mark is a tag of its own and not a handle
        some (if cs.isEmpty then (c, [], ['!']) else (c, ['!'], cs))
  if (inFlow && c.isAt ',') || c.gapAt then
    some (c, .tag (String.ofList handle) (String.ofList suffix))
  else none

/-! ## Tokens -/

/-- Moves over blanks, comments and breaks to the next token. Tabs do not count as blanks where a
key of a block mapping may begin. A byte order mark may start a line, and fills its first column. -/
def skipToToken : Nat → TokenStream → TokenStream
  | 0, s => s
  | fuel + 1, s =>
    let tabs := s.inFlow || !s.keyAllowed
    let c := s.cursor
    let c := if c.column == 0 && c.isAt byteOrderMark then c.skip else c
    let c := c.skipWhile fun ch => ch == ' ' || (tabs && ch == '\t')
    let c := if c.isAt '#' then c.skipLine else c
    if c.breakAt then
      skipToToken fuel { s with cursor := c.skipBreak, keyAllowed := s.keyAllowed || !s.inFlow }
    else { s with cursor := c }

/-- The end of the stream. -/
def endStream (s : TokenStream) : Option TokenStream := do
  let c := s.cursor
  -- the last line counts as ended, so that no candidate on it is left
  let c := if c.column ≠ 0 then { c with column := 0, line := c.line + 1 } else c
  let s ← ({ s with cursor := c }.unroll (-1)).dropCandidate
  return { s with keyAllowed := false }.push .streamEnd

/-- The mark of a document's start or end. -/
def documentMark (s : TokenStream) (t : Token) : Option TokenStream := do
  let s ← (s.unroll (-1)).dropCandidate
  return { s with keyAllowed := false, cursor := s.cursor.skipBy 3 }.push t

/-- The start of a flow collection. -/
def openFlow (s : TokenStream) (t : Token) : Option TokenStream := do
  let s ← s.saveCandidate
  return ({ s with
    candidates := {} :: s.candidates
    flowLevel := s.flowLevel + 1
    keyAllowed := true }).skip.push t

/-- The end of a flow collection. -/
def closeFlow (s : TokenStream) (t : Token) : Option TokenStream := do
  let s ← s.dropCandidate
  let s := if s.inFlow then
      { s with candidates := s.candidates.drop 1, flowLevel := s.flowLevel - 1 }
    else s
  return ({ s with keyAllowed := false }).skip.push t

/-- A comma in a flow collection. -/
def flowEntry (s : TokenStream) : Option TokenStream := do
  let s ← s.dropCandidate
  return ({ s with keyAllowed := true }).skip.push .flowEntry

/-- The hyphen of a block sequence. -/
def blockEntry (s : TokenStream) : Option TokenStream := do
  if !s.inFlow && !s.keyAllowed then none
  else
    let s ← (s.openBlock s.cursor.column none .blockSequenceStart).dropCandidate
    return ({ s with keyAllowed := true }).skip.push .blockEntry

/-- The question mark of an explicit key. -/
def explicitKey (s : TokenStream) : Option TokenStream := do
  if !s.inFlow && !s.keyAllowed then none
  else
    let s ← (s.openBlock s.cursor.column none .blockMappingStart).dropCandidate
    return ({ s with keyAllowed := !s.inFlow }).skip.push .key

/-- The colon of a value. The innermost candidate, if there is one, was a key. -/
def mappingValue (s : TokenStream) : Option TokenStream :=
  match s.candidates with
  | k :: rest =>
    if k.possible then
      -- both go to one place; the start of the mapping is put in second and so stands before the key
      let s := (s.insertAt k.token .key).openBlock k.column (some k.token) .blockMappingStart
      some (({ s with
        candidates := { k with possible := false } :: rest, keyAllowed := false }).skip.push .value)
    else
      if !s.inFlow && !s.keyAllowed then none
      else
        let s := s.openBlock s.cursor.column none .blockMappingStart
        some (({ s with keyAllowed := !s.inFlow }).skip.push .value)
  | [] => none

/-- A token that may be, or begin, a key. -/
def keyable (s : TokenStream) (read : TokenStream → Option (Cursor × Token)) :
    Option TokenStream := do
  let s ← s.saveCandidate
  let s := { s with keyAllowed := false }
  let (c, t) ← read s
  return { s with cursor := c }.push t

/-- A block scalar. -/
def blockScalar (s : TokenStream) (literal : Bool) : Option TokenStream := do
  let s ← s.dropCandidate
  let (c, content) ← readBlock literal s.indent s.cursor.skip
  return { s with keyAllowed := true, cursor := c }.push (.scalar (String.ofList content) false)

/-- A plain scalar. After a line break a key may begin again. -/
def plainScalar (s : TokenStream) : Option TokenStream := do
  let s ← s.saveCandidate
  let (c, content, broken) ← readPlain s.inFlow (s.indent + 1) s.cursor
  return { s with keyAllowed := broken, cursor := c }.push (.scalar (String.ofList content) true)

/-- The characters that do not begin a plain scalar. -/
def isIndicator (c : Char) : Bool :=
  ['-', '?', ':', ',', '[', ']', '{', '}', '#', '&', '*', '!', '|', '>', '\'', '"', '%', '@',
    '`'].contains c

/-- **The next token or tokens.** -/
def step (s : TokenStream) : Option TokenStream :=
  if !s.started then some { s.push .streamStart with started := true }
  else do
    -- each round of the skipping takes a line break, so the characters left bound the rounds
    let s ← (skipToToken (s.cursor.rest.length + 1) s).dropStale
    let s := s.unroll s.cursor.column
    let c := s.cursor
    match c.peek with
    | none => s.endStream
    | some ch =>
      if c.column = 0 ∧ ch = '%' then do
        let s ← (s.unroll (-1)).dropCandidate
        let (c, t) ← readDirective s.cursor
        return { s with keyAllowed := false, cursor := c }.push t
      -- it counts at the start of any line, also inside a flow collection
      else if c.isDocumentMark then
        s.documentMark (if ch = '-' then .documentStart else .documentEnd)
      else if ch = '[' then s.openFlow .flowSequenceStart
      else if ch = '{' then s.openFlow .flowMappingStart
      else if ch = ']' then s.closeFlow .flowSequenceEnd
      else if ch = '}' then s.closeFlow .flowMappingEnd
      else if ch = ',' then s.flowEntry
      else if ch = '-' ∧ c.gapAt 1 then s.blockEntry
      else if ch = '?' ∧ (s.inFlow ∨ c.gapAt 1) then s.explicitKey
      else if ch = ':' ∧ (s.inFlow ∨ c.gapAt 1) then s.mappingValue
      else if ch = '*' then
        s.keyable fun s => (readName s.cursor.skip).map fun (c, n) => (c, .alias n)
      else if ch = '&' then
        s.keyable fun s => (readName s.cursor.skip).map fun (c, n) => (c, .anchor n)
      else if ch = '!' then s.keyable fun s => readTag s.inFlow s.cursor
      else if ch = '|' ∧ !s.inFlow then s.blockScalar true
      else if ch = '>' ∧ !s.inFlow then s.blockScalar false
      else if ch = '\'' ∨ ch = '"' then
        s.keyable fun s => (readQuoted (ch = '\'') s.cursor.skip).map fun (c, cs) =>
          (c, .scalar (String.ofList cs) false)
      else if (!isIndicator ch && !isBlank ch) || (ch == '-' && !c.blankAt 1) ||
          (!s.inFlow && (ch == '?' || ch == ':') && !c.gapAt 1) then s.plainScalar
      else none

/-- Goes on until the first token is there and no candidate can still be put before it. -/
def settleWithin : Nat → TokenStream → Option TokenStream
  | 0, s => some s
  | fuel + 1, s =>
    if s.tokens.isEmpty then s.step.bind (settleWithin fuel)
    else do
      let s ← s.dropStale
      if s.candidates.any fun k => k.possible && k.token == s.taken then
        s.step.bind (settleWithin fuel)
      else some s

/-- **Settles the first token.** -/
def settle (s : TokenStream) : Option TokenStream := settleWithin (s.cursor.rest.length + 3) s

/-- Takes the first token away. -/
def take (s : TokenStream) : TokenStream :=
  { s with tokens := s.tokens.drop 1, taken := s.taken + 1 }

/-- The stream at the start of a text. -/
def ofText (text : String) : TokenStream := { cursor := { rest := text.toList } }

end TokenStream

end Playback.Yaml
