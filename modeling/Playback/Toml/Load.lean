import Playback.Toml.Scalar
import Playback.Toml.Table

/-!
# Documents in TOML

`Toml.load?` reads **the document of a TOML text**: lines that give keys their values, below headers
that name the tables they belong to.

* `readKey` — a key, possibly dotted;
* `readValue` — a value, possibly an array or an inline table;
* `readDocument` — the lines of a text.
-/

namespace Playback.Toml

/-- Arrays, inline tables and dotted keys go no deeper than this. -/
def maxDepth : Nat := 79

/-! ## Keys -/

/-- A character of a key without quotes. -/
def isBareChar (c : Char) : Bool := c.isAlphanum || c == '_' || c == '-'

/-- Reads one part of a key. -/
def readPart (cs : List Char) : Option (String × List Char) :=
  match readKeyText cs with
  | some (text, rest) => some (String.ofList text, rest)
  | none =>
    let name := cs.takeWhile isBareChar
    if name.isEmpty then none else some (String.ofList name, cs.dropWhile isBareChar)

/-- Reads the parts of a key, with the blanks around them. -/
def readParts : Nat → List Char → Option (List String × List Char)
  | 0, _ => none
  | fuel + 1, cs => do
    let (part, rest) ← readPart (skipGap cs)
    match skipGap rest with
    | '.' :: rest =>
      let (parts, rest) ← readParts fuel rest
      some (part :: parts, rest)
    | rest => some ([part], rest)

/-- **Reads a key**: the tables it leads through, and its last part. -/
def readKey (cs : List Char) : Option (List String × String × List Char) := do
  let (parts, rest) ← readParts (maxDepth + 1) cs
  match parts.getLast? with
  | some last => if parts.length ≤ maxDepth then some (parts.dropLast, last, rest) else none
  | none => none

/-! ## Values -/

/-- Drops a comment. -/
def skipComment : List Char → List Char
  | '#' :: cs => cs.dropWhile isPrintable
  | cs => cs

/-- Drops blanks, line breaks and comments. -/
def skipVoid : Nat → List Char → List Char
  | 0, cs => cs
  | fuel + 1, cs =>
    match skipGap cs with
    | '#' :: rest => skipVoid fuel (skipComment ('#' :: rest))
    | rest =>
      match readBreak rest with
      | some rest => skipVoid fuel rest
      | none => rest

/-- Drops all blanks, line breaks and comments. -/
def skipAllVoid (cs : List Char) : List Char := skipVoid (cs.length + 1) cs

/-- Reads a given character after blanks. -/
def expect (c : Char) (cs : List Char) : Option (List Char) := readMark c (skipGap cs)

mutual

/-- **Reads a value**, within so many further levels. -/
def readValue : Nat → Nat → List Char → Option (Document × List Char)
  | 0, _, _ => none
  | fuel + 1, levels, cs =>
    match cs with
    | '"' :: _ => (readText cs).map fun (text, rest) => (.str (String.ofList text), rest)
    | '\'' :: _ => (readText cs).map fun (text, rest) => (.str (String.ofList text), rest)
    | '[' :: rest => do
      if levels = 0 then none
      else
        match skipAllVoid rest with
        | ']' :: rest => some (.list [], rest)
        | rest =>
          let (items, rest) ← readItems fuel (levels - 1) rest
          some (.list items, rest)
    | '{' :: rest => do
      if levels = 0 then none
      else
        match skipGap rest with
        | '}' :: rest => some (.map [], rest)
        | rest =>
          let (es, rest) ← readPairs fuel (levels - 1) rest []
          some (.map (Item.entries es), rest)
    | _ => readScalar cs

/-- Reads the items of an array up to its closing bracket. -/
def readItems : Nat → Nat → List Char → Option (List Document × List Char)
  | 0, _, _ => none
  | fuel + 1, levels, cs => do
    let (item, rest) ← readValue fuel levels cs
    match skipAllVoid rest with
    | ']' :: rest => some ([item], rest)
    | ',' :: rest =>
      match skipAllVoid rest with
      | ']' :: rest => some ([item], rest)
      | rest =>
        let (items, rest) ← readItems fuel levels rest
        some (item :: items, rest)
    | _ => none

/-- Reads the pairs of an inline table up to its closing brace. -/
def readPairs : Nat → Nat → List Char → Entries → Option (Entries × List Char)
  | 0, _, _, _ => none
  | fuel + 1, levels, cs, es => do
    let (path, key, rest) ← readKey cs
    let rest ← readMark '=' rest
    let (d, rest) ← readValue fuel levels (skipGap rest)
    let es ← Item.define path key d false es
    match skipGap rest with
    | '}' :: rest => some (es, rest)
    | ',' :: rest => readPairs fuel levels rest es
    | _ => none

end

/-! ## Lines -/

/-- Reads the end of a line: blanks, a comment, and the line break unless the text ends. -/
def readEnd (cs : List Char) : Option (List Char) :=
  match skipComment (skipGap cs) with
  | [] => some []
  | rest => readBreak rest

/-- Reads a header: the path of the table, and whether it is one of a list. -/
def readHeader (cs : List Char) : Option (List String × String × Bool × List Char) :=
  match cs with
  | '[' :: '[' :: rest => do
    let (path, key, rest) ← readKey rest
    let rest ← readMark ']' (← readMark ']' rest)
    some (path, key, true, rest)
  | '[' :: rest => do
    let (path, key, rest) ← readKey rest
    let rest ← readMark ']' rest
    some (path, key, false, rest)
  | _ => none

/-- Reads the remaining lines into the root table; pairs go into the table at `here`. -/
def readDocument : Nat → List String → List Char → Entries → Option Entries
  | 0, _, _, _ => none
  | fuel + 1, here, cs, root =>
    match skipGap cs with
    | [] => some root
    | '#' :: rest => do readDocument fuel here (← readEnd ('#' :: rest)) root
    | '[' :: rest => do
      let (path, key, isListed, rest) ← readHeader ('[' :: rest)
      let rest ← readEnd rest
      let root ← if isListed then Item.openListed path key root else Item.openTable path key root
      readDocument fuel (path ++ [key]) rest root
    | rest =>
      match readBreak rest with
      | some rest => readDocument fuel here rest root
      | none => do
        let (path, key, rest) ← readKey rest
        let rest ← readMark '=' rest
        -- a value and its items take two rounds for each character at most
        let (d, rest) ← readValue (2 * rest.length + 2) maxDepth (skipGap rest)
        let rest ← readEnd rest
        let root ← Item.descend false (fun _ es => Item.define path key d false es) here false root
        readDocument fuel here rest root

/-- A mark of the byte order, which may stand before a text. -/
def byteOrderMark : Char := '\uFEFF'

/-- **The document of a TOML text**, `none` if it is not one. -/
def load? (text : String) : Option Document :=
  let cs := match text.toList with
    | c :: rest => if c = byteOrderMark then rest else c :: rest
    | [] => []
  (readDocument (cs.length + 1) [] cs []).map fun es => .map (Item.entries es)

end Playback.Toml
