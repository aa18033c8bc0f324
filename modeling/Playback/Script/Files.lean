/-!
# Files

The part of a file system that scripts and configurations are read from.

* `FilePath` — the names on the way to a file;
* `FileContent` — **what a file holds**, which may be barred from reading;
* `Files` — **regular files by their paths**; a path on the way to one is a directory;
* `Files.content`, `Files.readText` — what a file holds, and its text, or why it cannot be had.
-/

namespace Playback

/-- **A path**: the names of the directories on the way, and of the file. -/
abbrev FilePath := List String

namespace FilePath

/-- Whether the first path comes before the second: name by name, and a path before those that
go on from it. -/
def before : FilePath → FilePath → Bool
  | [], [] => false
  | [], _ :: _ => true
  | _ :: _, [] => false
  | a :: as, b :: bs => if a = b then before as bs else decide (a < b)

/-- The name in front of the last dot and what follows it. A name that begins with its only dot
has nothing after it. -/
def splitName (name : String) : String × Option String :=
  let reversed := name.toList.reverse
  let ending := reversed.takeWhile (· != '.')
  match reversed.dropWhile (· != '.') with
  | '.' :: c :: start =>
    if name = ".." then (name, none)
    else (String.ofList (c :: start).reverse, some (String.ofList ending.reverse))
  | _ => (name, none)

/-- The last name of a path without its ending. -/
def stem (p : FilePath) : String := (p.getLast?.map fun name => (splitName name).1).getD ""

/-- The ending of the last name of a path. -/
def ending? (p : FilePath) : Option String := p.getLast?.bind fun name => (splitName name).2

end FilePath

/-- **Why a file cannot be read as text.** -/
inductive ReadError where
  | missing
  | isDirectory
  | notDirectory
  /-- The system does not let it be read, and says why. -/
  | barred (reason : String)
  | notText
  deriving DecidableEq, Repr

/-- The text of a read error. -/
def ReadError.message : ReadError → String
  | missing => "No such file or directory (os error 2)"
  | isDirectory => "Is a directory (os error 21)"
  | notDirectory => "Not a directory (os error 20)"
  | barred reason => reason
  | notText => "stream did not contain valid UTF-8"

/-- **What a file holds.** -/
inductive FileContent where
  | bytes (bytes : List UInt8)
  /-- What it holds cannot be read, for this reason. -/
  | barred (reason : String)
  deriving DecidableEq, Repr, Inhabited

instance : Coe (List UInt8) FileContent := ⟨.bytes⟩

namespace FileContent

/-- The bytes of a file, if they can be read. -/
def read : FileContent → Except ReadError (List UInt8)
  | bytes bs => .ok bs
  | barred reason => .error (.barred reason)

/-- **The text of a file**, if its bytes can be read and are a text in UTF-8. -/
def text (c : FileContent) : Except ReadError String := do
  match String.fromUTF8? ⟨(← c.read).toArray⟩ with
  | some s => .ok s
  | none => .error .notText

end FileContent

/-- **Regular files** with their contents, in no particular order. -/
structure Files where
  /-- Each file's path and what it holds. -/
  entries : List (FilePath × FileContent)
  deriving Inhabited

namespace Files

/-- What the file at a path holds. -/
def content? (fs : Files) (p : FilePath) : Option FileContent :=
  (fs.entries.find? fun e => e.1 == p).map (·.2)

/-- Whether a path leads on to some file. -/
def isDirectory (fs : Files) (p : FilePath) : Bool :=
  p.isEmpty || fs.entries.any fun e => p.isPrefixOf e.1 && p.length < e.1.length

/-- The names in a written path, and whether it insists on a directory by its ending. -/
def splitPath (text : String) : List String × Bool :=
  let rec pieces : List Char → List (List Char)
    | [] => [[]]
    | c :: cs =>
      if c = '/' then [] :: pieces cs
      else match pieces cs with
        | [] => [[c]]
        | p :: ps => (c :: p) :: ps
  let names := (pieces text.toList).map String.ofList
  let last := names.getLast?.getD ""
  (names.filter fun n => n ≠ "" ∧ n ≠ ".", last = "" ∨ last = ".")

/-- Walks along written names; `..` leads back. Every name but the last must be a directory. -/
def resolve (fs : Files) : List String → FilePath → Except ReadError FilePath
  | [], p => .ok p
  | name :: names, p =>
    let next := if name = ".." then p.dropLast else p ++ [name]
    if fs.isDirectory next then resolve fs names next
    else if (fs.content? next).isSome then
      if names.isEmpty then .ok next else .error .notDirectory
    else .error .missing

/-- **What a file holds**, by its written path. -/
def content (fs : Files) (text : String) : Except ReadError FileContent := do
  let (names, insists) := splitPath text
  let p ← fs.resolve names []
  match fs.content? p with
  | some c => if insists && !names.isEmpty then .error .notDirectory else .ok c
  | none => .error .isDirectory

/-- **The text of a file** by its written path. -/
def readText (fs : Files) (text : String) : Except ReadError String := do
  (← fs.content text).text

end Files

end Playback
