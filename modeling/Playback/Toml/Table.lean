import Playback.Document
import Playback.Dict

/-!
# Tables of TOML

Tables come about in pieces: by headers, by dotted keys, by inline tables. A table has one
definition; only tables that came about on the way to others may be defined later.

* `Item` — **what stands under a key**: a value, a table, or a list of tables;
* `Item.define` — a key and its value;
* `Item.openTable`, `Item.openListed` — the headers.
-/

namespace Playback.Toml

/-- **What stands under a key.** A table is `onTheWay` if it was not defined itself, and `dotted` if
it came about by a dotted key. -/
inductive Item where
  | value (document : Document)
  | table (onTheWay dotted : Bool) (entries : List (String × Item))
  | listed (tables : List (List (String × Item)))

/-- The entries of a table. -/
abbrev Entries := List (String × Item)

namespace Item

/-- The item under a key. -/
def find? (key : String) (es : Entries) : Option Item :=
  (es.find? fun e => e.1 == key).map (·.2)

/-- Puts an item in the place of the one under a key. -/
def replace (key : String) (item : Item) (es : Entries) : Entries :=
  es.map fun e => if e.1 == key then (key, item) else e

/-- **Changes the table at a path.** Tables that are missing come about on the way. A dotted key
does not lead into a table that has its definition. -/
def descend (dotted : Bool) (change : Bool → Entries → Option Entries) :
    List String → Bool → Entries → Option Entries
  | [], isDotted, es => change isDotted es
  | key :: path, _, es =>
    match find? key es with
    | none => do
      let inner ← descend dotted change path dotted []
      some (es ++ [(key, .table true dotted inner)])
    | some (.value _) => none
    | some (.listed tables) => do
      -- below a list of tables a path leads into the latest of them
      let inner ← descend dotted change path false (tables.getLast?.getD [])
      some (replace key (.listed (tables.dropLast ++ [inner])) es)
    | some (.table onTheWay isDotted inner) =>
      if dotted && !onTheWay then none
      else do
        let inner ← descend dotted change path isDotted inner
        some (replace key (.table onTheWay isDotted inner) es)

/-- **Gives a key its value** in a table: each key once, and dotted keys only into tables that came
about by dotted keys. -/
def define (path : List String) (key : String) (d : Document) (isDotted : Bool)
    (es : Entries) : Option Entries :=
  descend true (fun dottedHere es =>
    -- a plain key does not go into a dotted table, nor a dotted key into any other
    if dottedHere = path.isEmpty then none
    else if (find? key es).isSome then none
    else some (es ++ [(key, .value d)])) path isDotted es

/-- **Defines the table** of a header. -/
def openTable (path : List String) (key : String) (es : Entries) : Option Entries :=
  descend false (fun _ es =>
    match find? key es with
    | none => some (es ++ [(key, .table false false [])])
    | some (.table true false inner) => some (replace key (.table false false inner) es)
    | some _ => none) path false es

/-- **Adds a table to a list** of tables, by a header in double brackets. -/
def openListed (path : List String) (key : String) (es : Entries) : Option Entries :=
  descend false (fun _ es =>
    match find? key es with
    | none => some (es ++ [(key, .listed [[]])])
    | some (.listed tables) => some (replace key (.listed (tables ++ [[]])) es)
    | some _ => none) path false es

mutual

/-- The document of an item. -/
def document : Item → Document
  | .value d => d
  | .table _ _ es => .map (entries es)
  | .listed tables => .list (documents tables)

/-- The documents of some tables. -/
def documents : List (List (String × Item)) → List Document
  | [] => []
  | es :: rest => .map (entries es) :: documents rest

/-- The entries of a table as entries of a document. -/
def entries : List (String × Item) → List (Document × Document)
  | [] => []
  | (key, item) :: rest => (.str key, document item) :: entries rest

end

end Item

end Playback.Toml
