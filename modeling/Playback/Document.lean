import Playback.Json.Value

/-!
# Documents

Scripts, records and configuration files arrive in several data formats. A `Document` is what
all of them are read into: the tree of a value, with mapping keys of any kind and with entries in
the order of the text, repetitions included. Two leaves tell where a text goes wrong:

* `damaged` — the text breaks off here, nothing after it could be read;
* `unreadable` — well-formed text that denotes no value, such as a number beyond all bounds; it
  does no harm where it is skipped.

`Document.toJson?` reads a document back as a JSON value; `Document.ofJson` embeds the values.
-/

namespace Playback

/-- **A document**: the tree that the text of a data format denotes. -/
inductive Document where
  | null
  | bool (value : Bool)
  | int (value : Int)
  | float (value : Binary64)
  | str (value : String)
  | list (items : List Document)
  | map (entries : List (Document × Document))
  | damaged
  | unreadable
  deriving Inhabited, Repr

namespace Document

mutual

/-- **The document of a JSON value.** -/
def ofJson : Json → Document
  | .null => null
  | .bool b => bool b
  | .int n => int n
  | .float x => float x
  | .str s => str s
  | .arr items => list (ofJsonItems items)
  | .obj fields => map (ofJsonFields fields)

/-- The documents of the items of an array. -/
def ofJsonItems : List Json → List Document
  | [] => []
  | item :: items => ofJson item :: ofJsonItems items

/-- The documents of the fields of an object. -/
def ofJsonFields : List (String × Json) → List (Document × Document)
  | [] => []
  | (name, value) :: fields => (str name, ofJson value) :: ofJsonFields fields

end

mutual

/-- **Soundness of a text**: no leaf of the document is damaged or unreadable. -/
def isSound : Document → Bool
  | damaged => false
  | unreadable => false
  | list items => areSound items
  | map entries => entriesSound entries
  | null => true
  | bool _ => true
  | int _ => true
  | float _ => true
  | str _ => true

/-- All items are sound. -/
def areSound : List Document → Bool
  | [] => true
  | item :: items => isSound item && areSound items

/-- All keys and values are sound. -/
def entriesSound : List (Document × Document) → Bool
  | [] => true
  | (key, value) :: entries => isSound key && isSound value && entriesSound entries

end

end Document

end Playback
