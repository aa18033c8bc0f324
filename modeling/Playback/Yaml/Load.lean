import Playback.Yaml.Event
import Playback.Yaml.Resolve

/-!
# Loading a stream

`Yaml.load` reads the first document of a stream. A node may refer to an earlier one by its
anchor; what an alias stands for is decided when the whole document was read. Nodes may be nested
128 levels deep, aliases may be followed a limited number of times, and tags of the stream's own
are refused.
-/

namespace Playback.Yaml

/-- **A node's event**, with aliases by the number of their anchor. -/
inductive Entry where
  | alias (number : Nat)
  | scalar (tag : Option String) (text : String) (isPlain : Bool)
  | sequenceStart (tag : Option String)
  | sequenceEnd
  | mappingStart (tag : Option String)
  | mappingEnd
  deriving Inhabited, Repr

/-- **The events of one document.** -/
structure Outline where
  /-- The events read. -/
  entries : Array Entry := #[]
  /-- The numbers of the anchors' names. Their count numbers the next anchor, so that a name given
  twice makes two names share a number later on. -/
  names : List (String × Nat) := []
  /-- Where the node of each number stands; the latest place counts. -/
  places : List (Nat × Nat) := []
  /-- Whether reading stopped at an error. -/
  broken : Bool := false
  deriving Inhabited

namespace Outline

/-- Notes an anchor of the next node. -/
def anchored (o : Outline) : Option String → Outline
  | none => o
  | some name =>
    let number := o.names.length
    let others := o.names.filter fun n => n.1 != name
    { o with names := (name, number) :: others, places := (number, o.entries.size) :: o.places }

/-- Appends an event. -/
def push (o : Outline) (e : Entry) : Outline := { o with entries := o.entries.push e }

/-- Where the node of a number stands. -/
def place? (o : Outline) (number : Nat) : Option Nat :=
  (o.places.find? fun p => p.1 == number).map (·.2)

/-- Reads events up to the end of a document. The second part is the reader for what follows,
if anything can. -/
def read : Nat → Reader → Outline → Outline × Option Reader
  | 0, _, o => ({ o with broken := true }, none)
  | fuel + 1, r, o =>
    match r.next with
    | none => ({ o with broken := true }, none)
    | some (r, e) =>
      match e with
      | .streamStart => read fuel r o
      | .documentStart => read fuel r o
      | .streamEnd => (o, none)
      | .documentEnd => (o, some r)
      | .alias name =>
        match o.names.find? fun n => n.1 == name with
        | some (_, number) => read fuel r (o.push (.alias number))
        | none => ({ o with broken := true }, none)
      | .scalar anchor tag text isPlain =>
        read fuel r ((o.anchored anchor).push (.scalar tag text isPlain))
      | .sequenceStart anchor tag => read fuel r ((o.anchored anchor).push (.sequenceStart tag))
      | .sequenceEnd => read fuel r (o.push .sequenceEnd)
      | .mappingStart anchor tag => read fuel r ((o.anchored anchor).push (.mappingStart tag))
      | .mappingEnd => read fuel r (o.push .mappingEnd)

end Outline

/-! ## Documents -/

/-- Collections may be nested this deep. -/
def maxDepth : Nat := 128

/-- A tag of the stream's own. -/
def isOwnTag (tag : Option String) : Bool := tag.any fun t => t.toList.head? == some '!'

/-- What building a document has used up: the place reached, and how many aliases were followed. -/
structure Progress where
  /-- The next event. -/
  at_ : Nat
  /-- How many aliases were followed. -/
  jumps : Nat
  deriving Inhabited

mutual

/-- Builds a node. `room` is how many levels of collections may still be opened. -/
def buildNode (o : Outline) : Nat → Nat → Progress → Option (Document × Progress)
  | 0, _, _ => none
  | fuel + 1, room, p =>
    match o.entries[p.at_]? with
    | none => none
    | some entry =>
      let next := { p with at_ := p.at_ + 1 }
      match entry with
      | .alias number => do
        let jumps := p.jumps + 1
        -- aliases of aliases multiply; this bound keeps a short text from becoming a huge document
        if o.entries.size * 100 < jumps then none
        else
          let target ← o.place? number
          let (d, p) ← buildNode o fuel room { at_ := target, jumps }
          -- go on after the alias, not after the node it stands for
          return (d, { next with jumps := p.jumps })
      | .scalar tag text isPlain =>
        if isOwnTag tag then none else (resolve tag text isPlain).map fun d => (d, next)
      | .sequenceStart tag =>
        if isOwnTag tag || room == 0 then none
        else do
          let (items, p) ← buildItems o fuel (room - 1) next
          return (.list items, p)
      | .mappingStart tag =>
        if isOwnTag tag || room == 0 then none
        else do
          let (entries, p) ← buildEntries o fuel (room - 1) next
          return (.map entries, p)
      | .sequenceEnd => none
      | .mappingEnd => none

/-- Builds the items of a sequence. -/
def buildItems (o : Outline) : Nat → Nat → Progress → Option (List Document × Progress)
  | 0, _, _ => none
  | fuel + 1, room, p =>
    match o.entries[p.at_]? with
    | some .sequenceEnd => some ([], { p with at_ := p.at_ + 1 })
    | _ => do
      let (item, p) ← buildNode o fuel room p
      let (items, p) ← buildItems o fuel room p
      return (item :: items, p)

/-- Builds the entries of a mapping. -/
def buildEntries (o : Outline) :
    Nat → Nat → Progress → Option (List (Document × Document) × Progress)
  | 0, _, _ => none
  | fuel + 1, room, p =>
    match o.entries[p.at_]? with
    | some .mappingEnd => some ([], { p with at_ := p.at_ + 1 })
    | _ => do
      let (key, p) ← buildNode o fuel room p
      let (value, p) ← buildNode o fuel room p
      let (entries, p) ← buildEntries o fuel room p
      return ((key, value) :: entries, p)

end

/-- **A loaded stream.** -/
structure Loaded where
  /-- The first document, `none` if it could not be read to the end of its root node. -/
  document : Option Document
  /-- Whether the stream is one well-formed document and nothing else. -/
  isSingle : Bool
  deriving Inhabited

/-- **Loads a stream.** An empty stream holds `null`. -/
def load (text : String) : Loaded :=
  let source := TokenStream.ofText text
  if source.cursor.rest.any fun c => !isAllowed c then { document := none, isSingle := false }
  else
    let length := source.cursor.rest.length
    let (o, following) := Outline.read (16 * length + 64) { source } {}
    let document :=
      -- the fuel is enough: few levels, and at each no more items than there are entries
      if o.entries.isEmpty && !o.broken then some .null
      else (buildNode o (130 * (o.entries.size + 2)) maxDepth { at_ := 0, jumps := 0 }).map (·.1)
    let isLast := match following with
      | none => true
      | some r => match r.next with
        | some (_, .streamEnd) => true
        | _ => false
    { document, isSingle := !o.broken && isLast }

end Playback.Yaml
