import Playback.Yaml.TokenStream

/-!
# Events of a stream

The tokens of a stream are grouped into documents, and those into nodes: scalars, sequences and
mappings with their anchors and tags. `Reader.next` makes one event at a time from the tokens and
a stack of the places to go on at.
-/

namespace Playback.Yaml

/-- **An event.** Collections have a start and an end; a node may have an anchor and a tag. -/
inductive Event where
  | streamStart
  | streamEnd
  | documentStart
  | documentEnd
  | alias (name : String)
  | scalar (anchor tag : Option String) (text : String) (isPlain : Bool)
  | sequenceStart (anchor tag : Option String)
  | sequenceEnd
  | mappingStart (anchor tag : Option String)
  | mappingEnd
  deriving DecidableEq, Repr, Inhabited

/-- **Where the grouping of tokens goes on.** -/
inductive Place where
  | streamStart
  | firstDocument
  | laterDocument
  | documentContent
  | documentEnd
  | blockNode
  | blockSequenceFirst
  | blockSequenceEntry
  | plainSequenceEntry
  | blockMappingFirst
  | blockMappingKey
  | blockMappingValue
  | flowSequenceFirst
  | flowSequenceEntry
  | flowPairKey
  | flowPairValue
  | flowPairEnd
  | flowMappingFirst
  | flowMappingKey
  | flowMappingValue
  | flowMappingEmptyValue
  | finished
  deriving DecidableEq, Repr, Inhabited

/-- **A reader of events.** -/
structure Reader where
  /-- The tokens. -/
  source : TokenStream
  /-- Where to go on. -/
  place : Place := .streamStart
  /-- Where to go on after the current node, and after those around it. -/
  stack : List Place := []
  /-- What the handles of tags stand for. -/
  handles : List (String × String) := []
  deriving Inhabited

namespace Reader

/-- The first token, settled. -/
def peek (r : Reader) : Option (Reader × Token) := do
  let s ← r.source.settle
  let t ← s.tokens.head?
  return ({ r with source := s }, t)

/-- Takes the first token away. -/
def skip (r : Reader) : Reader := { r with source := r.source.take }

/-- Goes on at a place. -/
def goto (r : Reader) (p : Place) : Reader := { r with place := p }

/-- Remembers to go on at a place after the next node. -/
def push (r : Reader) (p : Place) : Reader := { r with stack := p :: r.stack }

/-- Goes on where the innermost unfinished collection or document does. -/
def pop (r : Reader) : Reader :=
  match r.stack with
  | p :: stack => { r with place := p, stack }
  | [] => { r with place := .finished }

/-- A node that is not written. -/
def emptyScalar : Event := .scalar none none "" true

/-! ## Directives -/

/-- The handles that every document knows. -/
def standardHandles : List (String × String) := [("!", "!"), ("!!", "tag:yaml.org,2002:")]

/-- Reads the directives of a document. One version is allowed, and one meaning for each handle. -/
def directives : Nat → Reader → Bool → List (String × String) →
    Option (Reader × List (String × String))
  | 0, _, _, _ => none
  | fuel + 1, r, versioned, handles => do
    let (r, t) ← r.peek
    match t with
    | .versionDirective major minor =>
      if versioned || major != 1 || !(minor == 1 || minor == 2) then none
      else directives fuel r.skip true handles
    | .tagDirective handle stem =>
      if handles.any fun h => h.1 == handle then none
      else directives fuel r.skip versioned (handles ++ [(handle, stem)])
    | _ =>
      -- a directive may give a standard handle another meaning, which then stands
      let missing := standardHandles.filter fun h => !handles.any fun k => k.1 == h.1
      return (r, handles ++ missing)

/-! ## Nodes -/

/-- The full text of a tag. -/
def resolveTag (r : Reader) (handle suffix : String) : Option String :=
  if handle.isEmpty then some suffix
  else (r.handles.find? fun h => h.1 == handle).map fun h => h.2 ++ suffix

/-- Reads the anchor and the tag of a node, in either order. -/
def properties (r : Reader) : Option (Reader × Option String × Option (String × String)) := do
  let (r, t) ← r.peek
  match t with
  | .anchor name =>
    let (r, t) ← r.skip.peek
    match t with
    | .tag handle suffix => return (r.skip, some name, some (handle, suffix))
    | _ => return (r, some name, none)
  | .tag handle suffix =>
    let (r, t) ← r.skip.peek
    match t with
    | .anchor name => return (r.skip, some name, some (handle, suffix))
    | _ => return (r, none, some (handle, suffix))
  | _ => return (r, none, none)

/-- **A node.** Block collections are allowed in block nodes only; the entries of a sequence may
stand at the indentation of the mapping that holds it. -/
def node (r : Reader) (block indentless : Bool) : Option (Reader × Event) := do
  let (r, t) ← r.peek
  match t with
  | .alias name => return (r.pop.skip, .alias name)
  | _ =>
    let (r, anchor, tagParts) ← r.properties
    let tag ← match tagParts with
      | none => some none
      | some (handle, suffix) => (r.resolveTag handle suffix).map some
    let (r, t) ← r.peek
    match t with
    | .blockEntry =>
      -- a hyphen at the indentation of the mapping begins a sequence that has no start of its own
      if indentless then return (r.goto .plainSequenceEntry, .sequenceStart anchor tag)
      else if anchor.isSome || tag.isSome then return (r.pop, .scalar anchor tag "" true)
      else none
    | .scalar text isPlain =>
      -- the bare mark asks for nothing in particular
      let tag := if tag = some "!" then none else tag
      return (r.pop.skip, .scalar anchor tag text isPlain)
    | .flowSequenceStart => return (r.goto .flowSequenceFirst, .sequenceStart anchor tag)
    | .flowMappingStart => return (r.goto .flowMappingFirst, .mappingStart anchor tag)
    | .blockSequenceStart =>
      if block then return (r.goto .blockSequenceFirst, .sequenceStart anchor tag)
      else if anchor.isSome || tag.isSome then return (r.pop, .scalar anchor tag "" true)
      else none
    | .blockMappingStart =>
      if block then return (r.goto .blockMappingFirst, .mappingStart anchor tag)
      else if anchor.isSome || tag.isSome then return (r.pop, .scalar anchor tag "" true)
      else none
    | _ =>
      if anchor.isSome || tag.isSome then return (r.pop, .scalar anchor tag "" true) else none

/-! ## Documents -/

/-- The start of a document, or the end of the stream. The first document needs no mark. -/
def document (r : Reader) (first : Bool) : Option (Reader × Event) := do
  let rec dropEnds : Nat → Reader → Option (Reader × Token)
    | 0, _ => none
    | fuel + 1, r => do
      let (r, t) ← r.peek
      if !first && t = .documentEnd then dropEnds fuel r.skip else return (r, t)
  let (r, t) ← dropEnds (r.source.cursor.rest.length + r.source.tokens.length + 2) r
  let isExplicit : Bool := match t with
    | .versionDirective .. => true
    | .tagDirective .. => true
    | .documentStart => true
    | _ => false
  if t = .streamEnd then return ((r.goto .finished).skip, .streamEnd)
  -- without a mark the content begins at once, and only the first document may do so
  else if first && !isExplicit then
    return ({ r with handles := standardHandles, place := .blockNode }.push .documentEnd,
      .documentStart)
  else
    let fuel := r.source.cursor.rest.length + r.source.tokens.length + 2
    let (r, handles) ← directives fuel r false []
    let (r, t) ← r.peek
    if t = .documentStart then
      return (({ r with handles, place := .documentContent }.push .documentEnd).skip,
        .documentStart)
    else none

/-- The content of a document with a mark, which may be missing. -/
def documentContent (r : Reader) : Option (Reader × Event) := do
  let (r, t) ← r.peek
  let isMissing : Bool := match t with
    | .versionDirective .. => true
    | .tagDirective .. => true
    | .documentStart => true
    | .documentEnd => true
    | .streamEnd => true
    | _ => false
  if isMissing then return (r.pop, emptyScalar) else r.node true false

/-- The end of a document. -/
def documentEnd (r : Reader) : Option (Reader × Event) := do
  let (r, t) ← r.peek
  let r := if t = .documentEnd then r.skip else r
  return ({ r with place := .laterDocument, handles := [] }, .documentEnd)

/-! ## Block collections -/

/-- An entry or the end of a block sequence. -/
def blockSequence (r : Reader) : Option (Reader × Event) := do
  let (r, t) ← r.peek
  if t = .blockEntry then
    let (r, t) ← r.skip.peek
    if t = .blockEntry ∨ t = .blockEnd then return (r.goto .blockSequenceEntry, emptyScalar)
    else (r.push .blockSequenceEntry).node true false
  else if t = .blockEnd then return (r.pop.skip, .sequenceEnd)
  else none

/-- An entry or the end of a sequence without indentation of its own. -/
def plainSequence (r : Reader) : Option (Reader × Event) := do
  let (r, t) ← r.peek
  if t = .blockEntry then
    let (r, t) ← r.skip.peek
    if t = .blockEntry ∨ t = .key ∨ t = .value ∨ t = .blockEnd then
      return (r.goto .plainSequenceEntry, emptyScalar)
    else (r.push .plainSequenceEntry).node true false
  else return (r.pop, .sequenceEnd)

/-- A key or the end of a block mapping. -/
def blockKey (r : Reader) : Option (Reader × Event) := do
  let (r, t) ← r.peek
  if t = .key then
    let (r, t) ← r.skip.peek
    if t = .key ∨ t = .value ∨ t = .blockEnd then return (r.goto .blockMappingValue, emptyScalar)
    else (r.push .blockMappingValue).node true true
  else if t = .blockEnd then return (r.pop.skip, .mappingEnd)
  else none

/-- A value of a block mapping. -/
def blockValue (r : Reader) : Option (Reader × Event) := do
  let (r, t) ← r.peek
  if t = .value then
    let (r, t) ← r.skip.peek
    if t = .key ∨ t = .value ∨ t = .blockEnd then return (r.goto .blockMappingKey, emptyScalar)
    else (r.push .blockMappingKey).node true true
  else return (r.goto .blockMappingKey, emptyScalar)

/-! ## Flow collections -/

/-- An item or the end of a flow sequence. -/
def flowSequence (r : Reader) (first : Bool) : Option (Reader × Event) := do
  let (r, t) ← r.peek
  if t = .flowSequenceEnd then return (r.pop.skip, .sequenceEnd)
  else
    let (r, t) ←
      if first then some (r, t)
      else if t = .flowEntry then r.skip.peek
      else none
    if t = .key then return ((r.goto .flowPairKey).skip, .mappingStart none none)
    else if t = .flowSequenceEnd then return (r.pop.skip, .sequenceEnd)
    else (r.push .flowSequenceEntry).node false false

/-- The key of a pair in a flow sequence. -/
def flowPairKey (r : Reader) : Option (Reader × Event) := do
  let (r, t) ← r.peek
  if t = .value ∨ t = .flowEntry ∨ t = .flowSequenceEnd then
    -- the token that shows the key to be missing is taken with it, even a comma or a bracket
    return ((r.goto .flowPairValue).skip, emptyScalar)
  else (r.push .flowPairValue).node false false

/-- The value of a pair in a flow sequence. -/
def flowPairValue (r : Reader) : Option (Reader × Event) := do
  let (r, t) ← r.peek
  if t = .value then
    let (r, t) ← r.skip.peek
    if t = .flowEntry ∨ t = .flowSequenceEnd then return (r.goto .flowPairEnd, emptyScalar)
    else (r.push .flowPairEnd).node false false
  else return (r.goto .flowPairEnd, emptyScalar)

/-- A key or the end of a flow mapping. -/
def flowKey (r : Reader) (first : Bool) : Option (Reader × Event) := do
  let (r, t) ← r.peek
  if t = .flowMappingEnd then return (r.pop.skip, .mappingEnd)
  else
    let (r, t) ←
      if first then some (r, t)
      else if t = .flowEntry then r.skip.peek
      else none
    if t = .key then
      let (r, t) ← r.skip.peek
      if t = .value ∨ t = .flowEntry ∨ t = .flowMappingEnd then
        return (r.goto .flowMappingValue, emptyScalar)
      else (r.push .flowMappingValue).node false false
    else if t = .flowMappingEnd then return (r.pop.skip, .mappingEnd)
    -- no key was recognised here: the node is a key without a value
    else (r.push .flowMappingEmptyValue).node false false

/-- A value of a flow mapping. -/
def flowValue (r : Reader) (empty : Bool) : Option (Reader × Event) := do
  let (r, t) ← r.peek
  if !empty && t = .value then
    let (r, t) ← r.skip.peek
    if t = .flowEntry ∨ t = .flowMappingEnd then return (r.goto .flowMappingKey, emptyScalar)
    else (r.push .flowMappingKey).node false false
  else return (r.goto .flowMappingKey, emptyScalar)

/-- **The next event**, `none` where the stream is malformed. -/
def next (r : Reader) : Option (Reader × Event) :=
  match r.place with
  | .streamStart => do
    let (r, _) ← r.peek
    return ((r.goto .firstDocument).skip, .streamStart)
  | .firstDocument => r.document true
  | .laterDocument => r.document false
  | .documentContent => r.documentContent
  | .documentEnd => r.documentEnd
  | .blockNode => r.node true false
  | .blockSequenceFirst => do
    let (r, _) ← r.peek
    r.skip.blockSequence
  | .blockSequenceEntry => r.blockSequence
  | .plainSequenceEntry => r.plainSequence
  | .blockMappingFirst => do
    let (r, _) ← r.peek
    r.skip.blockKey
  | .blockMappingKey => r.blockKey
  | .blockMappingValue => r.blockValue
  | .flowSequenceFirst => do
    let (r, _) ← r.peek
    r.skip.flowSequence true
  | .flowSequenceEntry => r.flowSequence false
  | .flowPairKey => r.flowPairKey
  | .flowPairValue => r.flowPairValue
  | .flowPairEnd => some (r.goto .flowSequenceEntry, .mappingEnd)
  | .flowMappingFirst => do
    let (r, _) ← r.peek
    r.skip.flowKey true
  | .flowMappingKey => r.flowKey false
  | .flowMappingValue => r.flowValue false
  | .flowMappingEmptyValue => r.flowValue true
  | .finished => some (r, .streamEnd)

end Reader

end Playback.Yaml
