import Playback.Json.Reader

/-!
# Decoding documents

Records are decoded from documents, entry by entry in the order of the text, and the first problem
decides:

* `Fault.malformed` — the text breaks off or denotes no value where one is needed;
* `Fault.mismatch` — the text is well formed and does not fit.

A record is a mapping from field names, or a list of its fields in declaration order; unknown
fields are skipped and a known field may be given once. `Slots` hold the documents of the fields;
`slots` fills them while checking each one.

The `Origin` of a document decides three points: what becomes of a list with too many items, which
values may stand for a member of a vocabulary, and whether a field may be addressed by position.
-/

namespace Playback

/-- **Why a document does not decode.** -/
inductive Fault where
  /-- The text is not well formed, or denotes no value where one is needed. -/
  | malformed
  /-- The text is well formed and does not fit. -/
  | mismatch
  deriving DecidableEq, Repr, Inhabited

/-- **Where a document comes from.** -/
inductive Origin where
  /-- Read directly from JSON text. -/
  | text
  /-- Read as a whole before it is known what it stands for. -/
  | buffered
  /-- A JSON value in memory. -/
  | value
  /-- A configuration table. -/
  | table
  deriving DecidableEq, Repr, Inhabited

namespace Wire

/-- A decoded value, or why there is none. -/
abbrev Result (α : Type) := Except Fault α

/-- The fault of a document that should have been something else. -/
def refuse (d : Document) : Fault :=
  match d with
  | .damaged => .malformed
  | .unreadable => .malformed
  | _ => .mismatch

/-! ## Scalars -/

/-- A text. -/
def text : Document → Result String
  | .str s => .ok s
  | d => .error (refuse d)

/-- A truth value. -/
def boolean : Document → Result Bool
  | .bool b => .ok b
  | d => .error (refuse d)

/-- A natural number below a bound. -/
def natBelow (bound : Nat) : Document → Result Nat
  | .int n => if 0 ≤ n ∧ n < bound then .ok n.toNat else .error .mismatch
  | d => .error (refuse d)

/-- A number of 32 bits. -/
def word32 (d : Document) : Result UInt32 := (natBelow (Nat.pow 2 32) d).map UInt32.ofNat

/-- A number of 64 bits. -/
def word64 (d : Document) : Result Nat := natBelow (Nat.pow 2 64) d

/-- A value that may be absent. -/
def optional {α : Type} (decode : Document → Result α) : Document → Result (Option α)
  | .null => .ok none
  | d => (decode d).map some

/-! ## Collections -/

/-- A list. -/
def listOf {α : Type} (decode : Document → Result α) : Document → Result (List α)
  | .list items => items.mapM decode
  | d => .error (refuse d)

/-- Assigns the entries of a mapping in order. -/
def dictEntries {α : Type} (decode : Document → Result α) :
    List (Document × Document) → Dict α → Result (Dict α)
  | [], d => .ok d
  | (key, value) :: entries, d => do
    let k ← text key
    let v ← decode value
    dictEntries decode entries (d.insert k v)

/-- A mapping from texts; the last value of a key wins. -/
def dictOf {α : Type} (decode : Document → Result α) : Document → Result (Dict α)
  | .map entries => dictEntries decode entries Dict.empty
  | d => .error (refuse d)

mutual

/-- **Any JSON value**, in canonical form: fields sorted, the last value of a name kept, and
`null` for a number that is not finite. -/
def json : Document → Result Json
  | .null => .ok .null
  | .bool b => .ok (.bool b)
  | .int n => .ok (.int n)
  | .float x => .ok (Json.ofFloat x)
  | .str s => .ok (.str s)
  | .list items => do return .arr (← jsonItems items)
  | .map entries => do return .obj (← jsonFields entries [])
  | .damaged => .error .malformed
  | .unreadable => .error .malformed

/-- The items of an array. -/
def jsonItems : List Document → Result (List Json)
  | [] => .ok []
  | item :: items => do
    let v ← json item
    let vs ← jsonItems items
    return v :: vs

/-- The fields of an object, put in their places. -/
def jsonFields : List (Document × Document) → List (String × Json) → Result (List (String × Json))
  | [], fields => .ok fields
  | (key, value) :: entries, fields => do
    let k ← text key
    let v ← json value
    jsonFields entries (Dict.insertEntry k v fields)

end

/-! ## Vocabularies -/

/-- The member with a name. -/
def member {α : Type} (members : List (String × α)) (name : Document) : Result α := do
  let s ← text name
  match Dict.lookup s members with
  | some a => .ok a
  | none => .error .mismatch

/-- Whether a document may accompany the name of a member that carries nothing. -/
def isUnit (origin : Origin) : Document → Bool
  | .null => origin != .table
  | .map [] => origin == .buffered || origin == .table
  | .list [] => origin == .table
  | _ => false

/-- **A member of a vocabulary**: its name, or a mapping of its name to nothing. Where a text is
read directly, another kind of value is not even well formed. -/
def choice {α : Type} (members : List (String × α)) (origin : Origin) : Document → Result α
  | .str s => member members (.str s)
  | .map [(name, payload)] => do
    let a ← member members name
    if isUnit origin payload then .ok a else .error (refuse payload)
  | .map ((name, payload) :: _) =>
    if origin = .text then do
      let _ ← member members name
      -- the first entry is examined before the second one is met
      if isUnit origin payload then .error .malformed else .error (refuse payload)
    else .error .mismatch
  | d => if origin = .text then .error .malformed else .error (refuse d)

/-! ## Records -/

/-- **A field of a record**: its name, and the check that its document must pass. -/
structure Field where
  /-- The name of the field. -/
  name : String
  /-- Whether a document decodes as the field. -/
  check : Document → Result Unit

/-- A field that is decoded by a function. -/
def field {α : Type} (name : String) (decode : Document → Result α) : Field :=
  ⟨name, fun d => (decode d).map fun _ => ()⟩

/-- **The documents of a record's fields**, by position. -/
abbrev Slots := List (Option Document)

/-- The position that a key addresses. Positions themselves are keys in buffered documents. -/
def position (fields : List Field) : Document → Result (Option Nat)
  | .str s => .ok (fields.findIdx? fun f => f.name == s)
  | .int n =>
    if 0 ≤ n then .ok (if n < fields.length then some n.toNat else none) else .error .mismatch
  | d => .error (refuse d)

/-- Fills slots with the entries of a mapping. -/
def fillEntries (fields : List Field) : List (Document × Document) → Slots → Result Slots
  | [], slots => .ok slots
  | (key, value) :: entries, slots => do
    match ← position fields key with
    | none =>
      match value with
      | .damaged => .error .malformed
      | _ => fillEntries fields entries slots
    | some i =>
      match slots[i]?, fields[i]? with
      | some none, some f =>
        f.check value
        fillEntries fields entries (slots.set i (some value))
      | _, _ => .error .mismatch

/-- Fills slots with the items of a list, in declaration order. Only in a configuration table may
there be more items than fields: the last ones are not looked at. -/
def fillItems (origin : Origin) : List Field → List Document → Result Slots
  | fields, [] => .ok (fields.map fun _ => none)
  | [], _ :: _ =>
    match origin with
    | .table => .ok []
    | .text => .error .malformed
    | .buffered | .value => .error .mismatch
  | f :: fields, item :: items => do
    f.check item
    let slots ← fillItems origin fields items
    return some item :: slots

/-- **The slots of a record**, each checked. -/
def slots (origin : Origin) (fields : List Field) : Document → Result Slots
  | .map entries => fillEntries fields entries (fields.map fun _ => none)
  | .list items => fillItems origin fields items
  | d => .error (refuse d)

namespace Slots

/-- A field that must be given. -/
def required {α : Type} (s : Slots) (i : Nat) (decode : Document → Result α) : Result α :=
  match s[i]? with
  | some (some d) => decode d
  | _ => .error .mismatch

/-- A field with a default. -/
def defaulted {α : Type} (s : Slots) (i : Nat) (decode : Document → Result α) (default : α) :
    Result α :=
  match s[i]? with
  | some (some d) => decode d
  | _ => .ok default

/-- A field that may be left out or `null`. -/
def optional {α : Type} (s : Slots) (i : Nat) (decode : Document → Result α) :
    Result (Option α) :=
  s.defaulted i (Wire.optional decode) none

end Slots

/-! ## Texts -/

/-- **Decodes a JSON text.** Nothing but blanks may follow the value. -/
def ofText {α : Type} (decode : Origin → Document → Result α) (s : String) : Result α := do
  let (d, more) := Json.read s
  let a ← decode .text d
  if more then .error .malformed else .ok a

/-- Decodes a JSON value. -/
def ofJson {α : Type} (decode : Origin → Document → Result α) (v : Json) : Result α :=
  decode .value (Document.ofJson v)

end Wire

end Playback
