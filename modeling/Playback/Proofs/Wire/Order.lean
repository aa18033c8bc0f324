import Playback.Proofs.Wire.Record
import Playback.Wire.Event
import Playback.Wire.Step

/-!
# The order of fields

A mapping says the same in whatever order its entries stand. What was written for a record is
therefore decoded alike from its text, where the fields stand as they were declared, and from a value
in memory, where they are sorted.

* `Wire.Fills`, `Wire.fillEntries_perm` — what one entry does to the slots of a record, and that
  **entries may be taken in any order**;
* `Wire.Unordered` — **decoders that do not heed the order**; all records and messages have such;
* `Wire.exists_json_obj` — **an object taken up as a value** is the object with its fields rearranged;
* `Wire.ReadsAs` — what is read both ways as the same.
-/

namespace Playback

namespace Dict

/-- A new entry is one entry more. -/
theorem perm_insertEntry {α : Type} {key : String} {value : α} {entries : List (String × α)}
    (new : ∀ e ∈ entries, e.1 ≠ key) :
    (insertEntry key value entries).Perm ((key, value) :: entries) := by
  induction entries with
  | nil => exact .refl _
  | cons head rest ih =>
    obtain ⟨k, v⟩ := head
    obtain ⟨other, others⟩ := List.forall_mem_cons.1 new
    rw [insertEntry]
    split
    · exact .refl _
    · exact ((ih others).cons _).trans (.swap _ _ _)

end Dict

namespace Wire

/-! ## Entries in any order -/

/-- **What one entry does to the slots of a record**: it fills the slot of its field, which must be
empty, or is skipped if there is no such field. -/
inductive Fills (fields : List Field) (entry : Document × Document) : Slots → Slots → Prop where
  | skipped {s : Slots} (unknown : position fields entry.1 = .ok none)
      (whole : entry.2 ≠ .damaged) : Fills fields entry s s
  | filled {s : Slots} {i : Nat} {f : Field} (known : position fields entry.1 = .ok (some i))
      (empty : s[i]? = some none) (field_eq : fields[i]? = some f)
      (checked : f.check entry.2 = .ok ()) : Fills fields entry s (s.set i (some entry.2))

/-- What follows a result that is there goes on with it. -/
theorem bind_eq_ok {α β : Type} {x : Result α} {f : α → Result β} {b : β} :
    (x >>= f) = .ok b ↔ ∃ a, x = .ok a ∧ f a = .ok b := by
  cases x with
  | error e =>
    constructor
    · intro h
      exact nomatch h
    · rintro ⟨_, h, -⟩
      exact nomatch h
  | ok a =>
    constructor
    · intro h
      exact ⟨a, rfl, h⟩
    · rintro ⟨_, same, h⟩
      obtain rfl := Except.ok.inj same
      exact h

variable {fields : List Field} {entry other : Document × Document}
  {entries entries' : List (Document × Document)} {s s₁ s₂ filled : Slots}

/-- **Entries are taken one after the other.** -/
theorem fillEntries_cons : fillEntries fields (entry :: entries) s = .ok filled ↔
    ∃ s', Fills fields entry s s' ∧ fillEntries fields entries s' = .ok filled := by
  obtain ⟨key, value⟩ := entry
  change (position fields key >>= fun place => _) = _ ↔ _
  rw [bind_eq_ok]
  constructor
  · rintro ⟨place, found, rest⟩
    cases place with
    | none =>
      dsimp only at rest
      split at rest
      · exact nomatch rest
      · exact ⟨s, .skipped found ‹_›, rest⟩
    | some i =>
      dsimp only at rest
      split at rest
      · obtain ⟨_, checked, rest⟩ := bind_eq_ok.1 rest
        exact ⟨_, .filled found ‹_› ‹_› checked, rest⟩
      · exact nomatch rest
  · rintro ⟨s', fills, rest⟩
    cases fills with
    | skipped unknown whole =>
      refine ⟨none, unknown, ?_⟩
      dsimp only
      split
      · exact absurd rfl whole
      · exact rest
    | filled known empty field_eq checked =>
      refine ⟨_, known, ?_⟩
      simp only [empty, field_eq]
      exact bind_eq_ok.2 ⟨(), checked, rest⟩

/-- **Two entries may change places**: they do not fill the same slot. -/
theorem Fills.swap (first : Fills fields entry s s₁) (second : Fills fields other s₁ s₂) :
    ∃ s₁', Fills fields other s s₁' ∧ Fills fields entry s₁' s₂ := by
  cases first with
  | skipped unknown whole => exact ⟨s₂, second, .skipped unknown whole⟩
  | @filled i f known empty field_eq checked =>
    cases second with
    | skipped unknown whole => exact ⟨s, .skipped unknown whole, .filled known empty field_eq checked⟩
    | @filled j g known' empty' field_eq' checked' =>
      have distinct : i ≠ j := by
        rintro rfl
        obtain ⟨bound, -⟩ := List.getElem?_eq_some_iff.1 empty
        simp [bound] at empty'
      rw [List.getElem?_set_ne distinct] at empty'
      refine ⟨s.set j (some other.2), .filled known' empty' field_eq' checked', ?_⟩
      rw [List.set_comm _ _ distinct]
      exact .filled known (by rwa [List.getElem?_set_ne distinct.symm]) field_eq checked

/-- **Entries fill the same slots in any order.** -/
theorem fillEntries_perm (perm : entries.Perm entries')
    (h : fillEntries fields entries s = .ok filled) :
    fillEntries fields entries' s = .ok filled := by
  induction perm generalizing s with
  | nil => exact h
  | cons entry _ ih =>
    obtain ⟨s', fills, rest⟩ := fillEntries_cons.1 h
    exact fillEntries_cons.2 ⟨s', fills, ih rest⟩
  | swap x y entries =>
    obtain ⟨s₁, first, h₁⟩ := fillEntries_cons.1 h
    obtain ⟨s₂, second, rest⟩ := fillEntries_cons.1 h₁
    obtain ⟨s₁', first', second'⟩ := first.swap second
    exact fillEntries_cons.2 ⟨s₁', first', fillEntries_cons.2 ⟨s₂, second', rest⟩⟩
  | trans _ _ ih ih' => exact ih' (ih h)

/-! ## Decoders -/

/-- **A decoder that does not heed the order** of the entries of a mapping. -/
def Unordered {α : Type} (decode : Document → Result α) : Prop :=
  ∀ (entries entries' : List (Document × Document)) (a : α), entries.Perm entries' →
    decode (.map entries) = .ok a → decode (.map entries') = .ok a

/-- The slots of a record do not depend on the order. -/
theorem unordered_slots (origin : Origin) (fields : List Field) : Unordered (slots origin fields) :=
  fun _ _ _ perm h => fillEntries_perm perm h

/-- What is made of them does not either. -/
theorem Unordered.bind {α β : Type} {decode : Document → Result α} (h : Unordered decode)
    (f : α → Result β) : Unordered fun d => decode d >>= f := by
  intro entries entries' b perm decoded
  obtain ⟨a, first, rest⟩ := bind_eq_ok.1 decoded
  exact bind_eq_ok.2 ⟨a, h _ _ a perm first, rest⟩

end Wire

open Wire

/-- A selector may have its fields in any order. -/
theorem Selector.unordered_decode (origin : Origin) : Unordered (Selector.decode origin) :=
  (unordered_slots origin Selector.fields).bind _

/-- So may a step. -/
theorem StepRecord.unordered_decode (origin : Origin) : Unordered (StepRecord.decode origin) :=
  (unordered_slots origin (StepRecord.fields origin)).bind _

/-- So may an event. -/
theorem ProgressEvent.unordered_decode (origin : Origin) : Unordered (ProgressEvent.decode origin) :=
  (unordered_slots origin (ProgressEvent.fields origin)).bind _

/-- So may a summary. -/
theorem RunSummary.unordered_decode (origin : Origin) : Unordered (RunSummary.decode origin) :=
  (unordered_slots origin (RunSummary.fields origin)).bind _

namespace StreamMessage

/-- **What one entry does to the split of a message**: it tells the kind, which must not be known
yet, or is put aside. -/
inductive Splits (entry : Document × Document) :
    Option Kind → Option Kind → List (Document × Document) → Prop where
  | told {kind : Kind} (tag : text entry.1 = .ok "type")
      (named : member kinds entry.2 = .ok kind) : Splits entry none (some kind) []
  | aside {kind : Option Kind} {name : String} (named : text entry.1 = .ok name)
      (other : name ≠ "type") (sound : entry.2.isSound = true) : Splits entry kind kind [entry]

/-- **A message is split entry by entry.** -/
theorem splitEntries_cons {entry : Document × Document} {entries rest : List (Document × Document)}
    {before after : Option Kind} : splitEntries (entry :: entries) before = .ok (after, rest) ↔
      ∃ between kept later, Splits entry before between kept ∧
        splitEntries entries between = .ok (after, later) ∧ rest = kept ++ later := by
  obtain ⟨key, value⟩ := entry
  change (text key >>= fun name => _) = _ ↔ _
  rw [bind_eq_ok]
  constructor
  · rintro ⟨name, named, h⟩
    by_cases tag : name = "type"
    · rw [if_pos tag] at h
      cases before with
      | some kind => exact nomatch h
      | none =>
        obtain ⟨kind, known, h⟩ := bind_eq_ok.1 h
        exact ⟨some kind, [], rest, .told (tag ▸ named) known, h, rfl⟩
    · rw [if_neg tag] at h
      split at h
      · obtain ⟨⟨after', later⟩, split, same⟩ := bind_eq_ok.1 h
        obtain ⟨rfl, rfl⟩ := Prod.mk.inj (Except.ok.inj same)
        exact ⟨before, [(key, value)], later, .aside named tag ‹_›, split, rfl⟩
      · exact nomatch h
  · rintro ⟨between, kept, later, splits, split, rfl⟩
    cases splits with
    | @told kind tag known => exact ⟨"type", tag, bind_eq_ok.2 ⟨kind, known, split⟩⟩
    | @aside _ name named other sound =>
      refine ⟨name, named, ?_⟩
      dsimp only at sound
      rw [if_neg other, if_pos sound]
      exact bind_eq_ok.2 ⟨(after, later), split, rfl⟩

/-- Two entries may change places: they do not both tell the kind. -/
theorem Splits.swap {x y : Document × Document} {before between after : Option Kind}
    {kept kept' : List (Document × Document)} (first : Splits x before between kept)
    (second : Splits y between after kept') :
    ∃ between', Splits y before between' kept' ∧ Splits x between' after kept := by
  cases first with
  | told tag named =>
    cases second with
    | aside named' other sound => exact ⟨none, .aside named' other sound, .told tag named⟩
  | aside named other sound => exact ⟨after, second, .aside named other sound⟩

/-- **The kind of a message may stand anywhere among its entries.** -/
theorem splitEntries_perm {entries entries' rest : List (Document × Document)}
    {before after : Option Kind} (perm : entries.Perm entries')
    (h : splitEntries entries before = .ok (after, rest)) :
    ∃ rest', splitEntries entries' before = .ok (after, rest') ∧ rest.Perm rest' := by
  induction perm generalizing before rest with
  | nil => exact ⟨rest, h, .refl rest⟩
  | cons entry _ ih =>
    obtain ⟨between, kept, later, splits, split, rfl⟩ := splitEntries_cons.1 h
    obtain ⟨later', split', perm'⟩ := ih split
    exact ⟨kept ++ later', splitEntries_cons.2 ⟨between, kept, later', splits, split', rfl⟩,
      perm'.append_left kept⟩
  | swap x y entries =>
    obtain ⟨between, kept, _, first, split, rfl⟩ := splitEntries_cons.1 h
    obtain ⟨between', kept', later, second, split', rfl⟩ := splitEntries_cons.1 split
    obtain ⟨between'', first', second'⟩ := first.swap second
    refine ⟨kept' ++ (kept ++ later), splitEntries_cons.2 ⟨between'', kept', _, first',
      splitEntries_cons.2 ⟨between', kept, later, second', split', rfl⟩, rfl⟩, ?_⟩
    simpa only [List.append_assoc] using List.perm_append_comm.append_right later
  | trans _ _ ih ih' =>
    obtain ⟨middle, split, perm₁⟩ := ih h
    obtain ⟨rest', split', perm₂⟩ := ih' split
    exact ⟨rest', split', perm₁.trans perm₂⟩

/-- A message may have its fields in any order. -/
theorem unordered_decode (origin : Origin) : Unordered (decode origin) := by
  intro entries entries' m perm h
  obtain ⟨⟨kind, rest⟩, split, body⟩ := bind_eq_ok.1 h
  obtain ⟨rest', split', perm'⟩ := splitEntries_perm perm split
  refine bind_eq_ok.2 ⟨(kind, rest'), split', ?_⟩
  cases kind with
  | none => exact nomatch body
  | some kind =>
    dsimp only at body ⊢
    cases kind with
    | session => exact (unordered_slots .buffered sessionFields).bind _ _ _ _ perm' body
    | progress => exact (ProgressEvent.unordered_decode .buffered).bind _ _ _ _ perm' body
    | summary => exact (RunSummary.unordered_decode .buffered).bind _ _ _ _ perm' body

end StreamMessage

/-! ## Values in memory -/

namespace Wire

/-- The document of an object lists its fields. -/
theorem ofJsonFields_eq_map (fields : List (String × Json)) :
    Document.ofJsonFields fields = fields.map fun f => (.str f.1, Document.ofJson f.2) := by
  induction fields with
  | nil => rfl
  | cons f fields ih => rw [Document.ofJsonFields, ih, List.map_cons]

/-- **One field of an object is taken up as another**, under the same name. -/
def TakenAs (f g : String × Json) : Prop :=
  f.1 = g.1 ∧ json (Document.ofJson f.2) = .ok g.2

/-- A canonical field is taken up as it is. -/
theorem takenAs_self {f : String × Json} (canonical : f.2.Canonical) : TakenAs f f :=
  ⟨rfl, json_ofJson f.2 canonical⟩

/-- **The fields of an object are rearranged** when they are put among others. -/
theorem exists_jsonFields {fields taken before : List (String × Json)}
    (values : List.Forall₂ TakenAs fields taken)
    (nodup : ((before ++ fields).map (·.1)).Nodup) :
    ∃ sorted, jsonFields (Document.ofJsonFields fields) before = .ok sorted ∧
      sorted.Perm (before ++ taken) := by
  induction values generalizing before with
  | nil => exact ⟨before, rfl, by rw [List.append_nil]⟩
  | @cons f g fields taken same _ ih =>
    obtain ⟨name, v⟩ := f
    obtain ⟨name', w⟩ := g
    obtain ⟨rfl, value⟩ : name = name' ∧ json (Document.ofJson v) = .ok w := same
    have new : ∀ e ∈ before, e.1 ≠ name := by
      intro e mem
      rw [List.map_append, List.nodup_append] at nodup
      exact nodup.2.2 _ (List.mem_map_of_mem mem) _ List.mem_cons_self
    have inserted : (Dict.insertEntry name w before).Perm ((name, w) :: before) :=
      Dict.perm_insertEntry new
    have names : ((Dict.insertEntry name w before ++ fields).map (·.1)).Perm
        ((before ++ (name, v) :: fields).map (·.1)) := by
      rw [List.map_append, List.map_append, List.map_cons]
      exact ((inserted.map (·.1)).append_right _).trans List.perm_middle.symm
    obtain ⟨sorted, eq, perm⟩ := ih (names.nodup_iff.2 nodup)
    refine ⟨sorted, ?_, perm.trans ?_⟩
    · rw [Document.ofJsonFields, jsonFields, value]
      exact eq
    · exact (inserted.append_right taken).trans List.perm_middle.symm

/-- **An object taken up as a value** has the fields of the object, rearranged. -/
theorem exists_json_obj {fields taken : List (String × Json)}
    (values : List.Forall₂ TakenAs fields taken) (nodup : (fields.map (·.1)).Nodup) :
    ∃ sorted, json (Document.ofJson (.obj fields)) = .ok (.obj sorted) ∧ sorted.Perm taken := by
  obtain ⟨sorted, eq, perm⟩ := @exists_jsonFields fields taken [] values nodup
  refine ⟨sorted, ?_, perm⟩
  change (jsonFields (Document.ofJsonFields fields) [] >>= fun fs => .ok (Json.obj fs)) = _
  rw [eq, ok_bind]

/-- **What was written is read as some record** both from its text, where the fields stand as they
were declared, and when it was taken up as a value in memory first, where they are sorted. -/
structure ReadsAs {α : Type} (decode : Document → Result α) (v : Json) (a : α) : Prop where
  written : decode (Document.ofJson v) = .ok a
  taken : ∃ w, json (Document.ofJson v) = .ok w ∧ decode (Document.ofJson w) = .ok a

section

variable {α : Type} {decode : Document → Result α} {a : α}

/-- An object is read both ways if it is read as it is and with its fields taken up as values. -/
theorem readsAs_obj (unordered : Unordered decode) {fields taken : List (String × Json)}
    (values : List.Forall₂ TakenAs fields taken) (nodup : (fields.map (·.1)).Nodup)
    (written : decode (Document.ofJson (.obj fields)) = .ok a)
    (replaced : decode (Document.ofJson (.obj taken)) = .ok a) : ReadsAs decode (.obj fields) a := by
  obtain ⟨sorted, eq, perm⟩ := exists_json_obj values nodup
  have entries : (Document.ofJsonFields taken).Perm (Document.ofJsonFields sorted) := by
    rw [ofJsonFields_eq_map, ofJsonFields_eq_map]
    exact perm.symm.map _
  exact ⟨written, .obj sorted, eq, unordered _ _ a entries replaced⟩

/-- **A record with canonical fields** is read both ways if it is read as it was written. -/
theorem readsAs_objOf (unordered : Unordered decode) {fields : List (String × Option Json)}
    (canonical : ∀ f ∈ fields, ∀ v, f.2 = some v → v.Canonical)
    (nodup : (fields.map (·.1)).Nodup)
    (written : decode (Document.ofJson (Json.objOf fields)) = .ok a) :
    ReadsAs decode (Json.objOf fields) a := by
  have values : List.Forall₂ TakenAs (given fields) (given fields) := by
    refine List.forall₂_same.2 fun f mem => ?_
    obtain ⟨w, mem', eq⟩ := List.mem_filterMap.1 mem
    obtain ⟨v, some, rfl⟩ := Option.map_eq_some_iff.1 eq
    exact takenAs_self (canonical w mem' v some)
  have names : ((given fields).map (·.1)).Nodup := by
    refine List.Nodup.sublist ?_ nodup
    clear canonical nodup written values
    induction fields with
    | nil => exact .slnil
    | cons f fields ih =>
      obtain ⟨name, value⟩ := f
      cases value with
      | none => exact ih.cons name
      | some v => exact ih.cons_cons name
  exact readsAs_obj unordered values names written written

end

end Wire

end Playback
