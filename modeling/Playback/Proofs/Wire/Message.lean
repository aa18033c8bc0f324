import Playback.Proofs.Json.RoundTrip
import Playback.Proofs.Wire.Record
import Playback.Wire.Event

/-!
# Messages on one line

What is written for a stream message is a line of text, and it is decoded as the message again. The
details of an event come back as they are if they are canonical and say something.

* `Json.Legible`, `ProgressEvent.Legible`, `StreamMessage.Legible` — **details that come back**, and
  messages with such details;
* `ProgressEvent.settled`, `StreamMessage.settled` — what becomes of details that say nothing;
* `ProgressEvent.decode_encode`, `RunSummary.decode_encode`, `StreamMessage.decode_encode` —
  decoding what was encoded;
* `StreamMessage.numbersKept_encode_iff` — which numbers stand in a message;
* `StreamMessage.ofText_compact` — **a message is decoded from its line**.
-/

namespace Playback

open Wire

/-! ## Scalars -/

namespace Wire

/-- A number of 32 bits is decoded as itself. -/
theorem word32_toNat (i : UInt32) : word32 (.int i.toNat) = .ok i := by
  have bounds : (0 : Int) ≤ i.toNat ∧ (i.toNat : Int) < (Nat.pow 2 32 : Nat) :=
    ⟨Int.natCast_nonneg _, Int.ofNat_lt.2 i.toNat_lt⟩
  rw [word32, natBelow, if_pos bounds]
  exact congrArg Except.ok UInt32.ofNat_toNat

/-- A natural number of 64 bits is decoded as itself. -/
theorem word64_natCast {n : Nat} (fits : Json.FitsWord n) : word64 (.int n) = .ok n := by
  have bounds : (0 : Int) ≤ n ∧ (n : Int) < (Nat.pow 2 64 : Nat) := ⟨Int.natCast_nonneg _, fits.2⟩
  rw [word64, natBelow, if_pos bounds]
  rfl

/-- What is there is decoded where it may be absent. -/
theorem optional_some {α : Type} {decode : Document → Result α} {d : Document} {a : α}
    (present : d ≠ .null) (h : decode d = .ok a) : optional decode d = .ok (some a) := by
  unfold optional
  split
  · exact absurd rfl present
  · rw [h]
    rfl

/-- A required field is decoded from its slot. -/
theorem Slots.required_eq {α : Type} {s : Slots} {i : Nat} {decode : Document → Result α}
    (v : Json) (slot : s[i]? = some (some (Document.ofJson v))) :
    s.required i decode = decode (Document.ofJson v) := by
  rw [Slots.required, slot]

/-- So is an optional one that was written. -/
theorem Slots.optional_written {α : Type} {s : Slots} {i : Nat} {decode : Document → Result α}
    (v : Json) (slot : s[i]? = some (some (Document.ofJson v))) :
    s.optional i decode = Wire.optional decode (Document.ofJson v) := by
  rw [Slots.optional, Slots.defaulted, slot]

/-- **An optional field comes back**, whether it was written or not. -/
theorem Slots.optional_eq {α : Type} {s : Slots} {i : Nat} {decode : Document → Result α}
    {encode : α → Json} {a? : Option α}
    (slot : s[i]? = some ((a?.map encode).map Document.ofJson))
    (back : ∀ a, a? = some a →
      Document.ofJson (encode a) ≠ .null ∧ decode (Document.ofJson (encode a)) = .ok a) :
    s.optional i decode = .ok a? := by
  rw [Slots.optional, Slots.defaulted, slot]
  cases a? with
  | none => rfl
  | some a => exact optional_some (back a rfl).1 (back a rfl).2

/-- An optional text comes back. -/
theorem Slots.optional_text {s : Slots} {i : Nat} {t? : Option String}
    (slot : s[i]? = some ((t?.map Json.str).map Document.ofJson)) :
    s.optional i text = .ok t? :=
  Slots.optional_eq slot fun _ _ => ⟨Document.noConfusion, rfl⟩

/-- What is written for an optional text fits its field. -/
theorem fits_optional_text (name : String) (t? : Option String) :
    (field name (optional text)).Fits (name, t?.map Json.str) := by
  refine fits_optional name fun v written => ?_
  obtain ⟨t, -, rfl⟩ := Option.map_eq_some_iff.1 written
  exact ⟨some t, rfl⟩

end Wire

/-- The name of a phase is decoded as the phase. -/
theorem StepStatus.decode_encode (origin : Origin) (s : StepStatus) :
    decode origin (Document.ofJson s.encode) = .ok s := by
  cases s <;> rfl

/-- The name of a verdict is decoded as the verdict. -/
theorem RunStatus.decode_encode (origin : Origin) (s : RunStatus) :
    decode origin (Document.ofJson s.encode) = .ok s := by
  cases s <;> rfl

/-- A step number is decoded as itself, and its absence too. -/
theorem optional_encodeIndex (i? : Option UInt32) :
    optional word32 (Document.ofJson (encodeIndex i?)) = .ok i? := by
  cases i? with
  | none => rfl
  | some i => exact optional_some Document.noConfusion (word32_toNat i)

/-! ## Events -/

/-- **Details that come back** as they are: they say something, their fields are sorted, and they
are not nested too deep to be read. -/
structure Json.Legible (details : Json) : Prop where
  ne_null : details ≠ .null
  canonical : details.Canonical
  height_lt : details.height < maxDepth

/-- A value that is not nothing does not look like it. -/
theorem Json.isNull_eq_false {v : Json} (present : v ≠ .null) : v.isNull = false := by
  cases v with
  | null => exact absurd rfl present
  | _ => rfl

/-- A value that is not nothing is none as a document, either. -/
theorem Json.ofJson_ne_null {v : Json} (present : v ≠ .null) : Document.ofJson v ≠ .null := by
  cases v with
  | null => exact absurd rfl present
  | _ => exact Document.noConfusion

/-- **An optional value comes back**, if it is canonical; one that says nothing is none. -/
theorem Wire.optional_json (v : Json) (canonical : v.Canonical) :
    optional json (Document.ofJson v) = .ok ((some v).filter fun v => !v.isNull) := by
  by_cases present : v = .null
  · subst present
    rfl
  · rw [optional_some (Json.ofJson_ne_null present) (json_ofJson v canonical),
      Option.filter_some_pos (by simp [Json.isNull_eq_false present])]

/-- So does one in the slot of a field. -/
theorem Wire.Slots.optional_json {s : Slots} {i : Nat} {v? : Option Json}
    (slot : s[i]? = some (v?.map Document.ofJson))
    (canonical : ∀ v, v? = some v → v.Canonical) :
    s.optional i json = .ok (v?.filter fun v => !v.isNull) := by
  rw [Slots.optional, Slots.defaulted, slot]
  cases v? with
  | none => rfl
  | some v => exact Wire.optional_json v (canonical v rfl)

/-- What is written for an optional value fits its field. -/
theorem Wire.fits_optional_json (name : String) {v? : Option Json}
    (canonical : ∀ v, v? = some v → v.Canonical) :
    (field name (optional json)).Fits (name, v?) :=
  fits_optional name fun v written => ⟨_, Wire.optional_json v (canonical v written)⟩

namespace ProgressEvent

/-- **The details of an event come back** as they are, if it has any. -/
def Legible (e : ProgressEvent) : Prop := ∀ details, e.metadata = some details → details.Legible

/-- **The details of an event are canonical**, if it has any. -/
def IsCanonical (e : ProgressEvent) : Prop := ∀ details, e.metadata = some details → details.Canonical

/-- **The event as it comes back**: details that say nothing are none. -/
def settled (e : ProgressEvent) : ProgressEvent :=
  { e with metadata := e.metadata.filter fun details => !details.isNull }

/-- An event whose details come back comes back as it is. -/
theorem Legible.settled_eq {e : ProgressEvent} (legible : e.Legible) : e.settled = e := by
  have kept : (e.metadata.filter fun details => !details.isNull) = e.metadata := by
    cases written : e.metadata with
    | none => rfl
    | some details => simp [Json.isNull_eq_false (legible details written).ne_null]
  rw [settled, kept]

/-- What is written for an event fits its fields. -/
theorem fits_encodeFields {e : ProgressEvent} (canonical : e.IsCanonical) (origin : Origin) :
    List.Forall₂ Field.Fits (fields origin) e.encodeFields :=
  .cons (fits_some _ (word32_toNat e.indexStep)) <| .cons (fits_some _ rfl) <|
    .cons (fits_some _ (StepStatus.decode_encode origin e.status)) <| .cons (fits_some _ rfl) <|
    .cons (fits_optional_text _ _) <| .cons (fits_optional_text _ _) <|
    .cons (fits_optional_json _ canonical) .nil

/-- **An event with canonical details is decoded as it comes back.** -/
theorem decode_encode_settled {e : ProgressEvent} (canonical : e.IsCanonical) (origin : Origin) :
    decode origin (Document.ofJson e.encode) = .ok e.settled := by
  have nodup : ((fields origin).map Field.name).Nodup := by
    change ["indexStep", "action", "status", "time", "screenshot", "error", "metadata"].Nodup
    decide
  have index : (slotsOf e.encodeFields).required 0 word32 = .ok e.indexStep :=
    (Slots.required_eq (.int e.indexStep.toNat) rfl).trans (word32_toNat e.indexStep)
  have action : (slotsOf e.encodeFields).required 1 text = .ok e.action :=
    Slots.required_eq (.str e.action) rfl
  have status : (slotsOf e.encodeFields).required 2 (StepStatus.decode origin) = .ok e.status :=
    (Slots.required_eq e.status.encode rfl).trans (StepStatus.decode_encode origin e.status)
  have time : (slotsOf e.encodeFields).required 3 text = .ok e.time :=
    Slots.required_eq (.str e.time) rfl
  have screenshot : (slotsOf e.encodeFields).optional 4 text = .ok e.screenshot :=
    Slots.optional_text rfl
  have error : (slotsOf e.encodeFields).optional 5 text = .ok e.error := Slots.optional_text rfl
  have metadata : (slotsOf e.encodeFields).optional 6 json = .ok e.settled.metadata :=
    Slots.optional_json rfl canonical
  rw [decode, encode, slots_objOf (fits_encodeFields canonical origin) nodup, ok_bind, index, ok_bind,
    action, ok_bind, status, ok_bind, time, ok_bind, screenshot, ok_bind, error, ok_bind, metadata,
    ok_bind]
  rfl

/-- **An event whose details come back is decoded as itself.** -/
theorem decode_encode {e : ProgressEvent} (legible : e.Legible) (origin : Origin) :
    decode origin (Document.ofJson e.encode) = .ok e := by
  have canonical : e.IsCanonical := fun details written => (legible details written).canonical
  rw [decode_encode_settled canonical origin, legible.settled_eq]

end ProgressEvent

/-! ## Summaries -/

namespace RunSummary

/-- **The counts of a summary** are numbers of 64 bits. -/
structure FitsWords (r : RunSummary) : Prop where
  totalSteps : Json.FitsWord r.totalSteps
  completed : Json.FitsWord r.completed
  failed : Json.FitsWord r.failed
  skipped : Json.FitsWord r.skipped
  durationMs : Json.FitsWord r.durationMs

/-- What is written for a summary fits its fields. -/
theorem fits_encodeFields {r : RunSummary} (fits : r.FitsWords) (origin : Origin) :
    List.Forall₂ Field.Fits (fields origin) r.encodeFields :=
  .cons (fits_some _ rfl) <| .cons (fits_some _ (RunStatus.decode_encode origin r.status)) <|
    .cons (fits_some _ (optional_encodeIndex r.lastIndexStep)) <|
    .cons (fits_some _ (word64_natCast fits.totalSteps)) <|
    .cons (fits_some _ (word64_natCast fits.completed)) <|
    .cons (fits_some _ (word64_natCast fits.failed)) <|
    .cons (fits_some _ (word64_natCast fits.skipped)) <|
    .cons (fits_some _ (word64_natCast fits.durationMs)) <| .cons (fits_optional_text _ _) .nil

/-- **A summary is decoded as itself.** -/
theorem decode_encode {r : RunSummary} (fits : r.FitsWords) (origin : Origin) :
    decode origin (Document.ofJson r.encode) = .ok r := by
  have nodup : ((fields origin).map Field.name).Nodup := by
    change ["sessionId", "status", "lastIndexStep", "totalSteps", "completed", "failed", "skipped",
      "durationMs", "error"].Nodup
    decide
  have sessionId : (slotsOf r.encodeFields).required 0 text = .ok r.sessionId :=
    Slots.required_eq (.str r.sessionId) rfl
  have status : (slotsOf r.encodeFields).required 1 (RunStatus.decode origin) = .ok r.status :=
    (Slots.required_eq r.status.encode rfl).trans (RunStatus.decode_encode origin r.status)
  have lastIndexStep : (slotsOf r.encodeFields).optional 2 word32 = .ok r.lastIndexStep :=
    (Slots.optional_written (encodeIndex r.lastIndexStep) rfl).trans
      (optional_encodeIndex r.lastIndexStep)
  have totalSteps : (slotsOf r.encodeFields).required 3 word64 = .ok r.totalSteps :=
    (Slots.required_eq (.int r.totalSteps) rfl).trans (word64_natCast fits.totalSteps)
  have completed : (slotsOf r.encodeFields).required 4 word64 = .ok r.completed :=
    (Slots.required_eq (.int r.completed) rfl).trans (word64_natCast fits.completed)
  have failed : (slotsOf r.encodeFields).required 5 word64 = .ok r.failed :=
    (Slots.required_eq (.int r.failed) rfl).trans (word64_natCast fits.failed)
  have skipped : (slotsOf r.encodeFields).required 6 word64 = .ok r.skipped :=
    (Slots.required_eq (.int r.skipped) rfl).trans (word64_natCast fits.skipped)
  have durationMs : (slotsOf r.encodeFields).required 7 word64 = .ok r.durationMs :=
    (Slots.required_eq (.int r.durationMs) rfl).trans (word64_natCast fits.durationMs)
  have error : (slotsOf r.encodeFields).optional 8 text = .ok r.error := Slots.optional_text rfl
  rw [decode, encode, slots_objOf (fits_encodeFields fits origin) nodup, ok_bind, sessionId, ok_bind,
    status, ok_bind, lastIndexStep, ok_bind, totalSteps, ok_bind, completed, ok_bind, failed,
    ok_bind, skipped, ok_bind, durationMs, ok_bind, error, ok_bind]
  rfl

end RunSummary

/-! ## Messages -/

namespace StreamMessage

/-- **The details in a message come back** as they are. -/
def Legible : StreamMessage → Prop
  | session .. => True
  | progress e => e.Legible
  | summary _ => True

/-- Entries of other names than that of the kind are put aside as they are. -/
theorem splitEntries_untagged {fields : List (String × Json)}
    (untagged : ∀ f ∈ fields, f.1 ≠ "type") (kind : Option Kind) :
    splitEntries (Document.ofJsonFields fields) kind =
      .ok (kind, Document.ofJsonFields fields) := by
  induction fields with
  | nil => rfl
  | cons f fields ih =>
    obtain ⟨name, value⟩ := f
    have other : name ≠ "type" := untagged _ List.mem_cons_self
    rw [Document.ofJsonFields, splitEntries]
    change (if name = "type" then _ else _) = _
    rw [if_neg other, if_pos (Document.isSound_ofJson value),
      ih fun f hf => untagged f (List.mem_cons_of_mem _ hf)]
    rfl

/-- **A body is decoded as what its tag says.** -/
theorem decode_tagged {name : String} {kind : Kind} {body : List (String × Option Json)}
    (known : member kinds (.str name) = .ok kind) (untagged : ∀ w ∈ body, w.1 ≠ "type")
    (origin : Origin) :
    decode origin (Document.ofJson (Json.objOf (("type", some (.str name)) :: body))) =
      decodeBody .buffered kind (Document.ofJson (Json.objOf body)) := by
  have others : ∀ f ∈ given body, f.1 ≠ "type" := by
    intro f hf
    obtain ⟨w, hw, written⟩ := List.mem_filterMap.1 hf
    obtain ⟨v, -, rfl⟩ := Option.map_eq_some_iff.1 written
    exact untagged w hw
  have split : splitEntries ((.str "type", .str name) :: Document.ofJsonFields (given body)) none =
      .ok (some kind, Document.ofJsonFields (given body)) := by
    change (member kinds (.str name) >>= fun k =>
      splitEntries (Document.ofJsonFields (given body)) (some k)) = _
    rw [known, ok_bind, splitEntries_untagged others]
  change (splitEntries ((.str "type", .str name) :: Document.ofJsonFields (given body)) none >>=
    fun tagged => _) = _
  rw [split, ok_bind]
  rfl

/-- A session message is decoded as itself. -/
theorem decodeBody_session (id : String) (testCase : Option String) (origin : Origin) :
    decodeBody origin .session (Document.ofJson (Json.objOf
      [("sessionId", some (.str id)), ("testCase", testCase.map Json.str)])) =
        .ok (session id testCase) := by
  have nodup : (sessionFields.map Field.name).Nodup := by
    change ["sessionId", "testCase"].Nodup
    decide
  have fits : List.Forall₂ Field.Fits sessionFields
      [("sessionId", some (.str id)), ("testCase", testCase.map Json.str)] :=
    .cons (fits_some _ rfl) <| .cons (fits_optional_text _ _) .nil
  rw [decodeBody, slots_objOf fits nodup, ok_bind, Slots.required_eq (.str id) rfl,
    Slots.optional_text rfl]
  rfl

/-- **A message is as the wire has it**: its details are canonical, or its counts fit. -/
def FitsWire : StreamMessage → Prop
  | session .. => True
  | progress e => e.IsCanonical
  | summary r => r.FitsWords

/-- **The message as it comes back**: so does its event. -/
def settled : StreamMessage → StreamMessage
  | session id testCase => session id testCase
  | progress e => progress e.settled
  | summary r => summary r

/-- **A message that is as the wire has it is decoded as it comes back.** -/
theorem decode_encode_settled {m : StreamMessage} (fits : m.FitsWire) (origin : Origin) :
    decode origin (Document.ofJson m.encode) = .ok m.settled := by
  cases m with
  | session id testCase =>
    have untagged : ∀ w ∈ [("sessionId", some (Json.str id)), ("testCase", testCase.map Json.str)],
        w.1 ≠ "type" := by simp
    exact (decode_tagged rfl untagged origin).trans (decodeBody_session id testCase .buffered)
  | progress e =>
    have untagged : ∀ w ∈ e.encodeFields, w.1 ≠ "type" := by simp [ProgressEvent.encodeFields]
    refine (decode_tagged rfl untagged origin).trans ?_
    change (ProgressEvent.decode .buffered (Document.ofJson e.encode) >>= fun e => _) = _
    rw [ProgressEvent.decode_encode_settled fits]
    rfl
  | summary r =>
    have untagged : ∀ w ∈ r.encodeFields, w.1 ≠ "type" := by simp [RunSummary.encodeFields]
    refine (decode_tagged rfl untagged origin).trans ?_
    change (RunSummary.decode .buffered (Document.ofJson r.encode) >>= fun r => _) = _
    rw [RunSummary.decode_encode fits]
    rfl

/-- **A message is decoded as itself**, if its details come back and its counts fit. -/
theorem decode_encode {m : StreamMessage} (legible : m.Legible)
    (fits : ∀ r, m = summary r → r.FitsWords) (origin : Origin) :
    decode origin (Document.ofJson m.encode) = .ok m := by
  have wire : m.FitsWire := by
    cases m with
    | session id testCase => trivial
    | progress e => exact fun details written => (legible details written).canonical
    | summary r => exact fits r rfl
  have same : m.settled = m := by
    cases m with
    | session id testCase => rfl
    | progress e => exact congrArg progress (ProgressEvent.Legible.settled_eq legible)
    | summary r => rfl
  rw [decode_encode_settled wire origin, same]

/-- Step numbers are read back. -/
theorem numbersKept_index (i : UInt32) : (Json.int i.toNat).NumbersKept := by
  have bound : i.toNat < Nat.pow 2 32 := i.toNat_lt
  have wider : Nat.pow 2 32 < Nat.pow 2 64 := by decide
  exact (Json.readsBack_int_iff _).2 ⟨by omega, by omega⟩

/-- **The numbers of a message are read back** if those of its details are, or if its counts fit. -/
theorem numbersKept_encode_iff (m : StreamMessage) : m.encode.NumbersKept ↔
    match m with
    | session .. => True
    | progress e => ∀ details, e.metadata = some details → details.NumbersKept
    | summary r => r.FitsWords := by
  have text : ∀ s : String, (Json.str s).NumbersKept := fun _ => trivial
  refine (Json.numbersKept_objOf _).trans ?_
  cases m with
  | session id testCase => simp [text]
  | progress e =>
    have index := numbersKept_index e.indexStep
    simp [ProgressEvent.encodeFields, StepStatus.encode, index, text]
  | summary r =>
    have index : (encodeIndex r.lastIndexStep).NumbersKept := by
      cases r.lastIndexStep with
      | none => trivial
      | some i => exact numbersKept_index i
    have count : ∀ n : Nat, (Json.int n).NumbersKept ↔ Json.FitsWord n := fun n =>
      Json.readsBack_int_iff n
    have fits : r.FitsWords ↔ Json.FitsWord r.totalSteps ∧ Json.FitsWord r.completed ∧
        Json.FitsWord r.failed ∧ Json.FitsWord r.skipped ∧ Json.FitsWord r.durationMs :=
      ⟨fun h => ⟨h.totalSteps, h.completed, h.failed, h.skipped, h.durationMs⟩,
        fun ⟨total, completed, failed, skipped, duration⟩ =>
          ⟨total, completed, failed, skipped, duration⟩⟩
    simp [RunSummary.encodeFields, RunStatus.encode, index, text, count, fits]

/-- A message is nested no deeper than can be read. -/
theorem height_encode_le {m : StreamMessage} (legible : m.Legible) :
    m.encode.height ≤ Json.maxDepth := by
  have scalar : ∀ {t? : Option String} {v : Json}, t?.map Json.str = some v → v.height ≤ 126 := by
    intro t? v written
    obtain ⟨t, -, rfl⟩ := Option.map_eq_some_iff.1 written
    exact Nat.zero_le 126
  have index : ∀ i? : Option UInt32, (encodeIndex i?).height ≤ 126 := by
    intro i?
    cases i? <;> exact Nat.zero_le 126
  refine Json.height_objOf_le (List.forall_mem_cons.2 ⟨fun v same => ?_, ?_⟩)
  · obtain rfl := Option.some.inj same
    exact Nat.zero_le 126
  · cases m with
    | session id testCase =>
      simp only [List.forall_mem_cons, Option.some.injEq, forall_eq']
      exact ⟨Nat.zero_le _, fun v => scalar, fun _ h => nomatch h⟩
    | progress e =>
      simp only [ProgressEvent.encodeFields, List.forall_mem_cons, Option.some.injEq, forall_eq']
      exact ⟨Nat.zero_le _, Nat.zero_le _, Nat.zero_le _, Nat.zero_le _, fun v => scalar,
        fun v => scalar, fun v written => Nat.le_of_lt_succ (legible v written).height_lt,
        fun _ h => nomatch h⟩
    | summary r =>
      simp only [RunSummary.encodeFields, List.forall_mem_cons, Option.some.injEq, forall_eq']
      exact ⟨Nat.zero_le _, Nat.zero_le _, index _, Nat.zero_le _, Nat.zero_le _, Nat.zero_le _,
        Nat.zero_le _, Nat.zero_le _, fun v => scalar, fun _ h => nomatch h⟩

/-- **A message is decoded from its line**, if the numbers in it are read back. -/
theorem ofText_compact {m : StreamMessage} (legible : m.Legible) (kept : m.encode.NumbersKept) :
    ofText decode m.encode.compact = .ok m := by
  have fits : ∀ r, m = summary r → r.FitsWords := by
    rintro r rfl
    exact (numbersKept_encode_iff (summary r)).1 kept
  rw [ofText, Json.read_compact kept (height_encode_le legible)]
  change (decode .text (Document.ofJson m.encode) >>= fun m => _) = _
  rw [decode_encode legible fits]
  rfl

end StreamMessage

end Playback
