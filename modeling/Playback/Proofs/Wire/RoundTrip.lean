import Playback.Proofs.Wire.Decoded

/-!
# The wire round trip

What is written for a record is read as that record again, from its text as well as when it was
taken up as a value in memory. Only free-form parts that say nothing are lost, and no value is
decoded with such.

* `Wire.RoundTrip` — **the round trip** of one type of records, with the records that the wire can
  have and what becomes of them;
* `StepRecord.readsAs_encode` to `TestScript.readsAs_encode` — what each type of records is read as;
* `wire_roundTrip` — **all types of records make the round trip**.
-/

namespace Playback

namespace Wire

/-- **A type of records makes the round trip.** What is written for a record that `Fits` the wire is
read as the `settled` record; all that is decoded fits; and what was decoded from a JSON value is
settled, so that it is read as it is and written as before. -/
structure RoundTrip {α : Type} (encode : α → Json) (decode : Origin → Document → Result α)
    (Fits : α → Prop) (settled : α → α) : Prop where
  written : ∀ a, Fits a → ∀ origin, ReadsAs (decode origin) (encode a) (settled a)
  fits : ∀ origin d a, decode origin d = .ok a → Fits a
  again : ∀ (origin : Origin) (v : Json) (a : α), v.Canonical →
    decode origin (Document.ofJson v) = .ok a → settled a = a ∧ ∀ origin',
      ReadsAs (decode origin') (encode a) a ∧
      (decode origin' (Document.ofJson (encode a))).map encode = .ok (encode a)

/-- The round trip is made if records are read as settled, and decoded ones are so already. -/
theorem roundTrip_of {α : Type} {encode : α → Json} {decode : Origin → Document → Result α}
    {Fits : α → Prop} {settled : α → α}
    (written : ∀ a, Fits a → ∀ origin, ReadsAs (decode origin) (encode a) (settled a))
    (fits : ∀ origin d a, decode origin d = .ok a → Fits a)
    (already : ∀ origin (d : Document) a, d.HasValues → decode origin d = .ok a → settled a = a) :
    RoundTrip encode decode Fits settled where
  written := written
  fits := fits
  again origin v a canonical decoded := by
    have value : (Document.ofJson v).IsValue := ⟨v, canonical, rfl⟩
    have same : settled a = a := already origin _ a value.hasValues decoded
    refine ⟨same, fun origin' => ?_⟩
    have back : ReadsAs (decode origin') (encode a) a := by
      have := written a (fits origin _ a decoded) origin'
      rwa [same] at this
    refine ⟨back, ?_⟩
    rw [back.written]
    rfl

/-! ## Values taken up in memory -/

/-- The items of an array are taken up one by one. -/
theorem json_arr {items taken : List Json}
    (h : List.Forall₂ (fun v w => json (Document.ofJson v) = .ok w) items taken) :
    json (Document.ofJson (.arr items)) = .ok (.arr taken) := by
  have decoded : jsonItems (Document.ofJsonItems items) = .ok taken := by
    induction h with
    | nil => rfl
    | cons first _ ih =>
      rw [Document.ofJsonItems, jsonItems, first, ok_bind, ih]
      rfl
  change (jsonItems (Document.ofJsonItems items) >>= fun vs => .ok (Json.arr vs)) = _
  rw [decoded, ok_bind]

/-- An array of canonical values is canonical. -/
theorem canonical_map_arr {α : Type} {encode : α → Json} (h : ∀ a, (encode a).Canonical)
    (as : List α) : (Json.arr (as.map encode)).Canonical := by
  refine Json.canonicalItems_iff.2 fun v mem => ?_
  obtain ⟨a, -, rfl⟩ := List.mem_map.1 mem
  exact h a

/-- A dictionary of canonical values is canonical. -/
theorem canonical_ofDict {α : Type} {encode : α → Json} (h : ∀ a, (encode a).Canonical)
    (d : Dict α) : (Json.ofDict encode d).Canonical := by
  refine ⟨List.pairwise_map.2 d.sorted, Json.canonicalFields_iff.2 fun f mem => ?_⟩
  obtain ⟨entry, -, rfl⟩ := List.mem_map.1 mem
  exact h entry.2

/-- What is written for an optional value is canonical. -/
theorem canonical_of_map {α : Type} {encode : α → Json} (h : ∀ a, (encode a).Canonical)
    {a? : Option α} : ∀ v, a?.map encode = some v → v.Canonical := by
  intro v written
  obtain ⟨a, -, rfl⟩ := Option.map_eq_some_iff.1 written
  exact h a

/-- A text is canonical, and so is one that may be left out. -/
theorem canonical_optional_text {t? : Option String} :
    ∀ v, t?.map Json.str = some v → v.Canonical := by
  have text : ∀ t : String, (Json.str t).Canonical := fun _ => trivial
  exact canonical_of_map text

/-- A field that is always written is canonical if its value is. -/
theorem canonical_of_some {v : Json} (h : v.Canonical) : ∀ w, some v = some w → w.Canonical :=
  fun _ same => Option.some.inj same ▸ h

end Wire

open Wire

/-! ## Records -/

/-- Attributes are written canonically. -/
theorem StepAttributes.canonical_encode (a : StepAttributes) : a.encode.Canonical := by
  cases value : a.value with
  | none => simp [encode, Json.objOf, value, Json.Canonical, Json.CanonicalFields]
  | some t => simp [encode, Json.objOf, value, Json.Canonical, Json.CanonicalFields]

/-- **A step is read as it comes back.** -/
theorem StepRecord.readsAs_encode {s : StepRecord} (canonical : s.IsCanonical) (origin : Origin) :
    ReadsAs (decode origin) s.encode s.settled := by
  have nodup : (s.encodeFields.map (·.1)).Nodup := by
    change ["indexStep", "action", "selectors", "attributes", "typeAssert", "valueToAssert",
      "value", "url", "description"].Nodup
    decide
  rw [encode_eq]
  refine readsAs_objOf (unordered_decode origin) ?_ nodup (decode_encode canonical origin)
  simp only [encodeFields, List.forall_mem_cons]
  exact ⟨canonical_of_some trivial, canonical_of_some trivial,
    canonical_of_some (canonical_map_arr Selector.canonical_encode s.selectors),
    canonical_of_map StepAttributes.canonical_encode, canonical_optional_text,
    canonical_optional_text, canonical, canonical_optional_text, canonical_optional_text,
    fun _ mem => absurd mem List.not_mem_nil⟩

/-- What is written for an event is canonical. -/
theorem ProgressEvent.canonical_encodeFields {e : ProgressEvent} (canonical : e.IsCanonical) :
    ∀ f ∈ e.encodeFields, ∀ v, f.2 = some v → v.Canonical := by
  simp only [encodeFields, List.forall_mem_cons]
  exact ⟨canonical_of_some trivial, canonical_of_some trivial, canonical_of_some trivial,
    canonical_of_some trivial, canonical_optional_text, canonical_optional_text, canonical,
    fun _ mem => absurd mem List.not_mem_nil⟩

/-- **An event is read as it comes back.** -/
theorem ProgressEvent.readsAs_encode {e : ProgressEvent} (canonical : e.IsCanonical)
    (origin : Origin) : ReadsAs (decode origin) e.encode e.settled := by
  have nodup : (e.encodeFields.map (·.1)).Nodup := by
    change ["indexStep", "action", "status", "time", "screenshot", "error", "metadata"].Nodup
    decide
  exact readsAs_objOf (unordered_decode origin) (canonical_encodeFields canonical) nodup
    (decode_encode_settled canonical origin)

/-- What is written for a summary is canonical. -/
theorem RunSummary.canonical_encodeFields (r : RunSummary) :
    ∀ f ∈ r.encodeFields, ∀ v, f.2 = some v → v.Canonical := by
  have index : (encodeIndex r.lastIndexStep).Canonical := by
    cases r.lastIndexStep <;> trivial
  simp only [encodeFields, List.forall_mem_cons]
  exact ⟨canonical_of_some trivial, canonical_of_some trivial, canonical_of_some index,
    canonical_of_some trivial, canonical_of_some trivial, canonical_of_some trivial,
    canonical_of_some trivial, canonical_of_some trivial, canonical_optional_text,
    fun _ mem => absurd mem List.not_mem_nil⟩

/-- **A summary is read as it is.** -/
theorem RunSummary.readsAs_encode {r : RunSummary} (fits : r.FitsWords) (origin : Origin) :
    ReadsAs (decode origin) r.encode r := by
  have nodup : (r.encodeFields.map (·.1)).Nodup := by
    change ["sessionId", "status", "lastIndexStep", "totalSteps", "completed", "failed", "skipped",
      "durationMs", "error"].Nodup
    decide
  exact readsAs_objOf (unordered_decode origin) r.canonical_encodeFields nodup
    (decode_encode fits origin)

/-- **A message is read as it comes back.** -/
theorem StreamMessage.readsAs_encode {m : StreamMessage} (fits : m.FitsWire) (origin : Origin) :
    ReadsAs (decode origin) m.encode m.settled := by
  have back := decode_encode_settled fits origin
  cases m with
  | session id testCase =>
    have nodup : ["type", "sessionId", "testCase"].Nodup := by decide
    refine readsAs_objOf (unordered_decode origin) ?_ nodup back
    simp only [List.forall_mem_cons]
    exact ⟨canonical_of_some trivial, canonical_of_some trivial, canonical_optional_text,
      fun _ mem => absurd mem List.not_mem_nil⟩
  | progress e =>
    have nodup : ["type", "indexStep", "action", "status", "time", "screenshot", "error",
      "metadata"].Nodup := by decide
    exact readsAs_objOf (unordered_decode origin) (List.forall_mem_cons.2
      ⟨canonical_of_some trivial, ProgressEvent.canonical_encodeFields fits⟩) nodup back
  | summary r =>
    have nodup : ["type", "sessionId", "status", "lastIndexStep", "totalSteps", "completed",
      "failed", "skipped", "durationMs", "error"].Nodup := by decide
    exact readsAs_objOf (unordered_decode origin) (List.forall_mem_cons.2
      ⟨canonical_of_some trivial, r.canonical_encodeFields⟩) nodup back

/-! ## Scripts -/

namespace TestScript

/-- A script may have its fields in any order. -/
theorem unordered_decode (origin : Origin) : Unordered (decode origin) :=
  (unordered_slots origin (fields origin)).bind _

/-- A script may have its steps taken up as values, if nothing else is changed. -/
theorem takenAs_fields {t : TestScript} {items taken : List Json}
    (h : List.Forall₂ (fun v w => json (Document.ofJson v) = .ok w) items taken) :
    List.Forall₂ TakenAs (given (t.encodeFields items)) (given (t.encodeFields taken)) := by
  have startUrl : (Json.ofOption Json.str t.startUrl).Canonical := by
    cases t.startUrl <;> trivial
  have texts : ∀ d : TestData, (TestData.encode d).Canonical :=
    canonical_ofDict fun _ => trivial
  exact .cons (takenAs_self trivial) <| .cons (takenAs_self trivial) <|
    .cons (takenAs_self startUrl) <| .cons ⟨rfl, json_arr h⟩ <|
    .cons (takenAs_self (canonical_ofDict texts t.dataScenarios)) .nil

/-- **A script is read as it comes back.** -/
theorem readsAs_encode {t : TestScript} (canonical : t.IsCanonical) (origin : Origin) :
    ReadsAs (decode origin) t.encode t.settled := by
  have steps : ∀ s ∈ t.steps, ReadsAs (StepRecord.decode origin) s.encode s.settled :=
    fun s mem => StepRecord.readsAs_encode (canonical s mem) origin
  obtain ⟨taken, values, back⟩ : ∃ taken,
      List.Forall₂ (fun v w => json (Document.ofJson v) = .ok w)
        (t.steps.map StepRecord.encode) taken ∧
      List.Forall₂ (fun v s => StepRecord.decode origin (Document.ofJson v) = .ok s) taken
        (t.steps.map StepRecord.settled) := by
    generalize t.steps = ss at steps
    induction ss with
    | nil => exact ⟨[], .nil, .nil⟩
    | cons s ss ih =>
      obtain ⟨first, others⟩ := List.forall_mem_cons.1 steps
      obtain ⟨w, value, decoded⟩ := first.taken
      obtain ⟨taken, values, back⟩ := ih others
      exact ⟨w :: taken, .cons value values, .cons decoded back⟩
  have written : List.Forall₂ (fun v s => StepRecord.decode origin (Document.ofJson v) = .ok s)
      (t.steps.map StepRecord.encode) (t.steps.map StepRecord.settled) :=
    List.forall₂_map_left_iff.2 (List.forall₂_map_right_iff.2
      (List.forall₂_same.2 fun s mem => (steps s mem).written))
  have nodup : ((given (t.encodeFields (t.steps.map StepRecord.encode))).map (·.1)).Nodup := by
    change ["name", "description", "startUrl", "steps", "dataScenarios"].Nodup
    decide
  rw [encode_eq]
  exact readsAs_obj (unordered_decode origin) (takenAs_fields values) nodup
    (decode_written written t) (decode_written back t)

end TestScript

/-! ## All records -/

/-- **All records make the round trip**: steps, events, summaries, messages and scripts. -/
theorem wire_roundTrip :
    RoundTrip StepRecord.encode StepRecord.decode StepRecord.IsCanonical StepRecord.settled ∧
    RoundTrip ProgressEvent.encode ProgressEvent.decode ProgressEvent.IsCanonical
      ProgressEvent.settled ∧
    RoundTrip RunSummary.encode RunSummary.decode RunSummary.FitsWords id ∧
    RoundTrip StreamMessage.encode StreamMessage.decode StreamMessage.FitsWire
      StreamMessage.settled ∧
    RoundTrip TestScript.encode TestScript.decode TestScript.IsCanonical TestScript.settled := by
  refine ⟨?step, ?event, ?summary, ?message, ?script⟩
  case step =>
    exact roundTrip_of (fun _ => StepRecord.readsAs_encode)
      (fun _ _ _ => StepRecord.isCanonical_of_decode) fun _ _ _ => StepRecord.settled_of_decode
  case event =>
    exact roundTrip_of (fun _ => ProgressEvent.readsAs_encode)
      (fun _ _ _ => ProgressEvent.isCanonical_of_decode)
      fun _ _ _ => ProgressEvent.settled_of_decode
  case summary =>
    exact roundTrip_of (fun _ => RunSummary.readsAs_encode)
      (fun _ _ _ => RunSummary.fitsWords_of_decode) fun _ _ _ _ _ => rfl
  case message =>
    exact roundTrip_of (fun _ => StreamMessage.readsAs_encode)
      (fun _ _ _ => StreamMessage.fitsWire_of_decode) fun _ _ _ => StreamMessage.settled_of_decode
  case script =>
    exact roundTrip_of (fun _ => TestScript.readsAs_encode)
      (fun _ _ _ => TestScript.isCanonical_of_decode) fun _ _ _ => TestScript.settled_of_decode

end Playback
