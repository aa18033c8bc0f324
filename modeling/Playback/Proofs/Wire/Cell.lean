import Playback.Proofs.Wire.Shape

/-!
# The values of records

A record is told by its cells: what each field is called, how it is read, what it is if it is left out,
and which value it has. Its documents are those in which every field is given so, or may be left out.

* `Wire.Cell`, `Wire.Cell.Given` — **a field with its value**, and documents that have it;
* `Wire.Cell.readAt_iff` — **what is decoded from a slot** is the value that the document has;
* `Wire.RecordIn`, `Wire.recordIn_iff` — **the documents of a record**, which are those that it is
  decoded from.
-/

namespace Playback.Wire

variable {origin : Origin} {fields : List Field} {part d : Document} {i : Nat} {s : Slots}
  {α β : Type} {decode : Document → Result α} {R : Document → α → Prop}

/-! ## Reading -/

/-- **Reading by a decoder.** -/
def Reads (decode : Document → Result α) (part : Document) (a : α) : Prop := decode part = .ok a

/-- A decoder reads what it decodes. -/
theorem reads_iff (decode : Document → Result α) (part : Document) (a : α) :
    decode part = .ok a ↔ Reads decode part a := Iff.rfl

/-- A list is decoded if its items are. -/
theorem listOf_eq_ok_iff {as : List α} (agree : ∀ part a, decode part = .ok a ↔ R part a) :
    listOf decode d = .ok as ↔ ∃ items, d = .list items ∧ List.Forall₂ R items as := by
  cases d with
  | list items =>
    simp only [Document.list.injEq, exists_eq_left', listOf]
    induction items generalizing as with
    | nil =>
      rw [List.forall₂_nil_left_iff]
      exact Except.ok.injEq [] as ▸ eq_comm
    | cons item items ih =>
      simp only [List.mapM_cons, bind_eq_ok, ih, agree, List.forall₂_cons_left_iff]
      constructor
      · rintro ⟨b, reads, bs, others, same⟩
        exact ⟨b, bs, reads, others, (Except.ok.inj same).symm⟩
      · rintro ⟨b, bs, reads, others, rfl⟩
        exact ⟨b, reads, bs, others, rfl⟩
  | null | bool | int | float | str | map | damaged | unreadable =>
    refine iff_of_false (fun h => ?_) ?_
    · cases h
    · rintro ⟨items, same, -⟩
      cases same

/-! ## Cells -/

/-- **A field of a record with its value.** -/
structure Cell where
  {α : Type}
  {decode : Document → Result α}
  {R : Document → α → Prop}
  /-- The name of the field. -/
  name : String
  /-- How the field is read, which is how it is decoded. -/
  agree : ∀ part a, decode part = .ok a ↔ R part a
  /-- The value that it has if it is left out; none if it must be given. -/
  default? : Option α
  /-- Its value. -/
  value : α

namespace Cell

variable {c : Cell} {cells : List Cell}

/-- A field that is read by its decoder. -/
def plain {α : Type} (name : String) (decode : Document → Result α) (default? : Option α)
    (value : α) : Cell :=
  ⟨name, reads_iff decode, default?, value⟩

/-- The field itself. -/
def field (c : Cell) : Field := Wire.field c.name c.decode

/-- **A cell is as a document has it**: its value is read from what is given for the field, or
nothing is given and the value is the default. -/
inductive Given (fields : List Field) (d : Document) (c : Cell) : Prop where
  | read {part : Document} (gives : Gives fields c.name part d) (reads : c.R part c.value)
  | left (nothing : ∀ part, ¬ Gives fields c.name part d) (default_eq : c.default? = some c.value)

/-- What is decoded from the slot of a field. -/
def readAt (c : Cell) (s : Slots) (i : Nat) : Result c.α :=
  match c.default? with
  | none => s.required i c.decode
  | some default => s.defaulted i c.decode default

/-- A slot that was filled is decoded, -/
theorem readAt_of_filled {part : Document} (filled : s[i]? = some (some part)) :
    c.readAt s i = c.decode part := by
  rw [readAt]
  split
  · rw [Slots.required, filled]
  · rw [Slots.defaulted, filled]

/-- and one that is empty has the default, if there is one. -/
theorem readAt_of_empty (empty : ∀ part, s[i]? ≠ some (some part)) :
    c.readAt s i = c.default?.elim (.error .mismatch) .ok := by
  rw [readAt]
  split
  · next needed =>
    rw [needed, Slots.required]
    split
    · next part filled => exact absurd filled (empty part)
    · rfl
  · next default default_eq =>
    rw [default_eq, Slots.defaulted]
    split
    · next part filled => exact absurd filled (empty part)
    · rfl

/-- **What is decoded from its slot** is the value that the document has. -/
theorem readAt_iff (holds : Holds fields d s) (here : fields[i]? = some c.field) :
    c.readAt s i = .ok c.value ↔ c.Given fields d := by
  have slot_iff : ∀ part, s[i]? = some (some part) ↔ Gives fields c.name part d :=
    holds.slot_iff i c.field here
  -- a slot that was filled has its document, and one that was not has the default
  by_cases given : ∃ part, s[i]? = some (some part)
  · obtain ⟨part, filled⟩ := given
    rw [readAt_of_filled filled, c.agree]
    refine ⟨.read ((slot_iff part).1 filled), ?_⟩
    rintro (⟨gives, reads⟩ | ⟨nothing, -⟩)
    · obtain rfl := Option.some.inj (Option.some.inj (filled.symm.trans ((slot_iff _).2 gives)))
      exact reads
    · exact absurd ((slot_iff part).1 filled) (nothing part)
  · rw [readAt_of_empty fun part filled => given ⟨part, filled⟩]
    have left : c.Given fields d ↔ c.default? = some c.value := by
      refine ⟨?_, .left fun part gives => given ⟨part, (slot_iff part).2 gives⟩⟩
      rintro (⟨gives, -⟩ | ⟨-, default_eq⟩)
      · exact absurd ⟨_, (slot_iff _).2 gives⟩ given
      · exact default_eq
    rw [left]
    cases c.default? <;> simp

/-- **What a document gives for a cell** is read as its value, -/
theorem Given.reads (h : c.Given fields d) (shape : HasShape origin fields d)
    (nodup : (fields.map Field.name).Nodup) (mem : c.field ∈ fields)
    (gives : Gives fields c.name part d) : c.R part c.value := by
  rcases h with ⟨gives', reads⟩ | ⟨nothing, -⟩
  · obtain rfl := shape.gives_unique nodup mem gives gives'
    exact reads
  · exact absurd gives (nothing part)

/-- and so it passes the check of the field. -/
theorem check_of_reads (reads : c.R part c.value) : c.field.check part = .ok () := by
  change (c.decode part).map (fun _ => ()) = .ok ()
  rw [(c.agree part c.value).2 reads]
  rfl

/-- The values of cells are decoded from the slots, one after the other. -/
def ReadFrom (s : Slots) : Nat → List Cell → Prop
  | _, [] => True
  | i, c :: cells => c.readAt s i = .ok c.value ∧ ReadFrom s (i + 1) cells

/-- That is, each from its own slot. -/
theorem readFrom_iff {start : Nat} : ReadFrom s start cells ↔
    ∀ (i : Nat) (c : Cell), cells[i]? = some c → c.readAt s (start + i) = .ok c.value := by
  induction cells generalizing start with
  | nil => simp [ReadFrom]
  | cons first cells ih =>
    rw [ReadFrom, ih]
    constructor
    · rintro ⟨now, later⟩ i c here
      cases i with
      | zero =>
        obtain rfl := Option.some.inj here
        exact now
      | succ i =>
        rw [← Nat.add_assoc, Nat.add_right_comm]
        exact later i c here
    · refine fun each => ⟨each 0 first rfl, fun i c here => ?_⟩
      rw [Nat.add_right_comm, Nat.add_assoc]
      exact each (i + 1) c here

end Cell

/-! ## Records -/

/-- **The document of a record**: it has the shape of one, and every cell is as it has it. -/
structure RecordIn (origin : Origin) (cells : List Cell) (d : Document) : Prop where
  shape : HasShape origin (cells.map Cell.field) d
  given : ∀ c ∈ cells, c.Given (cells.map Cell.field) d

/-- What a document gives for a field of its record is read as the value of the field. -/
theorem RecordIn.reads {cells : List Cell} {c : Cell} (h : RecordIn origin cells d)
    (nodup : (cells.map Cell.name).Nodup) (mem : c ∈ cells)
    (gives : Gives (cells.map Cell.field) c.name part d) : c.R part c.value := by
  have names : ((cells.map Cell.field).map Field.name).Nodup := by rwa [List.map_map]
  exact (h.given c mem).reads h.shape names (List.mem_map_of_mem mem) gives

/-- **A record is decoded from its documents**, and from no others, if a decoder reads one cell after
the other from the slots. -/
theorem recordIn_iff {cells : List Cell} {record : Slots → Result β} {b : β}
    (nodup : (cells.map Cell.name).Nodup)
    (reads : ∀ s, record s = .ok b ↔ Cell.ReadFrom s 0 cells) :
    (slots origin (cells.map Cell.field) d >>= record) = .ok b ↔ RecordIn origin cells d := by
  have names : ((cells.map Cell.field).map Field.name).Nodup := by rwa [List.map_map]
  have readAt_iff : ∀ {s : Slots}, Holds (cells.map Cell.field) d s →
      ∀ (i : Nat) (c : Cell), cells[i]? = some c →
        (c.readAt s (0 + i) = .ok c.value ↔ c.Given (cells.map Cell.field) d) := by
    intro s holds i c here
    rw [Nat.zero_add]
    exact Cell.readAt_iff holds (by rw [List.getElem?_map, here, Option.map_some])
  simp only [bind_eq_ok, reads, Cell.readFrom_iff]
  constructor
  · rintro ⟨s, filled, each⟩
    obtain ⟨isRecord, holds⟩ := (slots_eq_ok_iff names).1 filled
    refine ⟨isRecord.shape, fun c mem => ?_⟩
    obtain ⟨i, here⟩ := List.getElem?_of_mem mem
    exact (readAt_iff holds i c here).1 (each i c here)
  · intro h
    -- the checks of the fields need no words of their own: what is read passes them
    have isRecord : IsRecord origin (cells.map Cell.field) d :=
      ⟨h.shape, List.forall_mem_map.2 fun c mem part gives =>
        Cell.check_of_reads (h.reads nodup mem gives)⟩
    obtain ⟨s, filled, holds⟩ := isRecord.exists_slots names
    exact ⟨s, filled, fun i c here =>
      (readAt_iff holds i c here).2 (h.given c (List.mem_of_getElem? here))⟩

end Playback.Wire
