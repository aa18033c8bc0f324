import Playback.Proofs.Json.Numeral
import Playback.Proofs.Json.Quote

/-!
# Compact text is read back

What `Json.compact` writes is one line of text, and `Json.read` reads it back as the value, as far
as that can be said of the numbers in it.

* `Json.height` — how deep a value is nested;
* `Json.NumbersKept` — **the numbers of a value are read back** as they were written;
* `Json.readValue_compact` — a value is read within a longer text, by induction on the value;
* `Json.read_compact` — **compact text is read back**;
* `Json.isPrintable_compact` — it has no control characters.
-/

namespace Playback

namespace Json

/-! ## Measures of values -/

mutual

/-- **How deep a value is nested**: scalars are not. -/
def height : Json → Nat
  | null => 0
  | bool _ => 0
  | int _ => 0
  | float _ => 0
  | str _ => 0
  | arr items => heightItems items + 1
  | obj fields => heightFields fields + 1

/-- How deep the deepest item is nested. -/
def heightItems : List Json → Nat
  | [] => 0
  | item :: items => max (height item) (heightItems items)

/-- How deep the deepest field is nested. -/
def heightFields : List (String × Json) → Nat
  | [] => 0
  | (_, value) :: fields => max (height value) (heightFields fields)

end

mutual

/-- **The numbers of a value are read back** as they were written. -/
def NumbersKept : Json → Prop
  | null => True
  | bool _ => True
  | int n => ReadsBack (int n)
  | float x => ReadsBack (float x)
  | str _ => True
  | arr items => ItemNumbersKept items
  | obj fields => FieldNumbersKept fields

/-- The numbers of all items are read back. -/
def ItemNumbersKept : List Json → Prop
  | [] => True
  | item :: items => NumbersKept item ∧ ItemNumbersKept items

/-- The numbers of all fields are read back. -/
def FieldNumbersKept : List (String × Json) → Prop
  | [] => True
  | (_, value) :: fields => NumbersKept value ∧ FieldNumbersKept fields

end

/-- **The numbers of an object are read back** if those of what was written for its fields are. -/
theorem numbersKept_objOf (written : List (String × Option Json)) :
    (objOf written).NumbersKept ↔ ∀ w ∈ written, ∀ v, w.2 = some v → v.NumbersKept := by
  change FieldNumbersKept (written.filterMap fun w => w.2.map fun v => (w.1, v)) ↔ _
  induction written with
  | nil => exact iff_of_true trivial fun w hw => nomatch hw
  | cons w written ih =>
    obtain ⟨name, value⟩ := w
    rw [List.forall_mem_cons, ← ih]
    cases value with
    | none => exact ⟨fun h => ⟨fun v same => (nomatch same), h⟩, fun h => h.2⟩
    | some v =>
      exact ⟨fun h => ⟨fun v' same => Option.some.inj same ▸ h.1, h.2⟩, fun h => ⟨h.1 v rfl, h.2⟩⟩

/-- An object is nested one level deeper than what was written for its fields. -/
theorem height_objOf_le {written : List (String × Option Json)} {n : Nat}
    (h : ∀ w ∈ written, ∀ v, w.2 = some v → v.height ≤ n) : (objOf written).height ≤ n + 1 := by
  change heightFields (written.filterMap fun w => w.2.map fun v => (w.1, v)) + 1 ≤ n + 1
  refine Nat.succ_le_succ ?_
  induction written with
  | nil => exact Nat.zero_le n
  | cons w written ih =>
    obtain ⟨name, value⟩ := w
    obtain ⟨first, others⟩ := List.forall_mem_cons.1 h
    cases value with
    | none => exact ih others
    | some v => exact Nat.max_le.2 ⟨first v rfl, ih others⟩

/-! ## The first character -/

/-- A text that begins with a value: its first character is not blank and closes nothing. -/
def Opens (cs : List Char) : Prop :=
  ∃ c r, cs = c :: r ∧ isSpace c = false ∧ c ≠ ']' ∧ c ≠ '}'

/-- A text that begins with no blank is left as it is. -/
theorem skipSpace_cons {c : Char} (solid : isSpace c = false) (cs : List Char) :
    skipSpace (c :: cs) = c :: cs :=
  List.dropWhile_cons_of_neg (by rw [solid]; exact Bool.false_ne_true)

/-- A text that begins with a value has no blanks in front. -/
theorem Opens.skipSpace {cs : List Char} (h : Opens cs) : skipSpace cs = cs := by
  obtain ⟨c, r, rfl, solid, -, -⟩ := h
  exact skipSpace_cons solid r

/-- It begins so whatever follows. -/
theorem Opens.append {cs : List Char} (h : Opens cs) (rest : List Char) : Opens (cs ++ rest) := by
  obtain ⟨c, r, rfl, solid, bracket, brace⟩ := h
  exact ⟨c, r ++ rest, rfl, solid, bracket, brace⟩

/-- A number that is read back begins with a character of numerals. -/
theorem opens_number {v : Json} (numeral : IsNumeral v.compactChars)
    (sound : Document.ofJson v ≠ .damaged) (h : ReadsBack v) : Opens v.compactChars := by
  have whole := readNumber_of_readsBack numeral sound h
  generalize v.compactChars = cs at numeral whole
  cases cs with
  | nil => exact nomatch whole
  | cons c r =>
    have first := numeral c List.mem_cons_self
    refine ⟨c, r, rfl, isSpace_of_isNumeralChar first, ?_, ?_⟩
    · rintro rfl
      exact absurd first (by decide)
    · rintro rfl
      exact absurd first (by decide)

/-- A number that is read back is finite, and written as a numeral. -/
theorem isNumeral_of_readsBack {x : Binary64} (h : ReadsBack (float x)) :
    IsNumeral (float x).compactChars := by
  by_cases finite : x.isFinite = true
  · rw [compactChars, if_pos finite]
    exact isNumeral_float finite
  · -- what is not finite is written as nothing
    have nothing : (float x).compact = null.compact := by
      rw [compact, compactChars, if_neg finite]
      rfl
    rw [ReadsBack, nothing] at h
    exact Document.noConfusion (Prod.mk.inj h).1

/-- **A value begins with a character that is not blank and closes nothing.** -/
theorem opens_compactChars (v : Json) (kept : v.NumbersKept) : Opens v.compactChars := by
  cases v with
  | null => exact ⟨'n', _, rfl, by decide⟩
  | bool b => cases b <;> exact ⟨_, _, rfl, by decide⟩
  | int n => exact opens_number (isNumeral_int n) Document.noConfusion kept
  | float x => exact opens_number (isNumeral_of_readsBack kept) Document.noConfusion kept
  | str s => exact ⟨'"', _, rfl, by decide⟩
  | arr items => exact ⟨'[', _, rfl, by decide⟩
  | obj fields => exact ⟨'{', _, rfl, by decide⟩

/-! ## Values within a text -/

/-- **A value is read within a text**, in front of whatever cannot go on with it. -/
def ReadsWithin (v : Json) : Prop :=
  ∀ ⦃fuel depth : Nat⦄ ⦃rest : List Char⦄, v.compactChars.length < fuel →
    depth + v.height ≤ maxDepth → Stops rest →
      readValue fuel depth (v.compactChars ++ rest) = (Document.ofJson v, some rest)

/-- **Items are read up to the closing bracket.** -/
def ItemsReadWithin (items : List Json) : Prop :=
  ∀ ⦃fuel depth : Nat⦄ ⦃rest : List Char⦄, items ≠ [] → (compactItems items).length + 1 < fuel →
    depth + heightItems items ≤ maxDepth →
      readItems fuel depth (compactItems items ++ ']' :: rest) =
        (Document.ofJsonItems items, some rest)

/-- **Fields are read up to the closing brace.** -/
def FieldsReadWithin (fields : List (String × Json)) : Prop :=
  ∀ ⦃fuel depth : Nat⦄ ⦃rest : List Char⦄, fields ≠ [] → (compactFields fields).length < fuel →
    depth + heightFields fields ≤ maxDepth →
      readEntries fuel depth (compactFields fields ++ '}' :: rest) =
        (Document.ofJsonFields fields, some rest)

/-- A number that is read back is read within a text. -/
theorem readsWithin_number {v : Json} (numeral : IsNumeral v.compactChars)
    (sound : Document.ofJson v ≠ .damaged) (h : ReadsBack v) : ReadsWithin v := by
  intro fuel depth rest enough _ stops
  obtain ⟨fuel, rfl⟩ := Nat.exists_eq_succ_of_ne_zero (Nat.ne_zero_of_lt enough)
  exact readValue_number numeral sound h stops fuel depth

/-- A quoted text is a quote, its characters as they are written, and a quote. -/
theorem quote_append (s : String) (rest : List Char) :
    quote s ++ rest = '"' :: (s.toList.flatMap escapeChar ++ '"' :: rest) := by
  rw [quote, List.cons_append, List.append_assoc]
  rfl

/-- A text is read within a text. -/
theorem readsWithin_str (s : String) : ReadsWithin (str s) := by
  intro fuel depth rest enough _ _
  obtain ⟨fuel, rfl⟩ := Nat.exists_eq_succ_of_ne_zero (Nat.ne_zero_of_lt enough)
  rw [compactChars, quote_append, readValue, skipSpace_cons (by decide)]
  simp only [readString_quote]
  rfl

/-! ## Containers within a text -/

/-- A container that is not nested too deep is one. -/
theorem atDepth_shallow {depth : Nat} (shallow : depth ≤ maxDepth) (whole : Bool)
    (container : Document) : atDepth depth whole container = container := by
  have deep : ¬ (whole && decide (maxDepth < depth)) = true := fun h =>
    Nat.not_lt.2 shallow (of_decide_eq_true (Bool.and_eq_true_iff.1 h).2)
  rw [atDepth, if_neg deep]

/-- What opens with a value is not the end of an array: its items are read. -/
theorem readValue_bracket {cs : List Char} (opens : Opens cs) (fuel depth : Nat) :
    readValue (fuel + 1) depth ('[' :: cs) =
      (atDepth (depth + 1) (readItems fuel (depth + 1) cs).2.isSome
        (.list (readItems fuel (depth + 1) cs).1), (readItems fuel (depth + 1) cs).2) := by
  rw [readValue, skipSpace_cons (by decide)]
  simp only [opens.skipSpace]
  obtain ⟨c, r, rfl, -, bracket, -⟩ := opens
  split
  · next same => exact absurd (List.cons.inj same).1 bracket
  · rfl

/-- What opens with a value is not the end of an object: its fields are read. -/
theorem readValue_brace {cs : List Char} (opens : Opens cs) (fuel depth : Nat) :
    readValue (fuel + 1) depth ('{' :: cs) =
      (atDepth (depth + 1) (readEntries fuel (depth + 1) cs).2.isSome
        (.map (readEntries fuel (depth + 1) cs).1), (readEntries fuel (depth + 1) cs).2) := by
  rw [readValue, skipSpace_cons (by decide)]
  simp only [opens.skipSpace]
  obtain ⟨c, r, rfl, -, -, brace⟩ := opens
  split
  · next same => exact absurd (List.cons.inj same).1 brace
  · rfl

/-- An array is read within a text if its items are. -/
theorem readsWithin_arr {items : List Json} (opens : items ≠ [] → Opens (compactItems items))
    (h : ItemsReadWithin items) : ReadsWithin (arr items) := by
  intro fuel depth rest enough shallow _
  obtain ⟨fuel, rfl⟩ := Nat.exists_eq_succ_of_ne_zero (Nat.ne_zero_of_lt enough)
  have bracketed : (arr items).compactChars ++ rest =
      '[' :: (compactItems items ++ ']' :: rest) := by
    rw [compactChars, List.cons_append, List.append_assoc]
    rfl
  rw [compactChars, List.length_cons, List.length_append, List.length_singleton] at enough
  rw [height] at shallow
  rw [bracketed]
  by_cases empty : items = []
  · subst empty
    change (atDepth (depth + 1) true (.list []), some rest) = _
    rw [atDepth_shallow (by omega)]
    rfl
  · rw [readValue_bracket ((opens empty).append _), h empty (by omega) (by omega),
      atDepth_shallow (by omega)]
    rfl

/-- An object is read within a text if its fields are. -/
theorem readsWithin_obj {fields : List (String × Json)}
    (opens : fields ≠ [] → Opens (compactFields fields))
    (h : FieldsReadWithin fields) : ReadsWithin (obj fields) := by
  intro fuel depth rest enough shallow _
  obtain ⟨fuel, rfl⟩ := Nat.exists_eq_succ_of_ne_zero (Nat.ne_zero_of_lt enough)
  have braced : (obj fields).compactChars ++ rest =
      '{' :: (compactFields fields ++ '}' :: rest) := by
    rw [compactChars, List.cons_append, List.append_assoc]
    rfl
  rw [compactChars, List.length_cons, List.length_append, List.length_singleton] at enough
  rw [height] at shallow
  rw [braced]
  by_cases empty : fields = []
  · subst empty
    change (atDepth (depth + 1) true (.map []), some rest) = _
    rw [atDepth_shallow (by omega)]
    rfl
  · rw [readValue_brace ((opens empty).append _), h empty (by omega) (by omega),
      atDepth_shallow (by omega)]
    rfl

/-! ## Items and fields -/

/-- What follows an item or a field stops a numeral. -/
theorem stops_separator (rest : List Char) :
    Stops (',' :: rest) ∧ Stops (']' :: rest) ∧ Stops ('}' :: rest) :=
  ⟨stops_cons (by decide) rest, stops_cons (by decide) rest, stops_cons (by decide) rest⟩

/-- **The items of an array are read** up to its bracket if each of them is read within a text. -/
theorem itemsReadWithin_cons {item : Json} {items : List Json} (first : ReadsWithin item)
    (others : ItemsReadWithin items) : ItemsReadWithin (item :: items) := by
  intro fuel depth rest _ enough shallow
  obtain ⟨fuel, rfl⟩ := Nat.exists_eq_succ_of_ne_zero (Nat.ne_zero_of_lt enough)
  rw [heightItems] at shallow
  cases items with
  | nil =>
    rw [compactItems] at enough ⊢
    rw [readItems, first (by omega) (by omega) (stops_separator rest).2.1]
    rfl
  | cons next items =>
    have separated : compactItems (item :: next :: items) =
        item.compactChars ++ ',' :: compactItems (next :: items) := rfl
    rw [separated, List.length_append, List.length_cons] at enough
    rw [separated, List.append_assoc, List.cons_append, readItems,
      first (by omega) (by omega) (stops_separator _).1]
    change (Document.ofJson item :: (readItems fuel depth _).1, (readItems fuel depth _).2) = _
    rw [others (List.cons_ne_nil _ _) (by omega) (by omega)]
    rfl

/-- A field whose value is followed by a brace is the last one. -/
theorem readEntries_last {name : String} {rest r : List Char} {fuel depth : Nat} {value : Document}
    (h : readValue fuel depth rest = (value, some ('}' :: r))) :
    readEntries (fuel + 1) depth (quote name ++ ':' :: rest) = ([(.str name, value)], some r) := by
  rw [quote_append, readEntries]
  simp (disch := decide) only [skipSpace_cons, readString_quote, h]

/-- One whose value is followed by a comma has others behind it. -/
theorem readEntries_more {name : String} {rest r : List Char} {fuel depth : Nat} {value : Document}
    (h : readValue fuel depth rest = (value, some (',' :: r))) :
    readEntries (fuel + 1) depth (quote name ++ ':' :: rest) =
      ((.str name, value) :: (readEntries fuel depth r).1, (readEntries fuel depth r).2) := by
  rw [quote_append, readEntries]
  simp (disch := decide) only [skipSpace_cons, readString_quote, h]

/-- **The fields of an object are read** up to its brace if each of their values is read within a
text. -/
theorem fieldsReadWithin_cons {name : String} {value : Json} {fields : List (String × Json)}
    (first : ReadsWithin value) (others : FieldsReadWithin fields) :
    FieldsReadWithin ((name, value) :: fields) := by
  intro fuel depth rest _ enough shallow
  obtain ⟨fuel, rfl⟩ := Nat.exists_eq_succ_of_ne_zero (Nat.ne_zero_of_lt enough)
  rw [heightFields] at shallow
  cases fields with
  | nil =>
    rw [compactFields, List.length_append, List.length_cons] at enough
    have closed := @first fuel depth ('}' :: rest) (by omega) (by omega) (stops_separator rest).2.2
    rw [compactFields, List.append_assoc, List.cons_append, readEntries_last closed]
    rfl
  | cons next fields =>
    have separated : compactFields ((name, value) :: next :: fields) =
        quote name ++ ':' :: (value.compactChars ++ ',' :: compactFields (next :: fields)) := by
      rw [compactFields, List.append_assoc, List.cons_append]
      exact List.cons_ne_nil _ _
    rw [separated, List.length_append, List.length_cons, List.length_append,
      List.length_cons] at enough
    have parted := @first fuel depth (',' :: (compactFields (next :: fields) ++ '}' :: rest))
      (by omega) (by omega) (stops_separator _).1
    rw [separated, List.append_assoc, List.cons_append, List.append_assoc, List.cons_append,
      readEntries_more parted]
    rw [others (List.cons_ne_nil _ _) (by omega) (by omega)]
    rfl

/-! ## Whole texts -/

/-- Items open with their first item. -/
theorem opens_compactItems {items : List Json} (kept : ItemNumbersKept items)
    (some : items ≠ []) : Opens (compactItems items) := by
  cases items with
  | nil => exact absurd rfl some
  | cons item items =>
    rw [ItemNumbersKept] at kept
    cases items with
    | nil => exact opens_compactChars item kept.1
    | cons next items => exact (opens_compactChars item kept.1).append _

/-- Fields open with the name of the first one. -/
theorem opens_compactFields {fields : List (String × Json)} (some : fields ≠ []) :
    Opens (compactFields fields) := by
  have name : ∀ (s : String) (rest : List Char), Opens (quote s ++ rest) :=
    fun s rest => Opens.append ⟨'"', _, rfl, by decide⟩ rest
  cases fields with
  | nil => exact absurd rfl some
  | cons field fields =>
    cases fields with
    | nil => exact name _ _
    | cons next fields => exact (name _ _).append _

mutual

/-- **A value is read within a text**, by induction on it. -/
theorem readValue_compact (v : Json) (kept : v.NumbersKept) : ReadsWithin v := by
  cases v with
  | null =>
    intro fuel depth rest enough _ _
    obtain ⟨fuel, rfl⟩ := Nat.exists_eq_succ_of_ne_zero (Nat.ne_zero_of_lt enough)
    rfl
  | bool b =>
    intro fuel depth rest enough _ _
    obtain ⟨fuel, rfl⟩ := Nat.exists_eq_succ_of_ne_zero (Nat.ne_zero_of_lt enough)
    cases b <;> rfl
  | int n =>
    have numeral : IsNumeral (int n).compactChars := isNumeral_int n
    exact readsWithin_number numeral Document.noConfusion kept
  | float x => exact readsWithin_number (isNumeral_of_readsBack kept) Document.noConfusion kept
  | str s => exact readsWithin_str s
  | arr items =>
    exact readsWithin_arr (opens_compactItems kept) (readItems_compact items kept)
  | obj fields =>
    exact readsWithin_obj opens_compactFields (readFields_compact fields kept)

/-- The items of an array are read within a text. -/
theorem readItems_compact (items : List Json) (kept : ItemNumbersKept items) :
    ItemsReadWithin items := by
  cases items with
  | nil => exact fun _ _ _ some => absurd rfl some
  | cons item items =>
    exact itemsReadWithin_cons (readValue_compact item kept.1) (readItems_compact items kept.2)

/-- The fields of an object are read within a text. -/
theorem readFields_compact (fields : List (String × Json)) (kept : FieldNumbersKept fields) :
    FieldsReadWithin fields := by
  cases fields with
  | nil => exact fun _ _ _ some => absurd rfl some
  | cons field fields =>
    obtain ⟨name, value⟩ := field
    exact fieldsReadWithin_cons (readValue_compact value kept.1)
      (readFields_compact fields kept.2)

end

/-- **Compact text is read back**, if the numbers in it are, and nothing follows it. -/
theorem read_compact {v : Json} (kept : v.NumbersKept) (shallow : v.height ≤ maxDepth) :
    read v.compact = (Document.ofJson v, false) := by
  have whole := readValue_compact v kept (Nat.lt_succ_self _)
    (by rw [Nat.zero_add]; exact shallow) stops_nil
  rw [List.append_nil] at whole
  rw [read, compact, String.toList_ofList, whole]
  rfl

/-- Whether a number is read back can be computed. -/
instance (x : Binary64) : Decidable (ReadsBack (float x)) :=
  decidable_of_iff ((match read (float x).compact with
    | (.float y, more) => decide (y = x) && !more
    | _ => false) = true) (by
      rw [ReadsBack, Document.ofJson]
      generalize read (float x).compact = result
      obtain ⟨d, more⟩ := result
      cases d <;> simp)

/-- Half a second in milliseconds is read back. -/
example : read (obj [("actualMs", float (Binary64.ofNat 500))]).compact =
    (.map [(.str "actualMs", .float (Binary64.ofNat 500))], false) := by
  have back : ReadsBack (float (Binary64.ofNat 500)) := by decide +kernel
  exact read_compact ⟨back, trivial⟩ (by decide)

/-! ## One line -/

/-- Numerals have no control characters. -/
theorem isPrintable_numeral {cs : List Char} (numeral : IsNumeral cs) : IsPrintable cs := by
  intro c hmem
  have h := numeral c hmem
  simp only [isNumeralChar, isDigit, Bool.or_eq_true, Bool.and_eq_true, decide_eq_true_eq,
    beq_iff_eq] at h
  rcases h with ((((⟨low, -⟩ | rfl) | rfl) | rfl) | rfl) | rfl
  all_goals first | decide | exact Nat.le_trans (by decide) (UInt32.le_iff_toNat_le.1 low)

mutual

/-- **Compact text has no control characters**, hence no line breaks. -/
theorem isPrintable_compact (v : Json) : IsPrintable v.compactChars := by
  cases v with
  | null => exact isPrintable_of_all rfl
  | bool b => cases b <;> exact isPrintable_of_all rfl
  | int n => exact isPrintable_numeral (isNumeral_int n)
  | float x =>
    rw [compactChars]
    split
    · exact isPrintable_numeral (isNumeral_float ‹_›)
    · exact isPrintable_of_all rfl
  | str s => exact isPrintable_quote s
  | arr items =>
    rw [compactChars]
    exact isPrintable_cons (by decide)
      (isPrintable_append (isPrintable_items items) (isPrintable_of_all rfl))
  | obj fields =>
    rw [compactChars]
    exact isPrintable_cons (by decide)
      (isPrintable_append (isPrintable_fields fields) (isPrintable_of_all rfl))

/-- Nor have the items of an array. -/
theorem isPrintable_items (items : List Json) : IsPrintable (compactItems items) := by
  cases items with
  | nil => exact fun _ h => nomatch h
  | cons item items =>
    cases items with
    | nil => exact isPrintable_compact item
    | cons next items =>
      exact isPrintable_append (isPrintable_compact item)
        (isPrintable_cons (by decide) (isPrintable_items (next :: items)))

/-- Nor have the fields of an object. -/
theorem isPrintable_fields (fields : List (String × Json)) :
    IsPrintable (compactFields fields) := by
  cases fields with
  | nil => exact fun _ h => nomatch h
  | cons field fields =>
    obtain ⟨name, value⟩ := field
    have first : IsPrintable (quote name ++ ':' :: value.compactChars) :=
      isPrintable_append (isPrintable_quote name)
        (isPrintable_cons (by decide) (isPrintable_compact value))
    cases fields with
    | nil => exact first
    | cons next fields =>
      exact isPrintable_append first
        (isPrintable_cons (by decide) (isPrintable_fields (next :: fields)))

end

end Json

end Playback
