import Mathlib.Data.List.Pairwise
import Playback.Proofs.Wire.Decoded

/-!
# The shapes of records

A record is given as a mapping, whose keys name its fields, or as a list of the fields in the order
of their declaration. What it gives for each field is told here without saying how slots are filled.

* `Wire.Names`, `Wire.Gives` — how a key **names a field**, and what a document **gives for it**;
* `Wire.HasShape`, `Wire.HasShape.gives_unique` — **the shape of a record**, in which nothing is
  given twice;
* `Wire.IsRecord`, `Wire.slots_eq_ok_iff`, `Wire.IsRecord.exists_slots` — **the slots of a record**
  hold what is given.
-/

namespace Playback.Wire

variable {origin : Origin} {fields : List Field} {key part d : Document} {i j : Nat} {f g : Field}
  {entries : List (Document × Document)} {s filled : Slots}

/-! ## Keys -/

/-- **A key of a mapping**: a text or a natural number. -/
inductive IsKey : Document → Prop where
  | text (name : String) : IsKey (.str name)
  | number (n : Nat) : IsKey (.int n)

/-- **A key names a field**, by the name of the field or by its position. -/
inductive Names (fields : List Field) (name : String) : Document → Prop where
  | byName : Names fields name (.str name)
  | byPosition {i : Nat} {f : Field} (here : fields[i]? = some f) (named : f.name = name) :
      Names fields name (.int i)

/-- Fields with one name are one field. -/
theorem index_eq (nodup : (fields.map Field.name).Nodup) (hi : fields[i]? = some f)
    (hj : fields[j]? = some g) (same : f.name = g.name) : i = j := by
  obtain ⟨bound, -⟩ := List.getElem?_eq_some_iff.1 hi
  have names : (fields.map Field.name)[i]? = (fields.map Field.name)[j]? := by
    rw [List.getElem?_map, List.getElem?_map, hi, hj, Option.map_some, Option.map_some, same]
  exact (List.getElem?_inj (by rwa [List.length_map]) nodup).1 names

/-- Only keys have positions. -/
theorem isKey_of_position {place : Option Nat} (h : position fields key = .ok place) :
    IsKey key := by
  cases key with
  | str name => exact .text name
  | int n =>
    rw [position] at h
    split at h
    · next natural =>
      obtain ⟨m, rfl⟩ := Int.eq_ofNat_of_zero_le natural
      exact .number m
    · cases h
  | null | bool | float | list | map | damaged | unreadable => cases h

/-- **The position of a key** is that of a field which it names, -/
theorem exists_of_position (h : position fields key = .ok (some i)) :
    ∃ f, fields[i]? = some f ∧ Names fields f.name key := by
  cases isKey_of_position h with
  | text name =>
    have found : fields.findIdx? (fun g => g.name == name) = some i := Except.ok.inj h
    obtain ⟨bound, same, -⟩ := List.findIdx?_eq_some_iff_getElem.1 found
    obtain rfl := beq_iff_eq.1 same
    exact ⟨fields[i], List.getElem?_eq_getElem bound, .byName⟩
  | number n =>
    rw [position, if_pos (Int.natCast_nonneg n)] at h
    have place := Except.ok.inj h
    split at place
    · next inside =>
      obtain rfl : n = i := Option.some.inj place
      have here : fields[n]? = some fields[n] := List.getElem?_eq_getElem (by exact_mod_cast inside)
      exact ⟨fields[n], here, .byPosition here rfl⟩
    · cases place

/-- and a key that names a field has its position. -/
theorem position_of_names (nodup : (fields.map Field.name).Nodup) (here : fields[i]? = some f)
    (named : Names fields f.name key) : position fields key = .ok (some i) := by
  obtain ⟨bound, at_⟩ := List.getElem?_eq_some_iff.1 here
  cases named with
  | byName =>
    refine congrArg Except.ok (List.findIdx?_eq_some_iff_getElem.2 ⟨bound, ?_, fun j before => ?_⟩)
    · rw [at_]
      exact beq_self_eq_true _
    · rw [beq_iff_eq]
      intro same
      have there := List.getElem?_eq_getElem (Nat.lt_trans before bound)
      exact absurd (index_eq nodup there here same) (Nat.ne_of_lt before)
  | @byPosition j g there named =>
    obtain rfl : j = i := index_eq nodup there here named
    have natural : (0 : Int) ≤ j := Int.natCast_nonneg j
    have inside : (j : Int) < fields.length := by exact_mod_cast bound
    rw [position, if_pos natural, if_pos inside, Int.toNat_natCast]

/-- A key names one field at most. -/
theorem names_unique (nodup : (fields.map Field.name).Nodup) (here : fields[i]? = some f)
    (named : Names fields f.name key) (there : fields[j]? = some g)
    (other : Names fields g.name key) : i = j := by
  have place := position_of_names nodup here named
  rw [position_of_names nodup there other] at place
  exact (Option.some.inj (Except.ok.inj place)).symm

/-- A key that names no field has no position. -/
theorem position_of_unnamed (isKey : IsKey key) (unnamed : ∀ f ∈ fields, ¬ Names fields f.name key) :
    position fields key = .ok none := by
  obtain ⟨place, found⟩ : ∃ place, position fields key = .ok place := by
    cases isKey with
    | text name => exact ⟨_, rfl⟩
    | number n =>
      rw [position, if_pos (Int.natCast_nonneg n)]
      exact ⟨_, rfl⟩
  cases place with
  | none => exact found
  | some i =>
    obtain ⟨f, here, named⟩ := exists_of_position found
    exact absurd named (unnamed f (List.mem_of_getElem? here))

/-! ## Mappings -/

/-- **Entries fulfil slots**: they have keys, no two of them name one field, what is damaged is
looked at, and each one that names a field fits it and is put into its slot, which was empty. -/
structure Fulfils (fields : List Field) (entries : List (Document × Document))
    (s filled : Slots) : Prop where
  keys : ∀ e ∈ entries, IsKey e.1
  once : entries.Pairwise fun a b =>
    ∀ f ∈ fields, Names fields f.name a.1 → ¬ Names fields f.name b.1
  whole : ∀ e ∈ entries, e.2 = .damaged → ∃ f ∈ fields, Names fields f.name e.1
  put : ∀ (i : Nat) (f : Field), fields[i]? = some f → ∀ e ∈ entries, Names fields f.name e.1 →
    s[i]? = some none ∧ f.check e.2 = .ok () ∧ filled[i]? = some (some e.2)
  kept : ∀ i : Nat, (∀ f : Field, fields[i]? = some f → ∀ e ∈ entries, ¬ Names fields f.name e.1) →
    filled[i]? = s[i]?

/-- **One more entry** that names no field. -/
theorem fulfils_cons_of_unnamed {entry : Document × Document}
    (unnamed : ∀ f ∈ fields, ¬ Names fields f.name entry.1) :
    Fulfils fields (entry :: entries) s filled ↔
      IsKey entry.1 ∧ entry.2 ≠ .damaged ∧ Fulfils fields entries s filled := by
  constructor
  · rintro ⟨keys, once, whole, put, kept⟩
    obtain ⟨isKey, keys⟩ := List.forall_mem_cons.1 keys
    refine ⟨isKey, fun damaged => ?_, keys, once.of_cons, (List.forall_mem_cons.1 whole).2,
      fun i f here => (List.forall_mem_cons.1 (put i f here)).2, fun i others => kept i ?_⟩
    · obtain ⟨f, mem, named⟩ := whole entry List.mem_cons_self damaged
      exact unnamed f mem named
    · exact fun f here => List.forall_mem_cons.2
        ⟨unnamed f (List.mem_of_getElem? here), others f here⟩
  · rintro ⟨isKey, sound, keys, once, whole, put, kept⟩
    refine ⟨List.forall_mem_cons.2 ⟨isKey, keys⟩, once.cons fun e _ f mem named => ?_,
      List.forall_mem_cons.2 ⟨fun damaged => absurd damaged sound, whole⟩,
      fun i f here => List.forall_mem_cons.2 ⟨fun named => ?_, put i f here⟩, fun i others => ?_⟩
    · exact absurd named (unnamed f mem)
    · exact absurd named (unnamed f (List.mem_of_getElem? here))
    · exact kept i fun f here => (List.forall_mem_cons.1 (others f here)).2

/-- **One entry less**: the first one fits the field that it names, and the others fulfil the slots that
it was put into. -/
theorem Fulfils.tail_of_named (nodup : (fields.map Field.name).Nodup)
    {entry : Document × Document} (here : fields[i]? = some f)
    (named : Names fields f.name entry.1) (h : Fulfils fields (entry :: entries) s filled) :
    f.check entry.2 = .ok () ∧ Fulfils fields entries (s.set i (some entry.2)) filled := by
  obtain ⟨keys, once, whole, put, kept⟩ := h
  obtain ⟨apart, once⟩ := List.pairwise_cons.1 once
  obtain ⟨empty, checked, filled_eq⟩ := put i f here entry List.mem_cons_self named
  refine ⟨checked, (List.forall_mem_cons.1 keys).2, once, (List.forall_mem_cons.1 whole).2,
    fun j g there e mem later => ?_, fun j others => ?_⟩
  · -- no later entry names the same field
    have distinct : i ≠ j := by
      rintro rfl
      obtain rfl := Option.some.inj (here.symm.trans there)
      exact apart e mem f (List.mem_of_getElem? here) named later
    rw [List.getElem?_set_ne distinct]
    exact put j g there e (List.mem_cons_of_mem _ mem) later
  · by_cases same : i = j
    · subst same
      have bound := (List.getElem?_eq_some_iff.1 empty).1
      rw [filled_eq, List.getElem?_set_self bound]
    · rw [List.getElem?_set_ne same]
      refine kept j fun g there => List.forall_mem_cons.2 ⟨fun other => ?_, others g there⟩
      exact same (names_unique nodup here named there other)

/-- **One more entry**: if it fits the field that it names, and the others fulfil the slots that it was
put into, then no other one names that field, and all of them fulfil the slots. -/
theorem Fulfils.cons_of_named (nodup : (fields.map Field.name).Nodup)
    {entry : Document × Document} (here : fields[i]? = some f)
    (named : Names fields f.name entry.1) (empty : s[i]? = some none)
    (checked : f.check entry.2 = .ok ())
    (h : Fulfils fields entries (s.set i (some entry.2)) filled) :
    Fulfils fields (entry :: entries) s filled := by
  obtain ⟨keys, once, whole, put, kept⟩ := h
  have now : (s.set i (some entry.2))[i]? = some (some entry.2) :=
    List.getElem?_set_self (List.getElem?_eq_some_iff.1 empty).1
  have alone : ∀ g, fields[i]? = some g → ∀ e ∈ entries, ¬ Names fields g.name e.1 := by
    intro g there e mem later
    have taken := (put i g there e mem later).1
    rw [now] at taken
    cases taken
  refine ⟨List.forall_mem_cons.2 ⟨?_, keys⟩, once.cons fun e mem g inside other => ?_,
    List.forall_mem_cons.2 ⟨fun _ => ⟨f, List.mem_of_getElem? here, named⟩, whole⟩,
    fun j g there => List.forall_mem_cons.2 ⟨fun other => ?_, fun e mem later => ?_⟩,
    fun j others => ?_⟩
  · exact isKey_of_position (position_of_names nodup here named)
  · obtain ⟨j, there⟩ := List.getElem?_of_mem inside
    obtain rfl := names_unique nodup here named there other
    exact alone g there e mem
  · obtain rfl := names_unique nodup here named there other
    obtain rfl := Option.some.inj (here.symm.trans there)
    exact ⟨empty, checked, (kept i alone).trans now⟩
  · have distinct : i ≠ j := by
      rintro rfl
      exact alone g there e mem later
    have := put j g there e mem later
    rwa [List.getElem?_set_ne distinct] at this
  · have distinct : i ≠ j := by
      rintro rfl
      exact others f here entry List.mem_cons_self named
    rw [kept j fun g there => (List.forall_mem_cons.1 (others g there)).2,
      List.getElem?_set_ne distinct]

/-- **Slots are filled by entries that fulfil them.** -/
theorem fillEntries_eq_ok_iff (nodup : (fields.map Field.name).Nodup) :
    fillEntries fields entries s = .ok filled ↔ Fulfils fields entries s filled := by
  -- the slots change with every entry, so that what the others fulfil is told of the changed ones
  induction entries generalizing s with
  | nil =>
    constructor
    · intro h
      obtain rfl := Except.ok.inj h
      exact ⟨fun _ mem => absurd mem List.not_mem_nil, .nil,
        fun _ mem => absurd mem List.not_mem_nil,
        fun _ _ _ _ mem => absurd mem List.not_mem_nil, fun _ _ => rfl⟩
    · intro h
      have same : filled = s := List.ext_getElem? fun i => h.kept i fun _ _ _ mem =>
        absurd mem List.not_mem_nil
      rw [same]
      rfl
  | cons entry entries ih =>
    rw [fillEntries_cons]
    constructor
    · rintro ⟨s', fills, rest⟩
      cases fills with
      | skipped unknown sound =>
        refine (fulfils_cons_of_unnamed fun f mem named => ?_).2
          ⟨isKey_of_position unknown, sound, ih.1 rest⟩
        obtain ⟨i, here⟩ := List.getElem?_of_mem mem
        cases unknown.symm.trans (position_of_names nodup here named)
      | filled known empty field_eq checked =>
        obtain ⟨g, here, named⟩ := exists_of_position known
        obtain rfl := Option.some.inj (field_eq.symm.trans here)
        exact .cons_of_named nodup here named empty checked (ih.1 rest)
    · intro h
      by_cases unnamed : ∀ f ∈ fields, ¬ Names fields f.name entry.1
      · obtain ⟨isKey, sound, rest⟩ := (fulfils_cons_of_unnamed unnamed).1 h
        exact ⟨s, .skipped (position_of_unnamed isKey unnamed) sound, ih.2 rest⟩
      · simp only [not_forall, not_not, exists_prop] at unnamed
        obtain ⟨f, mem, named⟩ := unnamed
        obtain ⟨i, here⟩ := List.getElem?_of_mem mem
        have empty := (h.put i f here entry List.mem_cons_self named).1
        obtain ⟨checked, rest⟩ := h.tail_of_named nodup here named
        exact ⟨_, .filled (position_of_names nodup here named) empty here checked, ih.2 rest⟩

/-! ## Lists -/

/-- **Slots are filled by items** in the order of the fields, if there are not too many and each fits
its field. -/
theorem fillItems_eq_ok_iff {items : List Document} :
    fillItems origin fields items = .ok filled ↔
      (origin ≠ .table → items.length ≤ fields.length) ∧
      (∀ (i : Nat) (f : Field) (item : Document), fields[i]? = some f → items[i]? = some item →
        f.check item = .ok ()) ∧
      filled = fields.mapIdx fun i _ => items[i]? := by
  induction items generalizing fields filled with
  | nil =>
    have none : (fields.mapIdx fun i _ => ([] : List Document)[i]?) = fields.map fun _ => none := by
      refine List.ext_getElem? fun i => ?_
      rw [List.getElem?_mapIdx, List.getElem?_map]
      rfl
    rw [none, fillItems, Except.ok.injEq]
    constructor
    · rintro rfl
      refine ⟨fun _ => Nat.zero_le _, fun _ _ _ _ item => ?_, rfl⟩
      cases item
    · rintro ⟨-, -, rfl⟩
      rfl
  | cons item items ih =>
    cases fields with
    | nil =>
      rw [fillItems_nil_cons]
      constructor
      · rintro ⟨table, rfl⟩
        refine ⟨fun other => absurd table other, fun _ _ _ here => ?_, rfl⟩
        cases here
      · rintro ⟨fits, -, rfl⟩
        refine ⟨?_, rfl⟩
        by_contra other
        exact absurd (fits other) (Nat.not_succ_le_zero _)
    | cons f fields =>
      change (f.check item >>= fun _ => fillItems origin fields items >>= fun rest =>
        .ok (some item :: rest)) = _ ↔ _
      rw [bind_eq_ok]
      simp only [bind_eq_ok, ih, List.mapIdx_cons, List.length_cons, Nat.add_le_add_iff_right]
      constructor
      · rintro ⟨_, checked, rest, ⟨fits, others, rfl⟩, same⟩
        refine ⟨fits, fun i g part here item_eq => ?_, (Except.ok.inj same).symm⟩
        cases i with
        | zero =>
          obtain rfl := Option.some.inj here
          obtain rfl := Option.some.inj item_eq
          exact checked
        | succ i => exact others i g part here item_eq
      · rintro ⟨fits, checked, rfl⟩
        exact ⟨(), checked 0 f item rfl rfl, _,
          ⟨fits, fun i g part here item_eq => checked (i + 1) g part here item_eq, rfl⟩, rfl⟩

/-! ## Records -/

/-- **What a document gives for a field**: the value of an entry that names it, or the item in its
place. -/
inductive Gives (fields : List Field) (name : String) (part : Document) : Document → Prop where
  | entry {entries : List (Document × Document)} {key : Document} (mem : (key, part) ∈ entries)
      (named : Names fields name key) : Gives fields name part (.map entries)
  | item {items : List Document} {i : Nat} {f : Field} (item_eq : items[i]? = some part)
      (here : fields[i]? = some f) (named : f.name = name) : Gives fields name part (.list items)

/-- **The shape of a record**: a mapping that names no field twice, or a list of not too many items.
In a configuration table a list may have any number of them. -/
inductive HasShape (origin : Origin) (fields : List Field) : Document → Prop where
  | mapping {entries : List (Document × Document)} (keys : ∀ e ∈ entries, IsKey e.1)
      (once : entries.Pairwise fun a b =>
        ∀ f ∈ fields, Names fields f.name a.1 → ¬ Names fields f.name b.1)
      (whole : ∀ e ∈ entries, e.2 = .damaged → ∃ f ∈ fields, Names fields f.name e.1) :
      HasShape origin fields (.map entries)
  | positional {items : List Document} (fits : origin ≠ .table → items.length ≤ fields.length) :
      HasShape origin fields (.list items)

/-- **A document passes for a record**: it has the shape of one, and all that it gives for a field
passes the check of the field. -/
structure IsRecord (origin : Origin) (fields : List Field) (d : Document) : Prop where
  shape : HasShape origin fields d
  checked : ∀ f ∈ fields, ∀ part, Gives fields f.name part d → f.check part = .ok ()

/-- **Slots hold what a document gives**, one for each field. -/
structure Holds (fields : List Field) (d : Document) (s : Slots) : Prop where
  length : s.length = fields.length
  slot_iff : ∀ (i : Nat) (f : Field), fields[i]? = some f →
    ∀ part, s[i]? = some (some part) ↔ Gives fields f.name part d

/-- What is given in a list for a field is the item in its place. -/
theorem gives_list_iff (nodup : (fields.map Field.name).Nodup) (here : fields[i]? = some f)
    {items : List Document} : Gives fields f.name part (.list items) ↔ items[i]? = some part := by
  constructor
  · rintro (_ | ⟨item_eq, there, named⟩)
    obtain rfl := index_eq nodup there here named
    exact item_eq
  · exact fun item_eq => .item item_eq here rfl

/-- A mapping with one entry gives its value for the field that it names, and nothing else. -/
theorem gives_singleton_iff {name name' : String} {whole : Document} :
    Gives fields name part (.map [(.str name', whole)]) ↔ name = name' ∧ part = whole := by
  constructor
  · rintro (⟨mem, named⟩ | _)
    obtain ⟨rfl, rfl⟩ := Prod.mk.inj (List.mem_singleton.1 mem)
    cases named with
    | byName => exact ⟨rfl, rfl⟩
  · rintro ⟨rfl, rfl⟩
    exact .entry List.mem_cons_self .byName

/-- **A record gives one document for a field** at most. -/
theorem HasShape.gives_unique (shape : HasShape origin fields d) (nodup : (fields.map Field.name).Nodup)
    (mem : f ∈ fields) {part part' : Document} (h : Gives fields f.name part d)
    (h' : Gives fields f.name part' d) : part = part' := by
  cases shape with
  | @mapping entries keys once whole =>
    cases h with
    | @entry _ key inside named =>
    cases h' with
    | @entry _ key' inside' named' =>
    have symmetric : Std.Symm fun a b : Document × Document =>
        ∀ f ∈ fields, Names fields f.name a.1 → ¬ Names fields f.name b.1 :=
      ⟨fun a b apart f mem named other => apart f mem other named⟩
    by_contra different
    have distinct : (key, part) ≠ (key', part') := fun same => different (Prod.mk.inj same).2
    exact once.forall inside inside' distinct f mem named named'
  | positional =>
    obtain ⟨i, here⟩ := List.getElem?_of_mem mem
    have item := (gives_list_iff nodup here).1 h
    have item' := (gives_list_iff nodup here).1 h'
    exact Option.some.inj (item.symm.trans item')

/-- Before anything is given, the slot of each field is empty. -/
theorem getElem?_empty (here : fields[i]? = some f) :
    (fields.map fun _ => (none : Option Document))[i]? = some none := by
  rw [List.getElem?_map, here, Option.map_some]

/-- The slot of a field stays empty, or it holds what an entry gives. -/
theorem Fulfils.slot (h : Fulfils fields entries (fields.map fun _ => none) s)
    (here : fields[i]? = some f) : s[i]? = some none ∨
      ∃ part, s[i]? = some (some part) ∧ Gives fields f.name part (.map entries) := by
  by_cases unnamed : ∀ e ∈ entries, ¬ Names fields f.name e.1
  · refine .inl ((h.kept i fun g there => ?_).trans (getElem?_empty here))
    obtain rfl := Option.some.inj (here.symm.trans there)
    exact unnamed
  · simp only [not_forall, not_not, exists_prop] at unnamed
    obtain ⟨e, mem, named⟩ := unnamed
    exact .inr ⟨e.2, (h.put i f here e mem named).2.2, .entry mem named⟩

/-- **Slots that entries fulfil hold what their mapping gives.** -/
theorem Fulfils.holds (h : Fulfils fields entries (fields.map fun _ => none) s) :
    Holds fields (.map entries) s := by
  refine ⟨Nat.le_antisymm ?_ (Nat.not_lt.1 fun short => ?_), fun i f here part => ?_⟩
  · -- beyond the fields nothing is put, and there was nothing
    have beyond : fields[fields.length]? = none := List.getElem?_eq_none (Nat.le_refl _)
    have last := h.kept fields.length fun f here =>
      absurd (beyond.symm.trans here) (Option.some_ne_none f).symm
    rw [List.getElem?_map, beyond] at last
    exact List.getElem?_eq_none_iff.1 last
  · have missing : s[s.length]? = none := List.getElem?_eq_none (Nat.le_refl _)
    rcases h.slot (List.getElem?_eq_getElem short) with empty | ⟨part, filled, -⟩
    · cases missing.symm.trans empty
    · cases missing.symm.trans filled
  · constructor
    · intro filled
      rcases h.slot here with empty | ⟨other, filled', given⟩
      · cases empty.symm.trans filled
      · obtain rfl := Option.some.inj (Option.some.inj (filled'.symm.trans filled))
        exact given
    · rintro (⟨mem, named⟩ | _)
      exact (h.put i f here _ mem named).2.2

/-- **The slots of a mapping** are those that its entries fulfil. -/
theorem fulfils_iff : Fulfils fields entries (fields.map fun _ => none) s ↔
    IsRecord origin fields (.map entries) ∧ Holds fields (.map entries) s := by
  constructor
  · intro h
    refine ⟨⟨.mapping h.keys h.once h.whole, fun f mem part given => ?_⟩, h.holds⟩
    obtain ⟨i, here⟩ := List.getElem?_of_mem mem
    cases given with
    | entry inside named => exact (h.put i f here _ inside named).2.1
  · rintro ⟨⟨shape, checked⟩, length, slot_iff⟩
    cases shape with
    | mapping keys once whole =>
      refine ⟨keys, once, whole, fun i f here e mem named => ?_, fun i unnamed => ?_⟩
      · have given : Gives fields f.name e.2 (.map entries) := .entry mem named
        exact ⟨getElem?_empty here, checked f (List.mem_of_getElem? here) _ given,
          (slot_iff i f here _).2 given⟩
      · cases here : fields[i]? with
        | none =>
          have beyond := List.getElem?_eq_none_iff.1 here
          rw [List.getElem?_eq_none_iff.2 (length ▸ beyond),
            List.getElem?_eq_none_iff.2 (by rwa [List.length_map])]
        | some f =>
          have bound := (List.getElem?_eq_some_iff.1 here).1
          have slot : s[i]? = some s[i] := List.getElem?_eq_getElem (length ▸ bound)
          rw [getElem?_empty here, slot]
          cases content : s[i] with
          | none => rfl
          | some part =>
            rw [content] at slot
            cases (slot_iff i f here part).1 slot with
            | entry mem named => exact absurd named (unnamed f here _ mem)

/-- The slots of a list are its items. -/
theorem fillItems_iff (nodup : (fields.map Field.name).Nodup) {items : List Document} :
    fillItems origin fields items = .ok s ↔
      IsRecord origin fields (.list items) ∧ Holds fields (.list items) s := by
  rw [fillItems_eq_ok_iff]
  constructor
  · rintro ⟨fits, checked, rfl⟩
    refine ⟨⟨.positional fits, fun f mem part given => ?_⟩, List.length_mapIdx,
      fun i f here part => ?_⟩
    · obtain ⟨i, here⟩ := List.getElem?_of_mem mem
      exact checked i f part here ((gives_list_iff nodup here).1 given)
    · rw [gives_list_iff nodup here, List.getElem?_mapIdx, here, Option.map_some, Option.some.injEq]
  · rintro ⟨⟨shape, checked⟩, length, slot_iff⟩
    cases shape with
    | positional fits =>
      refine ⟨fits, fun i f item here item_eq => ?_, List.ext_getElem? fun i => ?_⟩
      · exact checked f (List.mem_of_getElem? here) item (.item item_eq here rfl)
      · rw [List.getElem?_mapIdx]
        cases here : fields[i]? with
        | none =>
          have beyond := List.getElem?_eq_none_iff.1 here
          exact List.getElem?_eq_none_iff.2 (length ▸ beyond)
        | some f =>
          have bound := (List.getElem?_eq_some_iff.1 here).1
          have slot : s[i]? = some s[i] := List.getElem?_eq_getElem (length ▸ bound)
          rw [slot, Option.map_some, Option.some.injEq]
          refine Option.ext fun part => ?_
          have := slot_iff i f here part
          rwa [slot, Option.some.injEq, gives_list_iff nodup here] at this

/-- **The slots of a record** are those that hold what its document gives. -/
theorem slots_eq_ok_iff (nodup : (fields.map Field.name).Nodup) :
    slots origin fields d = .ok s ↔ IsRecord origin fields d ∧ Holds fields d s := by
  cases d with
  | map entries => exact (fillEntries_eq_ok_iff nodup).trans fulfils_iff
  | list items => exact fillItems_iff nodup
  | null | bool | int | float | str | damaged | unreadable =>
    refine iff_of_false (fun h => ?_) fun h => ?_
    · cases h
    · cases h.1.shape

/-- **Every document of a record has slots.** -/
theorem IsRecord.exists_slots (h : IsRecord origin fields d) (nodup : (fields.map Field.name).Nodup) :
    ∃ s, slots origin fields d = .ok s ∧ Holds fields d s := by
  classical
  -- the slot of a field can be chosen on its own, since not two documents are given for it
  have content : ∀ f ∈ fields, ∃ c : Option Document,
      ∀ part, c = some part ↔ Gives fields f.name part d := by
    intro f mem
    by_cases given : ∃ part, Gives fields f.name part d
    · obtain ⟨part, given⟩ := given
      refine ⟨some part, fun part' => ⟨fun same => Option.some.inj same ▸ given, fun other => ?_⟩⟩
      rw [h.shape.gives_unique nodup mem given other]
    · exact ⟨none, fun part => iff_of_false (Option.some_ne_none part).symm fun other =>
        given ⟨part, other⟩⟩
  choose! c holds using content
  have slot : Holds fields d (fields.map c) := by
    refine ⟨List.length_map _, fun i f here part => ?_⟩
    rw [List.getElem?_map, here, Option.map_some, Option.some.injEq]
    exact holds f (List.mem_of_getElem? here) part
  exact ⟨_, (slots_eq_ok_iff nodup).2 ⟨h, slot⟩, slot⟩

end Playback.Wire
