/-!
# Dictionaries keyed by text

Test data, scenarios and wire maps assign at most one value to a key, and nothing depends on the
order in which the assignments were made. A `Dict` therefore keeps its entries strictly sorted by
key: **two dictionaries with the same look-ups are equal** (`Dict.ext_get?`).

* `Dict.get?` — the view: what is assigned to a key;
* `Dict.insert`, `Dict.ofList`, `Dict.overlay` — assignment, where the later one wins.
-/

namespace Playback

/-- **A dictionary**: entries in strictly increasing order of their keys. -/
structure Dict (α : Type) where
  /-- Keys and values, sorted. -/
  entries : List (String × α)
  /-- No key occurs twice, and the order is fixed. -/
  sorted : entries.Pairwise fun a b => a.1 < b.1

namespace Dict

variable {α : Type}

/-! ## Look-up -/

/-- What a list of entries assigns to a key. -/
def lookup (key : String) : List (String × α) → Option α
  | [] => none
  | (k, v) :: rest => if k = key then some v else lookup key rest

@[simp] theorem lookup_nil (key : String) : lookup key ([] : List (String × α)) = none := rfl

theorem lookup_cons (key k : String) (v : α) (rest : List (String × α)) :
    lookup key ((k, v) :: rest) = if k = key then some v else lookup key rest := rfl

/-- **The value of a key**, if it has one. -/
def get? (d : Dict α) (key : String) : Option α := lookup key d.entries

/-- Whether a key has a value. -/
def contains (d : Dict α) (key : String) : Bool := (d.get? key).isSome

/-- The keys in order. -/
def keys (d : Dict α) : List String := d.entries.map (·.1)

/-- The values in the order of their keys. -/
def values (d : Dict α) : List α := d.entries.map (·.2)

/-- Whether no key has a value. -/
def isEmpty (d : Dict α) : Bool := d.entries.isEmpty

/-! ## Assignment -/

/-- The dictionary that assigns nothing. -/
def empty : Dict α := ⟨[], List.Pairwise.nil⟩

instance : Inhabited (Dict α) := ⟨empty⟩

/-- Puts an entry at its place in a sorted list, replacing one with the same key. -/
def insertEntry (key : String) (value : α) : List (String × α) → List (String × α)
  | [] => [(key, value)]
  | (k, v) :: rest =>
    if key < k then (key, value) :: (k, v) :: rest
    else if k = key then (key, value) :: rest
    else (k, v) :: insertEntry key value rest

theorem mem_insertEntry {key : String} {value : α} {entries : List (String × α)}
    {e : String × α} (h : e ∈ insertEntry key value entries) :
    e = (key, value) ∨ e ∈ entries := by
  induction entries with
  | nil => simpa [insertEntry] using h
  | cons head rest ih =>
    obtain ⟨k, v⟩ := head
    unfold insertEntry at h
    split at h
    · simpa using h
    · split at h
      · rcases List.mem_cons.1 h with h | h
        · exact .inl h
        · exact .inr (List.mem_cons_of_mem _ h)
      · rcases List.mem_cons.1 h with h | h
        · exact .inr (h ▸ List.mem_cons_self)
        · rcases ih h with h | h
          · exact .inl h
          · exact .inr (List.mem_cons_of_mem _ h)

theorem sorted_insertEntry (key : String) (value : α) {entries : List (String × α)}
    (h : entries.Pairwise fun a b => a.1 < b.1) :
    (insertEntry key value entries).Pairwise fun a b => a.1 < b.1 := by
  induction entries with
  | nil => simp [insertEntry]
  | cons head rest ih =>
    obtain ⟨k, v⟩ := head
    have hrest := List.pairwise_cons.1 h
    unfold insertEntry
    split
    · rename_i hlt
      refine List.pairwise_cons.2 ⟨fun e he => ?_, h⟩
      rcases List.mem_cons.1 he with rfl | he
      · exact hlt
      · exact String.lt_trans hlt (hrest.1 e he)
    · split
      · rename_i heq
        subst heq
        exact List.pairwise_cons.2 ⟨hrest.1, hrest.2⟩
      · rename_i hnot hne
        have hk : k < key := by
          rcases Decidable.em (k < key) with h' | h'
          · exact h'
          · exact absurd (String.le_antisymm (String.not_lt.1 hnot) (String.not_lt.1 h')) hne
        refine List.pairwise_cons.2 ⟨fun e he => ?_, ih hrest.2⟩
        rcases mem_insertEntry he with rfl | he
        · exact hk
        · exact hrest.1 e he

/-- **Assignment**: the key has the value from now on. -/
def insert (d : Dict α) (key : String) (value : α) : Dict α :=
  ⟨insertEntry key value d.entries, sorted_insertEntry key value d.sorted⟩

/-- Assigns a list of entries in order, so that the last one of a key wins. -/
def ofList (entries : List (String × α)) : Dict α :=
  entries.foldl (fun d e => d.insert e.1 e.2) empty

/-- **Overlay**: the second dictionary wins where both assign a value. -/
def overlay (d top : Dict α) : Dict α :=
  top.entries.foldl (fun d e => d.insert e.1 e.2) d

/-- Applies a function to all values. -/
def map {β : Type} (f : α → β) (d : Dict α) : Dict β :=
  ⟨d.entries.map fun e => (e.1, f e.2), by
    have h := d.sorted
    exact List.pairwise_map.2 h⟩

/-! ## Laws of the view -/

@[simp] theorem get?_empty (key : String) : (empty : Dict α).get? key = none := rfl

theorem lookup_insertEntry (key : String) (value : α) {entries : List (String × α)}
    (h : entries.Pairwise fun a b => a.1 < b.1) (k : String) :
    lookup k (insertEntry key value entries) =
      if key = k then some value else lookup k entries := by
  induction entries with
  | nil => simp [insertEntry, lookup]
  | cons head rest ih =>
    obtain ⟨k', v'⟩ := head
    have hrest := List.pairwise_cons.1 h
    unfold insertEntry
    split
    · simp [lookup]
    · split
      · rename_i heq
        subst heq
        by_cases hk : k' = k <;> simp [lookup, hk]
      · rename_i hne
        rw [lookup_cons, lookup_cons, ih hrest.2]
        by_cases hk : k' = k
        · subst hk
          simp [Ne.symm hne]
        · simp [hk]

@[simp] theorem get?_insert (d : Dict α) (key : String) (value : α) (k : String) :
    (d.insert key value).get? k = if key = k then some value else d.get? k :=
  lookup_insertEntry key value d.sorted k

theorem get?_foldl_insert (entries : List (String × α)) (d : Dict α) (k : String) :
    (entries.foldl (fun d e => d.insert e.1 e.2) d).get? k =
      (lookup k entries.reverse).or (d.get? k) := by
  induction entries generalizing d with
  | nil => simp
  | cons head rest ih =>
    obtain ⟨k', v'⟩ := head
    have append : ∀ l : List (String × α),
        lookup k (l ++ [(k', v')]) = (lookup k l).or (if k' = k then some v' else none) := by
      intro l
      induction l with
      | nil => simp [lookup]
      | cons e l ih =>
        obtain ⟨k'', v''⟩ := e
        by_cases hk : k'' = k <;> simp [lookup, hk, ih]
    rw [List.foldl_cons, ih, List.reverse_cons, append, get?_insert]
    cases lookup k rest.reverse <;> by_cases hk : k' = k <;> simp [hk]

theorem insertEntry_append_of_lt {entries : List (String × α)} {e : String × α}
    (h : ∀ x ∈ entries, x.1 < e.1) : insertEntry e.1 e.2 entries = entries ++ [e] := by
  induction entries with
  | nil => rfl
  | cons x es ih =>
    have hx := h x List.mem_cons_self
    have h1 : ¬ e.1 < x.1 := String.lt_asymm hx
    have h2 : ¬ x.1 = e.1 := fun heq => String.lt_irrefl _ (heq ▸ hx)
    show (if e.1 < x.1 then _ else if x.1 = e.1 then _ else x :: insertEntry e.1 e.2 es) = _
    rw [if_neg h1, if_neg h2, ih fun y hy => h y (List.mem_cons_of_mem _ hy)]
    rfl

theorem entries_foldl_insert {l : List (String × α)} {d : Dict α}
    (h : (d.entries ++ l).Pairwise fun a b => a.1 < b.1) :
    (l.foldl (fun d e => d.insert e.1 e.2) d).entries = d.entries ++ l := by
  induction l generalizing d with
  | nil => simp
  | cons e l ih =>
    have hins : (d.insert e.1 e.2).entries = d.entries ++ [e] :=
      insertEntry_append_of_lt fun x hx =>
        (List.pairwise_append.1 h).2.2 x hx e List.mem_cons_self
    rw [List.foldl_cons, ih (by rw [hins]; simpa using h), hins]
    simp

/-- Assigning the entries of a dictionary one after the other gives it back. -/
@[simp] theorem ofList_entries (d : Dict α) : ofList d.entries = d := by
  have h := entries_foldl_insert (l := d.entries) (d := empty) (by simpa [empty] using d.sorted)
  obtain ⟨entries, sorted⟩ := d
  show (⟨_, _⟩ : Dict α) = _
  congr 1

theorem lookup_reverse_of_sorted {entries : List (String × α)}
    (h : entries.Pairwise fun a b => a.1 < b.1) (k : String) :
    lookup k entries.reverse = lookup k entries := by
  have view := get?_foldl_insert entries empty k
  have same : (entries.foldl (fun d e => d.insert e.1 e.2) empty) = ⟨entries, h⟩ :=
    ofList_entries ⟨entries, h⟩
  rw [same, get?_empty, Option.or_none] at view
  exact view.symm

/-- **An overlay** looks a key up in the second dictionary first. -/
theorem get?_overlay (d top : Dict α) (k : String) :
    (d.overlay top).get? k = (top.get? k).or (d.get? k) := by
  rw [overlay, get?_foldl_insert, lookup_reverse_of_sorted top.sorted]
  rfl

theorem lookup_eq_some_of_mem {entries : List (String × α)}
    (h : entries.Pairwise fun a b => a.1 < b.1) {e : String × α} (he : e ∈ entries) :
    lookup e.1 entries = some e.2 := by
  induction entries with
  | nil => cases he
  | cons head rest ih =>
    obtain ⟨k, v⟩ := head
    have hrest := List.pairwise_cons.1 h
    rcases List.mem_cons.1 he with rfl | he
    · simp [lookup]
    · have hlt := hrest.1 e he
      have hne : ¬ k = e.1 := fun heq => String.lt_irrefl e.1 (by simp [heq] at hlt)
      rw [lookup_cons, if_neg hne, ih hrest.2 he]

theorem mem_of_lookup_eq_some {entries : List (String × α)} {k : String} {v : α}
    (h : lookup k entries = some v) : (k, v) ∈ entries := by
  induction entries with
  | nil => simp at h
  | cons head rest ih =>
    obtain ⟨k', v'⟩ := head
    rw [lookup_cons] at h
    split at h
    · rename_i heq
      simp_all
    · exact List.mem_cons_of_mem _ (ih h)

/-- **Extensionality**: dictionaries with the same look-ups are equal. -/
theorem ext_get? {a b : Dict α} (h : ∀ k, a.get? k = b.get? k) : a = b := by
  obtain ⟨as, ha⟩ := a
  obtain ⟨bs, hb⟩ := b
  suffices as = bs by subst this; rfl
  replace h : ∀ k, lookup k as = lookup k bs := h
  induction as generalizing bs with
  | nil =>
    cases bs with
    | nil => rfl
    | cons e bs =>
      have := h e.1
      rw [lookup_eq_some_of_mem hb List.mem_cons_self] at this
      simp at this
  | cons x as ih =>
    cases bs with
    | nil =>
      have := h x.1
      rw [lookup_eq_some_of_mem ha List.mem_cons_self] at this
      simp at this
    | cons y bs =>
      have hx := mem_of_lookup_eq_some
        ((h x.1).symm.trans (lookup_eq_some_of_mem ha List.mem_cons_self))
      have hy := mem_of_lookup_eq_some
        ((h y.1).trans (lookup_eq_some_of_mem hb List.mem_cons_self))
      have ha' := List.pairwise_cons.1 ha
      have hb' := List.pairwise_cons.1 hb
      have hxy : x = y := by
        rcases List.mem_cons.1 hx with hx | hx
        · exact hx
        · rcases List.mem_cons.1 hy with hy | hy
          · exact hy.symm
          · exact absurd (String.lt_trans (ha'.1 _ hy) (hb'.1 _ hx)) (String.lt_irrefl _)
      subst hxy
      congr 1
      refine ih ha'.2 bs hb'.2 fun k => ?_
      have hk := h k
      rw [show x = (x.1, x.2) from rfl, lookup_cons, lookup_cons] at hk
      split at hk
      · rename_i heq
        subst heq
        have no : ∀ l : List (String × α), (∀ e ∈ l, x.1 < e.1) → lookup x.1 l = none := by
          intro l hl
          cases hlk : lookup x.1 l with
          | none => rfl
          | some v =>
            exact absurd (hl _ (mem_of_lookup_eq_some hlk)) (String.lt_irrefl _)
        rw [no as ha'.1, no bs hb'.1]
      · exact hk

instance [DecidableEq α] : DecidableEq (Dict α) := fun a b =>
  if h : a.entries = b.entries then
    isTrue (by cases a; cases b; cases h; rfl)
  else isFalse fun heq => h (heq ▸ rfl)

end Dict

end Playback
