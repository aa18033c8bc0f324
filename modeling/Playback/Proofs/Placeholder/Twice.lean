import Mathlib.Algebra.Order.BigOperators.Group.List
import Mathlib.Algebra.Order.Group.Nat
import Mathlib.Data.List.TakeWhile
import Playback.Proofs.Placeholder.Dependence
import Playback.Proofs.Placeholder.Tokens

/-!
# Substituting twice

Values without brackets may still make tokens, out of brackets that stood around the tokens they
take the place of: with `B` for `A`, the text `<<A>>` becomes the token `<B>`.

* `TestData.IsPlain` — **plain data**: no value holds a bracket;
* `Makes` — **a text makes a token**: between two of its brackets are names and other characters
  that become a name, and at least one token with a value is among them;
* `Piece.mem_split_fill_iff` — **the tokens of a substituted text** are those without a value, and
  those that the text makes;
* `substitute_twice_iff` — **substituting twice is like substituting once** exactly if no token that
  the text makes has a value; `substitute_twice_ne` is a text of which it is not so.
-/

namespace Playback

/-- **Plain data**: no value holds a bracket. -/
def TestData.IsPlain (data : TestData) : Prop :=
  ∀ value ∈ data.values, '<' ∉ value.toList ∧ '>' ∉ value.toList

instance (data : TestData) : Decidable data.IsPlain :=
  inferInstanceAs (Decidable (∀ value ∈ data.values, '<' ∉ value.toList ∧ '>' ∉ value.toList))

/-- The values of plain data hold no bracket. -/
theorem TestData.IsPlain.of_get? {data : TestData} (plain : data.IsPlain) {key value : String}
    (h : data.get? key = some value) : '<' ∉ value.toList ∧ '>' ∉ value.toList :=
  plain value (List.mem_map.2 ⟨(key, value), Dict.mem_of_lookup_eq_some h, rfl⟩)

/-- **What a stretch of text becomes** that holds no brackets but those of tokens with a value. -/
inductive Becomes (data : TestData) : List Char → List Char → Prop where
  | nil : Becomes data [] []
  /-- A character stands for itself. -/
  | char {c : Char} {cs result : List Char} (no_open : c ≠ '<') (no_close : c ≠ '>')
      (rest : Becomes data cs result) : Becomes data (c :: cs) (c :: result)
  /-- A value stands for its token. -/
  | token {name cs result : List Char} {value : String} (isName : IsName name)
      (valued : data.get? (String.ofList name) = some value) (rest : Becomes data cs result) :
      Becomes data ('<' :: (name ++ '>' :: cs)) (value.toList ++ result)

/-- **A text makes a token** of a name: what stands between two of its brackets becomes the name,
and a token with a value is part of it. -/
structure Makes (text : List Char) (data : TestData) (name : List Char) : Prop where
  isName : IsName name
  made : ∃ before body after, text = before ++ '<' :: (body ++ '>' :: after) ∧
    Becomes data body name ∧ '<' ∈ body

/-- What a text makes, it makes behind other texts too. -/
theorem Makes.append {text name : List Char} {data : TestData} (h : Makes text data name)
    (first : List Char) : Makes (first ++ text) data name := by
  obtain ⟨isName, before, body, after, rfl, becomes, opens⟩ := h
  exact ⟨isName, first ++ before, body, after, by rw [List.append_assoc], becomes, opens⟩

namespace Becomes

variable {data : TestData} {body result : List Char}

/-- Without tokens nothing changes. -/
theorem eq_of_no_open (h : Becomes data body result) (closed : '<' ∉ body) : body = result := by
  induction h with
  | nil => rfl
  | char no_open no_close rest ih => rw [ih fun mem => closed (List.mem_cons_of_mem _ mem)]
  | token isName valued rest ih => exact absurd List.mem_cons_self closed

/-- The first bracket of such a stretch is an opening one. -/
theorem exists_open (h : Becomes data body result) (opens : '<' ∈ body) :
    ∃ first rest, body = first ++ '<' :: rest ∧ ∀ c ∈ first, Piece.isNameChar c = true := by
  induction h with
  | nil => cases opens
  | @char c cs result no_open no_close rest ih =>
    obtain ⟨first, last, rfl, chars⟩ := ih (List.mem_of_ne_of_mem no_open.symm opens)
    refine ⟨c :: first, last, rfl, List.forall_mem_cons.2 ⟨?_, chars⟩⟩
    exact Piece.isNameChar_iff.2 ⟨no_open, no_close⟩
  | @token name cs result value isName valued rest ih =>
    exact ⟨[], name ++ '>' :: cs, rfl, List.forall_mem_nil _⟩

end Becomes

/-! ## The characters of a substituted text -/

namespace Piece

variable {data : TestData} {name : List Char}

/-- **A text with its tokens replaced.** -/
def fill (data : TestData) (cs : List Char) : List Char := (split cs).flatMap (replaced data)

theorem fill_nil : fill data [] = [] := by
  rw [fill, split]
  rfl

theorem fill_cons_of_ne {c : Char} (h : c ≠ '<') (cs : List Char) :
    fill data (c :: cs) = c :: fill data cs := by
  rw [fill, split_cons_of_ne h]
  rfl

theorem fill_open_of_none {cs : List Char} (h : name? cs = none) :
    fill data ('<' :: cs) = '<' :: fill data cs := by
  rw [fill, split_open_of_none h]
  rfl

theorem fill_token_of_value (isName : IsName name) {value : String}
    (valued : data.get? (String.ofList name) = some value) (rest : List Char) :
    fill data ('<' :: (name ++ '>' :: rest)) = value.toList ++ fill data rest := by
  rw [fill, split_token isName, List.flatMap_cons, replaced, valued]
  rfl

theorem fill_token_of_none (isName : IsName name)
    (unvalued : data.get? (String.ofList name) = none) (rest : List Char) :
    fill data ('<' :: (name ++ '>' :: rest)) = '<' :: (name ++ '>' :: fill data rest) := by
  rw [fill, split_token isName, List.flatMap_cons, replaced, unvalued, source, List.cons_append,
    List.append_assoc]
  rfl

/-- A text may be filled in parts at an opening bracket. -/
theorem fill_append_open (cs rest : List Char) :
    fill data (cs ++ '<' :: rest) = fill data cs ++ fill data ('<' :: rest) := by
  rw [fill, split_append_open, List.flatMap_append]
  rfl

/-- **What becomes a name** is filled to that name. -/
theorem fill_of_becomes {body : List Char} (h : Becomes data body name) (after : List Char) :
    fill data (body ++ '>' :: after) = name ++ '>' :: fill data after := by
  induction h with
  | nil => exact fill_cons_of_ne (by decide) after
  | @char c cs result no_open no_close rest ih =>
    rw [List.cons_append, fill_cons_of_ne no_open, ih, List.cons_append]
  | @token name cs result value isName valued rest ih =>
    rw [List.cons_append, List.append_assoc, List.cons_append, fill_token_of_value isName valued,
      ih, List.append_assoc]

/-- Characters without an opening bracket are pieces of their own. -/
theorem split_append_of_no_open {cs : List Char} (h : '<' ∉ cs) (rest : List Char) :
    split (cs ++ rest) = cs.map plain ++ split rest := by
  induction cs with
  | nil => rfl
  | cons c cs ih =>
    obtain ⟨ne, h⟩ := not_or.1 fun mem => h (List.mem_cons.2 mem)
    rw [List.cons_append, split_cons_of_ne (Ne.symm ne), ih h, List.map_cons, List.cons_append]

/-- No token is among them. -/
theorem token_mem_split_append {cs : List Char} (h : '<' ∉ cs) {rest : List Char} :
    token name ∈ split (cs ++ rest) ↔ token name ∈ split rest := by
  rw [split_append_of_no_open h, List.mem_append, or_iff_right (by simp)]

/-- A token follows an opening bracket, or it comes later. -/
theorem mem_split_open {cs : List Char} (h : token name ∈ split ('<' :: cs)) :
    (∃ rest, name? cs = some (name, rest)) ∨ token name ∈ split cs := by
  cases read : name? cs with
  | none =>
    rw [split_open_of_none read] at h
    exact .inr (by simpa using h)
  | some x =>
    obtain ⟨name', rest⟩ := x
    obtain ⟨rfl, -⟩ := name?_eq_some read
    have isName := isName_of_name? read
    rw [split_token isName] at h
    rcases List.mem_cons.1 h with same | later
    · obtain rfl := Piece.token.inj same
      exact .inl ⟨rest, rfl⟩
    · rw [token_mem_split_append isName.no_open, split_cons_of_ne (by decide)]
      exact .inr (List.mem_cons_of_mem _ later)

/-! ## The tokens of a substituted text -/

/-- **Up to a closing bracket** a filled text is what some stretch of the text becomes. -/
theorem exists_becomes (plain : data.IsPlain) {cs rest : List Char}
    (closes : (fill data cs).dropWhile isNameChar = '>' :: rest) :
    ∃ body after, cs = body ++ '>' :: after ∧
      Becomes data body ((fill data cs).takeWhile isNameChar) := by
  fun_induction split cs with
  | case1 =>
    rw [fill_nil] at closes
    cases closes
  | case2 cs name tail read ih =>
    obtain ⟨rfl, -, -⟩ := name?_eq_some read
    have isName := isName_of_name? read
    cases valued : data.get? (String.ofList name) with
    | none =>
      -- another bracket would come first
      rw [fill_token_of_none isName valued, List.dropWhile_cons_of_neg (by decide)] at closes
      exact absurd (List.cons.inj closes).1 (by decide)
    | some value =>
      have chars := forall_isNameChar_iff.2 (plain.of_get? valued)
      rw [fill_token_of_value isName valued, List.dropWhile_append_of_pos chars] at closes
      obtain ⟨body, after, rfl, becomes⟩ := ih closes
      refine ⟨'<' :: (name ++ '>' :: body), after, by simp, ?_⟩
      rw [fill_token_of_value isName valued, List.takeWhile_append_of_pos chars]
      exact .token isName valued becomes
  | case3 cs unread ih =>
    rw [fill_open_of_none unread, List.dropWhile_cons_of_neg (by decide)] at closes
    exact absurd (List.cons.inj closes).1 (by decide)
  | case4 c cs no_open ih =>
    rw [fill_cons_of_ne no_open] at closes ⊢
    by_cases no_close : c = '>'
    · subst no_close
      refine ⟨[], cs, rfl, ?_⟩
      rw [List.takeWhile_cons_of_neg (by decide)]
      exact .nil
    · have char : isNameChar c = true := isNameChar_iff.2 ⟨no_open, no_close⟩
      rw [List.dropWhile_cons_of_pos char] at closes
      obtain ⟨body, after, rfl, becomes⟩ := ih closes
      refine ⟨c :: body, after, rfl, ?_⟩
      rw [List.takeWhile_cons_of_pos char]
      exact .char no_open no_close becomes

/-- **An opening bracket outside of all tokens** that a name follows in the filled text: the text
makes that token. -/
theorem makes_of_name? (plain : data.IsPlain) {cs rest : List Char} (unread : name? cs = none)
    (read : name? (fill data cs) = some (name, rest)) : Makes ('<' :: cs) data name := by
  have isName := isName_of_name? read
  obtain ⟨filled_eq, -, chars⟩ := name?_eq_some read
  have closes : (fill data cs).dropWhile isNameChar = '>' :: rest := by
    rw [filled_eq, List.dropWhile_append_of_pos chars, List.dropWhile_cons_of_neg (by decide)]
  obtain ⟨body, after, rfl, becomes⟩ := exists_becomes plain closes
  rw [filled_eq, List.takeWhile_append_of_pos chars, List.takeWhile_cons_of_neg (by decide),
    List.append_nil] at becomes
  refine ⟨isName, [], body, after, rfl, becomes, ?_⟩
  -- without a token in between, the name would have been read in the text
  by_contra closed
  rw [becomes.eq_of_no_open closed, name?_close isName] at unread
  cases unread

/-- A text that makes a token has it when it is filled. -/
theorem mem_split_fill_of_makes {cs : List Char} (h : Makes cs data name) :
    token name ∈ split (fill data cs) := by
  obtain ⟨isName, before, body, after, rfl, becomes, opens⟩ := h
  obtain ⟨first, last, body_eq, chars⟩ := becomes.exists_open opens
  have unread : name? (body ++ '>' :: after) = none := by
    have ends : name? first = none := by
      rw [name?, List.takeWhile_eq_self_iff.2 chars, List.dropWhile_eq_nil_iff.2 chars]
      cases first <;> rfl
    rw [body_eq, List.append_assoc, List.cons_append, name?_append_open, ends]
    rfl
  rw [fill_append_open, fill_open_of_none unread, fill_of_becomes becomes, split_append_open,
    split_token isName]
  simp

/-- A token without a value is kept. -/
theorem mem_split_fill_of_none {cs : List Char} (h : token name ∈ split cs)
    (unvalued : data.get? (String.ofList name) = none) : token name ∈ split (fill data cs) := by
  obtain ⟨before, after, eq⟩ := List.append_of_mem h
  have isName := isName_of_mem_split h
  have filled : fill data cs = before.flatMap (replaced data) ++
      '<' :: (name ++ '>' :: after.flatMap (replaced data)) := by
    rw [fill, eq, List.flatMap_append, List.flatMap_cons, replaced, unvalued, source]
    simp
  rw [filled, split_append_open, split_token isName]
  simp

/-- **The tokens of a substituted text** are the tokens of the text that have no value, and those
that the text makes. -/
theorem mem_split_fill_iff (plain : data.IsPlain) {cs : List Char} :
    token name ∈ split (fill data cs) ↔
      (token name ∈ split cs ∧ data.get? (String.ofList name) = none) ∨ Makes cs data name := by
  constructor
  · intro h
    fun_induction split cs with
    | case1 =>
      rw [fill_nil, split] at h
      cases h
    | case2 cs name' tail read ih =>
      obtain ⟨rfl, -, -⟩ := name?_eq_some read
      have isName := isName_of_name? read
      have later : token name ∈ split (fill data tail) →
          (token name ∈ token name' :: split tail ∧ data.get? (String.ofList name) = none) ∨
            Makes ('<' :: (name' ++ '>' :: tail)) data name := by
        intro h
        refine (ih h).imp (fun kept => ⟨List.mem_cons_of_mem _ kept.1, kept.2⟩) fun made => ?_
        have := made.append ('<' :: (name' ++ ['>']))
        simpa using this
      cases valued : data.get? (String.ofList name') with
      | none =>
        rw [fill_token_of_none isName valued, split_token isName] at h
        rcases List.mem_cons.1 h with same | h
        · obtain rfl := Piece.token.inj same
          exact .inl ⟨List.mem_cons_self, valued⟩
        · exact later h
      | some value =>
        rw [fill_token_of_value isName valued,
          token_mem_split_append (plain.of_get? valued).1] at h
        exact later h
    | case3 cs unread ih =>
      rw [fill_open_of_none unread] at h
      rcases mem_split_open h with ⟨rest, read⟩ | h
      · exact .inr (makes_of_name? plain unread read)
      · exact (ih h).imp (fun kept => ⟨List.mem_cons_of_mem _ kept.1, kept.2⟩)
          fun made => made.append ['<']
    | case4 c cs no_open ih =>
      rw [fill_cons_of_ne no_open, split_cons_of_ne no_open] at h
      exact (ih (by simpa using h)).imp (fun kept => ⟨List.mem_cons_of_mem _ kept.1, kept.2⟩)
        fun made => made.append [c]
  · rintro (⟨mem, unvalued⟩ | made)
    · exact mem_split_fill_of_none mem unvalued
    · exact mem_split_fill_of_makes made

/-! ## Texts that stay as they are -/

/-- A piece has no more opening brackets after it is replaced. -/
theorem count_open_replaced_le (plain : data.IsPlain) (p : Piece) :
    (replaced data p).count '<' ≤ (source p).count '<' := by
  cases p with
  | plain c => exact le_rfl
  | token name =>
    cases valued : data.get? (String.ofList name) with
    | none => rw [replaced, valued]
    | some value =>
      rw [replaced, valued]
      show value.toList.count '<' ≤ _
      rw [List.count_eq_zero.2 (plain.of_get? valued).1]
      exact Nat.zero_le _

/-- **A token with a value loses its opening bracket**, so the text does not stay as it is. -/
theorem fill_ne_of_value (plain : data.IsPlain) {cs : List Char} {value : String}
    (h : token name ∈ split cs) (valued : data.get? (String.ofList name) = some value) :
    fill data cs ≠ cs := by
  intro same
  have fewer : (fill data cs).count '<' < ((split cs).flatMap source).count '<' := by
    rw [fill, List.count_flatMap, List.count_flatMap]
    refine List.sum_lt_sum _ _ (fun p _ => count_open_replaced_le plain p) ⟨_, h, ?_⟩
    have lost : (replaced data (token name)).count '<' = 0 := by
      rw [replaced, valued]
      exact List.count_eq_zero.2 (plain.of_get? valued).1
    show (replaced data (token name)).count '<' < (source (token name)).count '<'
    rw [lost]
    exact List.count_pos_iff.2 List.mem_cons_self
  rw [flatMap_source_split, same] at fewer
  exact Nat.lt_irrefl _ fewer

end Piece

/-! ## Texts -/

theorem toList_substitute (text : String) (data : TestData) :
    (substitute text data).toList = Piece.fill data text.toList := by
  rw [substitute, String.toList_ofList]
  rfl

section

variable {data : TestData} {text name : String}

/-- **A text stays as it is** exactly if no token of it has a value. -/
theorem substitute_eq_self_iff (plain : data.IsPlain) :
    substitute text data = text ↔ ∀ name ∈ placeholders text, data.get? name = none := by
  refine ⟨fun same name mem => ?_, substitute_eq_self⟩
  cases valued : data.get? name with
  | none => rfl
  | some value =>
    have lost := Piece.fill_ne_of_value plain (mem_placeholders_iff.1 mem)
      (by rw [String.ofList_toList, valued])
    rw [← toList_substitute, same] at lost
    exact absurd rfl lost

/-- **The placeholders of a substituted text** are those that have no value, and those that the text
makes. -/
theorem mem_placeholders_substitute_iff (plain : data.IsPlain) :
    name ∈ placeholders (substitute text data) ↔
      (name ∈ placeholders text ∧ data.get? name = none) ∨ Makes text.toList data name.toList := by
  rw [mem_placeholders_iff, toList_substitute, Piece.mem_split_fill_iff plain,
    mem_placeholders_iff, String.ofList_toList]

end

/-- **Substituting twice is like substituting once** exactly if no token that the text makes has a
value. -/
theorem substitute_twice_iff (text : String) (data : TestData) (plain : data.IsPlain) :
    substitute (substitute text data) data = substitute text data ↔
      ∀ name : String, Makes text.toList data name.toList → data.get? name = none := by
  rw [substitute_eq_self_iff plain]
  constructor
  · intro unvalued name made
    exact unvalued name ((mem_placeholders_substitute_iff plain).2 (.inr made))
  · intro unvalued name mem
    rcases (mem_placeholders_substitute_iff plain).1 mem with ⟨-, none⟩ | made
    · exact none
    · exact unvalued name made

/-- Data by which one token is made out of another. -/
def nestedData : TestData := Dict.ofList [("A", "B"), ("B", "z")]

/-- The law at a text that makes a token. -/
theorem substitute_twice_of_nested :
    nestedData.IsPlain ∧
      (substitute (substitute "<<A>>" nestedData) nestedData = substitute "<<A>>" nestedData ↔
        ∀ name : String, Makes "<<A>>".toList nestedData name.toList →
          nestedData.get? name = none) := by
  have plain : nestedData.IsPlain := by decide +kernel
  exact ⟨plain, substitute_twice_iff "<<A>>" nestedData plain⟩

/-- **Substituting twice may go on**: the text `<<A>>` becomes `<B>` and then `z`. -/
theorem substitute_twice_ne :
    nestedData.IsPlain ∧ substitute "<<A>>" nestedData = "<B>" ∧
      substitute (substitute "<<A>>" nestedData) nestedData ≠ substitute "<<A>>" nestedData := by
  decide +kernel

end Playback
