import Mathlib.Data.List.Basic
import Playback.Placeholder

/-!
# The tokens of a text

Where the tokens of a text stand, said without splitting it into pieces.

* `IsName`, `IsTokenAt` — **a token stands at a position** of a text: a name between brackets;
* `Piece.split_append_open` — **no token goes across an opening bracket**, so a text may be split
  there;
* `isTokenAt_iff_split` — the tokens of a text are the tokens among its pieces;
* `IsTokenAt.eq_or_disjoint` — **two tokens are equal or have no character in common**;
* `Piece.tokensFrom` — the tokens of some pieces with their positions;
* `mem_placeholders_iff_isTokenAt` — **the placeholders of a text** are the names of its tokens.
-/

namespace Playback

/-- **A name**: it is not empty and holds no bracket. -/
structure IsName (name : List Char) : Prop where
  ne_nil : name ≠ []
  no_open : '<' ∉ name
  no_close : '>' ∉ name

/-- **A token stands at a position** of a text. -/
structure IsTokenAt (text : List Char) (start : ℕ) (name : List Char) : Prop where
  /-- Between the brackets is a name. -/
  isName : IsName name
  /-- The brackets and the name stand there. -/
  stands : ∃ before after, text = before ++ '<' :: (name ++ '>' :: after) ∧ before.length = start

namespace Piece

/-! ## Names -/

theorem isNameChar_iff {c : Char} : isNameChar c = true ↔ c ≠ '<' ∧ c ≠ '>' := by
  simp [isNameChar]

/-- A list of characters without brackets holds only characters of names. -/
theorem forall_isNameChar_iff {cs : List Char} :
    (∀ c ∈ cs, isNameChar c = true) ↔ '<' ∉ cs ∧ '>' ∉ cs := by
  constructor
  · intro h
    refine ⟨fun mem => ?_, fun mem => ?_⟩
    · exact (isNameChar_iff.1 (h _ mem)).1 rfl
    · exact (isNameChar_iff.1 (h _ mem)).2 rfl
  · rintro ⟨no_open, no_close⟩ c mem
    refine isNameChar_iff.2 ⟨?_, ?_⟩
    · rintro rfl
      exact no_open mem
    · rintro rfl
      exact no_close mem

/-- What is read after an opening bracket is a name. -/
theorem isName_of_name? {cs name rest : List Char} (h : name? cs = some (name, rest)) :
    IsName name := by
  obtain ⟨-, ne_nil, chars⟩ := name?_eq_some h
  obtain ⟨no_open, no_close⟩ := forall_isNameChar_iff.1 chars
  exact ⟨ne_nil, no_open, no_close⟩

/-- **A name with its closing bracket** is read as one, whatever follows. -/
theorem name?_close {name : List Char} (h : IsName name) (rest : List Char) :
    name? (name ++ '>' :: rest) = some (name, rest) := by
  have chars := forall_isNameChar_iff.2 ⟨h.no_open, h.no_close⟩
  have taken : (name ++ '>' :: rest).takeWhile isNameChar = name := by
    rw [List.takeWhile_append_of_pos chars, List.takeWhile_cons_of_neg (by decide), List.append_nil]
  have dropped : (name ++ '>' :: rest).dropWhile isNameChar = '>' :: rest := by
    rw [List.dropWhile_append_of_pos chars, List.dropWhile_cons_of_neg (by decide)]
  obtain ⟨c, tail, rfl⟩ := List.exists_cons_of_ne_nil h.ne_nil
  rw [name?, taken, dropped]
  rfl

/-- **A name is not read across an opening bracket.** -/
theorem name?_append_open (cs rest : List Char) :
    name? (cs ++ '<' :: rest) = (name? cs).map fun x => (x.1, x.2 ++ '<' :: rest) := by
  -- an opening bracket ends what is taken, if nothing before it does
  have read : (cs ++ '<' :: rest).takeWhile isNameChar = cs.takeWhile isNameChar ∧
      (cs ++ '<' :: rest).dropWhile isNameChar = cs.dropWhile isNameChar ++ '<' :: rest := by
    induction cs with
    | nil => exact ⟨rfl, rfl⟩
    | cons c cs ih =>
      by_cases h : isNameChar c = true
      · simp only [List.cons_append, List.takeWhile_cons_of_pos h, List.dropWhile_cons_of_pos h, ih,
          and_self]
      · simp only [List.cons_append, List.takeWhile_cons_of_neg h, List.dropWhile_cons_of_neg h,
          and_self]
  rw [name?, name?, read.1, read.2]
  cases cs.takeWhile isNameChar with
  | nil => rfl
  | cons c name =>
    cases cs.dropWhile isNameChar with
    | nil => rfl
    | cons d tail =>
      by_cases close : d = '>'
      · subst close
        rfl
      · simp [close]

/-! ## Splitting -/

/-- A character that opens nothing is a piece of its own. -/
theorem split_cons_of_ne {c : Char} (h : c ≠ '<') (cs : List Char) :
    split (c :: cs) = plain c :: split cs := by
  rw [split, if_neg h]

/-- So is an opening bracket that no name follows. -/
theorem split_open_of_none {cs : List Char} (h : name? cs = none) :
    split ('<' :: cs) = plain '<' :: split cs := by
  rw [split, if_pos rfl]
  split
  · next name rest read => cases h.symm.trans read
  · rfl

/-- **A token is a piece of its own**, whatever follows. -/
theorem split_token {name : List Char} (h : IsName name) (rest : List Char) :
    split ('<' :: (name ++ '>' :: rest)) = token name :: split rest := by
  rw [split, if_pos rfl]
  split
  · next name' rest' read =>
    obtain ⟨rfl, rfl⟩ := Prod.mk.inj (Option.some.inj ((name?_close h rest).symm.trans read))
    rfl
  · next unread => cases (name?_close h rest).symm.trans unread

/-- **A text may be split at an opening bracket**: no token goes across it. -/
theorem split_append_open (cs rest : List Char) :
    split (cs ++ '<' :: rest) = split cs ++ split ('<' :: rest) := by
  fun_induction split cs with
  | case1 => rfl
  | case2 cs name tail read ih =>
    obtain ⟨rfl, -, -⟩ := name?_eq_some read
    have isName := isName_of_name? read
    rw [List.cons_append, List.append_assoc, List.cons_append, split_token isName, ih]
    rfl
  | case3 cs unread ih =>
    have unread' : name? (cs ++ '<' :: rest) = none := by rw [name?_append_open, unread]; rfl
    rw [List.cons_append, split_open_of_none unread', ih]
    rfl
  | case4 c cs plain ih =>
    rw [List.cons_append, split_cons_of_ne plain, ih]
    rfl

/-- A token among the pieces of a text has a name. -/
theorem isName_of_mem_split {cs name : List Char} (h : token name ∈ split cs) : IsName name := by
  fun_induction split cs with
  | case1 => cases h
  | case2 cs name' rest read ih =>
    rcases List.mem_cons.1 h with same | h
    · obtain rfl := Piece.token.inj same
      exact isName_of_name? read
    · exact ih h
  | case3 cs unread ih => exact ih (by simpa using h)
  | case4 c cs plain ih => exact ih (by simpa using h)

end Piece

/-! ## Positions -/

open Piece

variable {text : List Char} {start other : ℕ} {name name' : List Char}

/-- **The tokens of a text are those among its pieces.** -/
theorem isTokenAt_iff_split :
    IsTokenAt text start name ↔ ∃ before after, split text = before ++ token name :: after ∧
      (before.flatMap source).length = start := by
  constructor
  · rintro ⟨isName, before, after, rfl, rfl⟩
    refine ⟨split before, split after, ?_, by rw [flatMap_source_split]⟩
    rw [split_append_open, split_token isName]
  · rintro ⟨before, after, eq, rfl⟩
    have mem : token name ∈ split text := by simp [eq]
    refine ⟨isName_of_mem_split mem, before.flatMap source, after.flatMap source, ?_, rfl⟩
    rw [← flatMap_source_split text, eq, List.flatMap_append, List.flatMap_cons, source]
    simp

/-- The length of a token's source. -/
theorem Piece.length_source_token (name : List Char) :
    (source (token name)).length = name.length + 2 := by
  simp [source]

/-- **Two tokens of a text** are equal or have no character in common. -/
theorem IsTokenAt.eq_or_disjoint (h : IsTokenAt text start name)
    (h' : IsTokenAt text other name') :
    (start = other ∧ name = name') ∨ start + name.length + 2 ≤ other ∨
      other + name'.length + 2 ≤ start := by
  obtain ⟨before, after, eq, rfl⟩ := isTokenAt_iff_split.1 h
  obtain ⟨before', after', eq', rfl⟩ := isTokenAt_iff_split.1 h'
  have passes : ∀ (first between : List Piece) (name : List Char),
      (first.flatMap source).length + name.length + 2 ≤
        ((first ++ token name :: between).flatMap source).length := by
    intro first between name
    rw [List.flatMap_append, List.flatMap_cons, List.length_append, List.length_append,
      length_source_token]
    omega
  -- of the pieces before the two tokens, the ones begin with the others
  rcases List.append_eq_append_iff.1 (eq.symm.trans eq') with
    ⟨between, rfl, rest⟩ | ⟨between, rfl, rest⟩
  · cases between with
    | nil =>
      obtain ⟨same, -⟩ := List.cons.inj rest
      exact .inl ⟨by rw [List.append_nil], Piece.token.inj same⟩
    | cons x between =>
      obtain ⟨rfl, -⟩ := List.cons.inj rest
      exact .inr (.inl (passes before between name))
  · cases between with
    | nil =>
      obtain ⟨same, -⟩ := List.cons.inj rest
      exact .inl ⟨by rw [List.append_nil], (Piece.token.inj same).symm⟩
    | cons x between =>
      obtain ⟨rfl, -⟩ := List.cons.inj rest
      exact .inr (.inr (passes before' between name'))

/-! ## Lists of tokens -/

namespace Piece

/-- **The tokens among some pieces**, each with its position, if the pieces begin at one. -/
def tokensFrom : ℕ → List Piece → List (ℕ × List Char)
  | _, [] => []
  | start, token name :: ps => (start, name) :: tokensFrom (start + name.length + 2) ps
  | start, plain _ :: ps => tokensFrom (start + 1) ps

theorem tokensFrom_token (start : ℕ) (name : List Char) (ps : List Piece) :
    tokensFrom start (token name :: ps) =
      (start, name) :: tokensFrom (start + name.length + 2) ps := rfl

theorem tokensFrom_plain (start : ℕ) (c : Char) (ps : List Piece) :
    tokensFrom start (plain c :: ps) = tokensFrom (start + 1) ps := rfl

/-- Each token stands after the pieces before it. -/
theorem mem_tokensFrom {ps : List Piece} {x : ℕ × List Char} :
    x ∈ tokensFrom start ps ↔ ∃ before after, ps = before ++ token x.2 :: after ∧
      start + (before.flatMap source).length = x.1 := by
  induction ps generalizing start with
  | nil => simp [tokensFrom]
  | cons p ps ih =>
    -- the piece is the token itself, or one of those before it
    have first : (∃ before after, p :: ps = before ++ token x.2 :: after ∧
          start + (before.flatMap source).length = x.1) ↔
        (p = token x.2 ∧ start = x.1) ∨ ∃ before after, ps = before ++ token x.2 :: after ∧
          start + (source p).length + (before.flatMap source).length = x.1 := by
      constructor
      · rintro ⟨before, after, eq, at_start⟩
        cases before with
        | nil =>
          obtain ⟨rfl, -⟩ := List.cons.inj eq
          exact .inl ⟨rfl, at_start⟩
        | cons q before =>
          obtain ⟨rfl, rfl⟩ := List.cons.inj eq
          rw [List.flatMap_cons, List.length_append, ← Nat.add_assoc] at at_start
          exact .inr ⟨before, after, rfl, at_start⟩
      · rintro (⟨rfl, rfl⟩ | ⟨before, after, rfl, at_start⟩)
        · exact ⟨[], ps, rfl, rfl⟩
        · refine ⟨p :: before, after, rfl, ?_⟩
          rw [List.flatMap_cons, List.length_append, ← Nat.add_assoc, at_start]
    rw [first]
    cases p with
    | token name =>
      rw [tokensFrom_token, List.mem_cons, ih, length_source_token, Prod.ext_iff]
      refine or_congr ?_ Iff.rfl
      constructor
      · rintro ⟨rfl, rfl⟩
        exact ⟨rfl, rfl⟩
      · rintro ⟨same, rfl⟩
        exact ⟨rfl, (Piece.token.inj same).symm⟩
    | plain c =>
      rw [tokensFrom_plain, ih]
      constructor
      · exact .inr
      · rintro (⟨same, -⟩ | later)
        · cases same
        · exact later

/-- The tokens stand from left to right. -/
theorem pairwise_tokensFrom (start : ℕ) (ps : List Piece) :
    (tokensFrom start ps).Pairwise fun x y => x.1 < y.1 := by
  induction ps generalizing start with
  | nil => exact .nil
  | cons p ps ih =>
    cases p with
    | token name =>
      refine List.pairwise_cons.2 ⟨fun y mem => ?_, ih _⟩
      obtain ⟨before, after, -, at_y⟩ := mem_tokensFrom.1 mem
      show start < y.1
      omega
    | plain c => exact ih _

/-- Their names are those of the pieces. -/
theorem map_tokensFrom (start : ℕ) (ps : List Piece) :
    (tokensFrom start ps).map (fun x => String.ofList x.2) = ps.filterMap tokenName? := by
  induction ps generalizing start with
  | nil => rfl
  | cons p ps ih =>
    cases p with
    | token name =>
      rw [tokensFrom_token, List.map_cons, ih]
      rfl
    | plain c =>
      rw [tokensFrom_plain, ih]
      rfl

end Piece

/-- **The tokens of a text**, from left to right. -/
theorem mem_tokensFrom_split {x : ℕ × List Char} :
    x ∈ tokensFrom 0 (split text) ↔ IsTokenAt text x.1 x.2 := by
  rw [mem_tokensFrom, isTokenAt_iff_split]
  simp only [Nat.zero_add]

/-! ## Placeholders -/

/-- A placeholder is the name of a token. -/
theorem mem_placeholders_iff {text name : String} :
    name ∈ placeholders text ↔ Piece.token name.toList ∈ Piece.split text.toList := by
  rw [placeholders, List.mem_filterMap]
  constructor
  · rintro ⟨p, mem, name_eq⟩
    cases p with
    | plain c => cases name_eq
    | token chars =>
      obtain rfl := Option.some.inj name_eq
      rwa [String.toList_ofList]
  · intro mem
    exact ⟨_, mem, congrArg some String.ofList_toList⟩

/-- **The placeholders of a text** are the names of the tokens that stand in it. -/
theorem mem_placeholders_iff_isTokenAt {text name : String} :
    name ∈ placeholders text ↔ ∃ start, IsTokenAt text.toList start name.toList := by
  rw [mem_placeholders_iff]
  constructor
  · intro mem
    obtain ⟨before, after, eq⟩ := List.append_of_mem mem
    exact ⟨_, isTokenAt_iff_split.2 ⟨before, after, eq, rfl⟩⟩
  · rintro ⟨start, isToken⟩
    obtain ⟨before, after, eq, -⟩ := isTokenAt_iff_split.1 isToken
    exact eq ▸ List.mem_append_right before List.mem_cons_self

end Playback
