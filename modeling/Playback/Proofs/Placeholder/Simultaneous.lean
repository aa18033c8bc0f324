import Playback.Proofs.Placeholder.Dependence
import Playback.Proofs.Placeholder.Tokens

/-!
# Simultaneous replacement

A substituted text, character by character of the text that it is made of.

* `StandsFor` — **what stands for each character** when all tokens that have a value are replaced at
  once: the value for the opening bracket of such a token, nothing for its other characters, and
  every character outside of them for itself;
* `Piece.stands` — the same of one piece, and `standsFor_split` of a text that is split;
* `Simultaneous`, `substitute_simultaneous` — **substitution is simultaneous replacement**, of
  tokens that `placeholders` lists from left to right.
-/

namespace Playback

/-- **What stands for each character of a text** when its tokens are replaced at once. -/
structure StandsFor (text : List Char) (data : TestData) (place : List (List Char)) : Prop where
  /-- Something stands for each character, and nothing else does. -/
  length_eq : place.length = text.length
  /-- The value of a token stands for its first character. -/
  value : ∀ {start name value}, IsTokenAt text start name →
    data.get? (String.ofList name) = some value → place[start]? = some value.toList
  /-- Nothing stands for the others. -/
  erased : ∀ {start name value i}, IsTokenAt text start name →
    data.get? (String.ofList name) = some value → start < i → i < start + name.length + 2 →
    place[i]? = some []
  /-- A character that belongs to no token with a value stands for itself. -/
  kept : ∀ {i c}, text[i]? = some c →
    (∀ start name value, IsTokenAt text start name →
      data.get? (String.ofList name) = some value → i < start ∨ start + name.length + 2 ≤ i) →
    place[i]? = some [c]

/-! ## Pieces -/

namespace Piece

variable {data : TestData}

/-- **What stands for each character of a piece.** -/
def stands (data : TestData) : Piece → List (List Char)
  | token name => match data.get? (String.ofList name) with
    | some value => value.toList :: List.replicate (name.length + 1) []
    | none => (source (token name)).map fun c => [c]
  | plain c => [[c]]

theorem stands_of_value {name : List Char} {value : String}
    (h : data.get? (String.ofList name) = some value) :
    stands data (token name) = value.toList :: List.replicate (name.length + 1) [] := by
  rw [stands, h]

theorem stands_of_none {name : List Char} (h : data.get? (String.ofList name) = none) :
    stands data (token name) = (source (token name)).map fun c => [c] := by
  rw [stands, h]

/-- Something stands for each character of a piece. -/
theorem length_stands (p : Piece) : (stands data p).length = (source p).length := by
  cases p with
  | plain c => rfl
  | token name =>
    cases valued : data.get? (String.ofList name) with
    | none => rw [stands_of_none valued, List.length_map]
    | some value =>
      rw [stands_of_value valued, length_source_token, List.length_cons, List.length_replicate]

/-- **What stands for a piece** takes its place. -/
theorem flatten_stands (p : Piece) : (stands data p).flatten = replaced data p := by
  cases p with
  | plain c => rfl
  | token name =>
    cases valued : data.get? (String.ofList name) with
    | none =>
      rw [stands_of_none valued, replaced, valued, ← List.flatMap_def, List.flatMap_singleton']
    | some value => simp [stands_of_value valued, replaced, valued]

/-- The same of some pieces. -/
theorem flatten_flatMap_stands (ps : List Piece) :
    (ps.flatMap (stands data)).flatten = ps.flatMap (replaced data) := by
  induction ps with
  | nil => rfl
  | cons p ps ih =>
    rw [List.flatMap_cons, List.flatten_append, flatten_stands, ih, List.flatMap_cons]

theorem length_flatMap_stands (data : TestData) (ps : List Piece) :
    (ps.flatMap (stands data)).length = (ps.flatMap source).length := by
  rw [List.length_flatMap, List.length_flatMap]
  exact congrArg List.sum (List.map_congr_left fun p _ => length_stands p)

/-- **What stands for a character** is found in the piece that it belongs to. -/
theorem getElem?_flatMap_stands (data : TestData) (before after : List Piece) (p : Piece) {k : ℕ}
    (inside : k < (source p).length) :
    ((before ++ p :: after).flatMap (stands data))[(before.flatMap source).length + k]? =
      (stands data p)[k]? := by
  rw [List.flatMap_append, List.flatMap_cons, ← length_flatMap_stands data,
    List.getElem?_append_right (Nat.le_add_right _ _), Nat.add_sub_cancel_left,
    List.getElem?_append_left (by rwa [length_stands])]

/-- So is the character itself. -/
theorem getElem?_flatMap_source (before after : List Piece) (p : Piece) {k : ℕ}
    (inside : k < (source p).length) :
    ((before ++ p :: after).flatMap source)[(before.flatMap source).length + k]? =
      (source p)[k]? := by
  rw [List.flatMap_append, List.flatMap_cons, List.getElem?_append_right (Nat.le_add_right _ _),
    Nat.add_sub_cancel_left, List.getElem?_append_left inside]

/-- **Every character belongs to a piece.** -/
theorem exists_piece_of_lt {ps : List Piece} {i : ℕ} (h : i < (ps.flatMap source).length) :
    ∃ before p after k, ps = before ++ p :: after ∧ k < (source p).length ∧
      i = (before.flatMap source).length + k := by
  induction ps generalizing i with
  | nil => exact absurd h (Nat.not_lt_zero i)
  | cons p ps ih =>
    by_cases inside : i < (source p).length
    · exact ⟨[], p, ps, i, rfl, inside, (Nat.zero_add i).symm⟩
    · rw [List.flatMap_cons, List.length_append] at h
      obtain ⟨before, q, after, k, rfl, inside', eq⟩ := ih (i := i - (source p).length) (by omega)
      refine ⟨p :: before, q, after, k, rfl, inside', ?_⟩
      rw [List.flatMap_cons, List.length_append]
      omega

end Piece

/-! ## Texts -/

open Piece

/-- **What stands for the characters of a text** is what stands for those of its pieces. -/
theorem standsFor_split (text : List Char) (data : TestData) :
    StandsFor text data ((split text).flatMap (stands data)) where
  length_eq := by rw [length_flatMap_stands, flatMap_source_split]
  value := by
    intro start name value isToken valued
    obtain ⟨before, after, eq, rfl⟩ := isTokenAt_iff_split.1 isToken
    have first : 0 < (source (token name)).length := by simp [length_source_token]
    have found := getElem?_flatMap_stands data before after _ first
    rw [Nat.add_zero] at found
    rw [eq, found, stands_of_value valued]
    rfl
  erased := by
    intro start name value i isToken valued after_start before_end
    obtain ⟨before, after, eq, rfl⟩ := isTokenAt_iff_split.1 isToken
    obtain ⟨k, rfl⟩ := Nat.exists_eq_add_of_lt after_start
    have inside : k + 1 < (source (token name)).length := by
      rw [length_source_token]
      omega
    have found := getElem?_flatMap_stands data before after _ inside
    rw [eq, Nat.add_assoc, found, stands_of_value valued, List.getElem?_cons_succ,
      List.getElem?_replicate_of_lt (by omega)]
  kept := by
    intro i c at_i outside
    have i_lt : i < ((split text).flatMap source).length := by
      rw [flatMap_source_split]
      exact (List.getElem?_eq_some_iff.1 at_i).1
    obtain ⟨before, p, after, k, eq, inside, rfl⟩ := exists_piece_of_lt i_lt
    have char : (source p)[k]? = some c := by
      rw [← getElem?_flatMap_source before after p inside, ← eq, flatMap_source_split, at_i]
    rw [eq, getElem?_flatMap_stands data before after p inside]
    cases p with
    | plain c' =>
      obtain rfl : k = 0 := Nat.lt_one_iff.1 inside
      obtain rfl := Option.some.inj char
      rfl
    | token name =>
      cases valued : data.get? (String.ofList name) with
      | none => rw [stands_of_none valued, List.getElem?_map, char, Option.map_some]
      | some value =>
        -- the character would belong to a token with a value
        have isToken := isTokenAt_iff_split.2 ⟨before, after, eq, rfl⟩
        rw [length_source_token] at inside
        rcases outside _ _ _ isToken valued with left | right
        · omega
        · omega

/-- **Substitution is simultaneous replacement.** -/
structure Simultaneous (text : String) (data : TestData) : Prop where
  /-- No two tokens of the text have a character in common. -/
  disjoint : ∀ {start other name name'}, IsTokenAt text.toList start name →
    IsTokenAt text.toList other name' →
    (start = other ∧ name = name') ∨ start + name.length + 2 ≤ other ∨
      other + name'.length + 2 ≤ start
  /-- All tokens with a value are replaced at once, and everything else is kept. What stands for a
  character depends on the tokens of the text alone, so no value is scanned again. -/
  replaced : ∃ place, StandsFor text.toList data place ∧
    (substitute text data).toList = place.flatten
  /-- The placeholders are the names of the tokens, from left to right. -/
  named : ∃ tokens : List (ℕ × List Char), tokens.Pairwise (fun x y => x.1 < y.1) ∧
    (∀ start name, (start, name) ∈ tokens ↔ IsTokenAt text.toList start name) ∧
    placeholders text = tokens.map fun x => String.ofList x.2
  /-- If none of them has a value, the text stays as it is. -/
  kept : (∀ name ∈ placeholders text, data.get? name = none) → substitute text data = text

/-- **Substitution is simultaneous replacement**, for every text and all data. -/
theorem substitute_simultaneous (text : String) (data : TestData) : Simultaneous text data where
  disjoint h h' := h.eq_or_disjoint h'
  replaced := by
    refine ⟨_, standsFor_split text.toList data, ?_⟩
    rw [flatten_flatMap_stands, substitute, String.toList_ofList]
  named := by
    refine ⟨tokensFrom 0 (split text.toList), pairwise_tokensFrom 0 _, ?_, ?_⟩
    · exact fun start name => mem_tokensFrom_split
    · rw [map_tokensFrom, placeholders]
  kept := substitute_eq_self

end Playback
