import Playback.Step.Record

/-!
# Placeholders

A **token** is a name between angle brackets; the name is not empty and holds no angle bracket. A
text is split into its tokens and the characters outside of them, and `substitute` replaces at once
every token whose name has a value.

* `Piece.split` — the pieces of a text, and `flatMap_source_split`: together they are the text;
* `substitute`, `placeholders` — replacement, and the names of the tokens in order;
* `StepRecord.substitute`, `StepRecord.placeholders` — the same for the fields of a step that may
  hold tokens.
-/

namespace Playback

/-- **A piece of a text**: a token with its name, or a character outside of all tokens. -/
inductive Piece where
  | token (name : List Char)
  | plain (c : Char)
  deriving DecidableEq, Repr

namespace Piece

/-- A character that may stand in a name. -/
def isNameChar (c : Char) : Bool := c != '<' && c != '>'

/-- The name and the rest of a text that goes on like a token after its opening bracket. -/
def name? (cs : List Char) : Option (List Char × List Char) :=
  match cs.takeWhile isNameChar, cs.dropWhile isNameChar with
  | c :: name, '>' :: rest => some (c :: name, rest)
  | _, _ => none

theorem name?_eq_some {cs name rest : List Char} (h : name? cs = some (name, rest)) :
    cs = name ++ '>' :: rest ∧ name ≠ [] ∧ ∀ c ∈ name, isNameChar c = true := by
  unfold name? at h
  split at h
  · rename_i c tail rest' htake hdrop
    simp only [Option.some.injEq, Prod.mk.injEq] at h
    obtain ⟨rfl, rfl⟩ := h
    refine ⟨?_, by simp, ?_⟩
    · have := List.takeWhile_append_dropWhile (p := isNameChar) (l := cs)
      rw [htake, hdrop] at this
      exact this.symm
    · intro x hx
      rw [← htake] at hx
      have all := List.all_takeWhile (p := isNameChar) (l := cs)
      exact List.all_eq_true.1 all x hx
  · simp at h

theorem length_rest_lt {cs name rest : List Char} (h : name? cs = some (name, rest)) :
    rest.length < cs.length + 1 := by
  rw [(name?_eq_some h).1]
  simp
  omega

/-- **The pieces of a text**, from left to right. -/
def split (cs : List Char) : List Piece :=
  match cs with
  | [] => []
  | c :: cs =>
    if c = '<' then
      match _h : name? cs with
      | some (name, rest) => token name :: split rest
      | none => plain c :: split cs
    else plain c :: split cs
termination_by cs.length
decreasing_by
  · simpa using length_rest_lt _h
  · simp
  · simp

/-- The characters of a piece in the text. -/
def source : Piece → List Char
  | token name => '<' :: (name ++ ['>'])
  | plain c => [c]

/-- The characters that take a piece's place: the value of a token that has one. -/
def replaced (data : TestData) : Piece → List Char
  | token name => match data.get? (String.ofList name) with
    | some value => value.toList
    | none => source (token name)
  | plain c => [c]

/-- The name of a token. -/
def tokenName? : Piece → Option String
  | token name => some (String.ofList name)
  | plain _ => none

/-- **Nothing is lost**: the pieces of a text are the text. -/
theorem flatMap_source_split (cs : List Char) : (split cs).flatMap source = cs := by
  fun_induction split cs with
  | case1 => rfl
  | case2 cs name rest h ih =>
    rw [List.flatMap_cons, ih, source, (name?_eq_some h).1]
    simp
  | case3 cs h ih => rw [List.flatMap_cons, ih]; rfl
  | case4 c cs h ih => rw [List.flatMap_cons, ih]; rfl

end Piece

/-- **Substitution**: every token whose name has a value becomes the value. -/
def substitute (text : String) (data : TestData) : String :=
  String.ofList ((Piece.split text.toList).flatMap (Piece.replaced data))

/-- The names of the tokens of a text, from left to right. -/
def placeholders (text : String) : List String :=
  (Piece.split text.toList).filterMap Piece.tokenName?

/-- The members of a list that do not occur before. -/
def distinct : List String → List String
  | [] => []
  | s :: rest => s :: (distinct rest).filter (· ≠ s)

namespace StepRecord

/-- The text of the recorded value, if it is one. -/
def textValue? (s : StepRecord) : Option String := s.value.bind Json.str?

/-- **A step with its tokens replaced.** Without any data it stays as it is. -/
def substitute (s : StepRecord) (data : TestData) : StepRecord :=
  if data.isEmpty then s
  else
    let replace (text : String) : String := Playback.substitute text data
    { s with
      attributes := s.attributes.map fun a => { a with value := a.value.map replace }
      valueToAssert := s.valueToAssert.map replace
      url := s.url.map replace
      value := s.value.map fun v => match v with
        | .str text => .str (replace text)
        | v => v }

/-- **The distinct names of a step's tokens**, in the order of the fields that may hold them. -/
def placeholders (s : StepRecord) : List String :=
  distinct ([s.input?, s.valueToAssert, s.url, s.textValue?].flatMap fun field =>
    match field with
    | some text => Playback.placeholders text
    | none => [])

end StepRecord

end Playback
