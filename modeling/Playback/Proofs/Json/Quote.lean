import Playback.Json.Reader

/-!
# Texts in quotes

What stands between quotes is read back as it was, and has no control characters.

* `Json.nextPiece_escapeChar` — **an escaped character is read as the character**;
* `Json.readString_quote` — a quoted text is read as the text, whatever follows it;
* `Json.IsPrintable` — text without control characters; `Json.isPrintable_quote` says that quoted
  text is such, whatever is quoted.
-/

namespace Playback.Json

/-! ## Reading -/

/-- Two hexadecimal digits denote the number below thirty-two that they were made of. -/
theorem natInBase?_hexDigit :
    ∀ n < 32, natInBase? 16 ['0', '0', hexDigit (n / 16), hexDigit (n % 16)] = some n := by
  decide

/-- The code of a control character is read back. -/
theorem hexQuad?_control {n : Nat} (control : n < 32) (rest : List Char) :
    hexQuad? (['0', '0', hexDigit (n / 16), hexDigit (n % 16)] ++ rest) = some (n, rest) := by
  change (natInBase? 16 ['0', '0', hexDigit (n / 16), hexDigit (n % 16)]).bind _ = _
  rw [natInBase?_hexDigit n control]
  rfl

/-- A character that needs no escape is read as it stands. -/
theorem nextPiece_plain {c : Char} (quote : c ≠ '"') (escape : c ≠ '\\')
    (printable : ¬ c.toNat < 32)
    (rest : List Char) : nextPiece (c :: rest) = some (.char c, rest) := by
  rw [nextPiece]
  · rw [if_neg printable]
  · exact quote
  · exact escape

/-- **An escaped character is read as the character.** -/
theorem nextPiece_escapeChar (c : Char) (rest : List Char) :
    nextPiece (escapeChar c ++ rest) = some (.char c, rest) := by
  by_cases quote : c = '"'
  · subst quote
    rfl
  by_cases escape : c = '\\'
  · subst escape
    rfl
  by_cases newline : c = '\n'
  · subst newline
    rfl
  by_cases carriage : c = '\r'
  · subst carriage
    rfl
  by_cases tab : c = '\t'
  · subst tab
    rfl
  by_cases backspace : c = '\x08'
  · subst backspace
    rfl
  by_cases feed : c = '\x0c'
  · subst feed
    rfl
  rw [escapeChar, if_neg quote, if_neg escape, if_neg newline, if_neg carriage, if_neg tab,
    if_neg backspace, if_neg feed]
  by_cases control : c.toNat < 32
  · have code := hexQuad?_control control rest
    have whole : ¬ (0xD800 ≤ c.toNat ∧ c.toNat ≤ 0xDFFF) := fun half => by omega
    rw [if_pos control]
    change (hexQuad? (['0', '0', hexDigit (c.toNat / 16), hexDigit (c.toNat % 16)] ++ rest)).bind _ =
      _
    rw [code]
    change some (if 0xD800 ≤ c.toNat ∧ c.toNat ≤ 0xDFFF then _ else _, rest) = _
    rw [if_neg whole, Char.ofNat_toNat]
  · rw [if_neg control]
    exact nextPiece_plain quote escape control rest

/-- **The pieces of an escaped text** are its characters. -/
theorem readPieces_escaped (cs rest : List Char) {fuel : Nat} (enough : cs.length < fuel) :
    readPieces fuel (cs.flatMap escapeChar ++ '"' :: rest) = some (cs.map .char, rest) := by
  induction cs generalizing fuel with
  | nil =>
    obtain ⟨fuel, rfl⟩ := Nat.exists_eq_succ_of_ne_zero (Nat.ne_zero_of_lt enough)
    rfl
  | cons c cs ih =>
    obtain ⟨fuel, rfl⟩ := Nat.exists_eq_succ_of_ne_zero (Nat.ne_zero_of_lt enough)
    rw [List.flatMap_cons, List.append_assoc, readPieces, nextPiece_escapeChar]
    dsimp only
    rw [ih (Nat.lt_of_succ_lt_succ enough)]
    rfl

/-- Characters are joined to what they are. -/
theorem joinPieces_chars (cs : List Char) : joinPieces (cs.map .char) = some cs := by
  induction cs with
  | nil => rfl
  | cons c cs ih =>
    rw [List.map_cons, joinPieces, ih]
    rfl

/-- Escapes do not make a text shorter. -/
theorem length_le_flatMap_escapeChar (cs : List Char) :
    cs.length ≤ (cs.flatMap escapeChar).length := by
  have escaped : ∀ c, 1 ≤ (escapeChar c).length := by
    intro c
    unfold escapeChar
    repeat' split
    all_goals simp
  induction cs with
  | nil => exact Nat.le_refl 0
  | cons c cs ih =>
    have one := escaped c
    rw [List.flatMap_cons, List.length_append, List.length_cons]
    omega

/-- **A quoted text is read as the text**, whatever follows it. -/
theorem readString_quote (s : String) (rest : List Char) :
    readString (s.toList.flatMap escapeChar ++ '"' :: rest) = some (.str s, rest) := by
  have enough : s.toList.length < (s.toList.flatMap escapeChar ++ '"' :: rest).length + 1 := by
    have escaped := length_le_flatMap_escapeChar s.toList
    rw [List.length_append, List.length_cons]
    omega
  rw [readString, readPieces_escaped s.toList rest enough, Option.map_some]
  dsimp only
  rw [joinPieces_chars]
  dsimp only
  rw [String.ofList_toList]

/-! ## Printing -/

/-- **Text without control characters**, and so without line breaks. -/
def IsPrintable (cs : List Char) : Prop := ∀ c ∈ cs, 32 ≤ c.toNat

/-- Whether a text has none can be computed. -/
theorem isPrintable_of_all {cs : List Char} (h : cs.all (fun c => decide (32 ≤ c.toNat)) = true) :
    IsPrintable cs :=
  fun c hmem => of_decide_eq_true (List.all_eq_true.1 h c hmem)

/-- Parts without control characters make such a whole. -/
theorem isPrintable_append {cs ds : List Char} (hc : IsPrintable cs) (hd : IsPrintable ds) :
    IsPrintable (cs ++ ds) := by
  intro c hmem
  rcases List.mem_append.1 hmem with h | h
  · exact hc c h
  · exact hd c h

/-- A character in front of text without control characters. -/
theorem isPrintable_cons {c : Char} {cs : List Char} (hc : 32 ≤ c.toNat) (hcs : IsPrintable cs) :
    IsPrintable (c :: cs) :=
  isPrintable_append (fun _ h => by rwa [List.mem_singleton.1 h]) hcs

/-- Hexadecimal digits are no control characters. -/
theorem isPrintable_hexDigits (n : Nat) (h : n < 32) :
    IsPrintable ['\\', 'u', '0', '0', hexDigit (n / 16), hexDigit (n % 16)] := by
  have each : ∀ n < 32, ['\\', 'u', '0', '0', hexDigit (n / 16), hexDigit (n % 16)].all
      (fun c => decide (32 ≤ c.toNat)) = true := by decide
  exact isPrintable_of_all (each n h)

/-- An escaped character has no control characters. -/
theorem isPrintable_escapeChar (c : Char) : IsPrintable (escapeChar c) := by
  unfold escapeChar
  by_cases control : c.toNat < 32
  · have digits := isPrintable_hexDigits c.toNat control
    repeat' split
    all_goals first | exact digits | exact isPrintable_of_all rfl
  · have plain : IsPrintable [c] := fun d h => by
      rw [List.mem_singleton.1 h]
      exact Nat.not_lt.1 control
    rw [if_neg control]
    repeat' split
    all_goals first | exact plain | exact isPrintable_of_all rfl

/-- **A quoted text has no control characters**, whatever is quoted. -/
theorem isPrintable_quote (s : String) : IsPrintable (quote s) := by
  refine isPrintable_cons (by decide) (isPrintable_append ?_ (isPrintable_of_all rfl))
  intro c hmem
  obtain ⟨d, -, escaped⟩ := List.mem_flatMap.1 hmem
  exact isPrintable_escapeChar d c escaped

end Playback.Json
