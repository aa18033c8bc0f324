import Mathlib.Data.List.TakeWhile
import Playback.Json.Reader

/-!
# Numerals in text

A numeral is read alike whatever follows it, as long as that does not go on with the numeral.

* `Json.isNumeralChar` — **the characters of numerals**; `Json.isNumeral_int` and
  `Json.isNumeral_float` say that numbers are written in them;
* `Json.Stops` — what can follow a numeral;
* `Json.readNumber`, `readNumber_append` — **reading a numeral in front of other text**;
* `Json.ReadsBack` — a value is read back as it was written; `readValue_number` carries that over to
  numbers within a text;
* `Json.readsBack_int_iff` — **exactly the whole numbers of 64 bits are read back**.
-/

namespace Playback

namespace Json

/-! ## Characters -/

/-- **The characters of numerals.** -/
def isNumeralChar (c : Char) : Bool :=
  isDigit c || c == '.' || c == 'e' || c == 'E' || c == '+' || c == '-'

/-- **Text in the characters of numerals.** -/
def IsNumeral (cs : List Char) : Prop := ∀ c ∈ cs, isNumeralChar c = true

/-- Whether a text is a numeral can be computed. -/
theorem isNumeral_of_all {cs : List Char} (h : cs.all isNumeralChar = true) : IsNumeral cs :=
  List.all_eq_true.1 h

/-- **What can follow a numeral**: nothing, or a character of another kind. -/
def Stops (rest : List Char) : Prop := ∀ c r, rest = c :: r → isNumeralChar c = false

/-- The end of a text stops a numeral. -/
theorem stops_nil : Stops [] := fun _ _ h => nomatch h

/-- So does a character of another kind. -/
theorem stops_cons {c : Char} (other : isNumeralChar c = false) (r : List Char) :
    Stops (c :: r) := by
  intro d r' h
  obtain ⟨rfl, rfl⟩ := List.cons.inj h
  exact other

/-- A digit is a character of numerals. -/
theorem isNumeralChar_of_isDigit {c : Char} (digit : isDigit c = true) :
    isNumeralChar c = true := by
  simp [isNumeralChar, digit]

/-- Blanks are none. -/
theorem isSpace_of_isNumeralChar {c : Char} (numeral : isNumeralChar c = true) :
    isSpace c = false := by
  by_cases space : isSpace c = true
  · have blank : c = ' ' ∨ c = '\n' ∨ c = '\t' ∨ c = '\r' := by
      simpa [isSpace, or_assoc] using space
    rcases blank with rfl | rfl | rfl | rfl <;> exact absurd numeral (by decide)
  · exact Bool.eq_false_iff.2 space

/-- Parts of a numeral make a whole. -/
theorem isNumeral_append {cs ds : List Char} (hc : IsNumeral cs) (hd : IsNumeral ds) :
    IsNumeral (cs ++ ds) := by
  intro c hmem
  rcases List.mem_append.1 hmem with h | h
  · exact hc c h
  · exact hd c h

/-- The digits of a number are digits. -/
theorem isDigit_of_mem_digitsOf {n : Nat} {c : Char} (hmem : c ∈ digitsOf n) :
    isDigit c = true :=
  Nat.isDigit_of_mem_toDigits (by decide) (by decide) hmem

/-- Numbers with the same digits are equal. -/
theorem digitsOf_inj {m n : Nat} : digitsOf m = digitsOf n ↔ m = n := by
  constructor
  · intro same
    calc
      m = Nat.ofDigitChars 10 (digitsOf m) 0 := Nat.ofDigitChars_ten_toDigits.symm
      _ = Nat.ofDigitChars 10 (digitsOf n) 0 := by rw [same]
      _ = n := Nat.ofDigitChars_ten_toDigits
  · rintro rfl
    rfl

/-- Digits make a numeral. -/
theorem isNumeral_digitsOf (n : Nat) : IsNumeral (digitsOf n) :=
  fun _ hmem => isNumeralChar_of_isDigit (isDigit_of_mem_digitsOf hmem)

/-- Zeros make a numeral. -/
theorem isNumeral_zeros (n : Nat) : IsNumeral (List.replicate n '0') := by
  intro c hmem
  rw [List.eq_of_mem_replicate hmem]
  decide

/-- **Integers are written as numerals.** -/
theorem isNumeral_int (n : Int) : IsNumeral (intChars n) := by
  rw [intChars]
  split
  · intro c hmem
    rcases List.mem_cons.1 hmem with rfl | hmem
    · decide
    · exact isNumeral_digitsOf _ c hmem
  · exact isNumeral_digitsOf _

/-- A decimal in positional notation is a numeral. -/
theorem isNumeral_plain (d : Decimal) : IsNumeral d.plain := by
  rw [Decimal.plain]
  dsimp only
  split
  · exact isNumeral_append (isNumeral_digitsOf _) (isNumeral_zeros _)
  · have padded : IsNumeral (padZeros (d.exponent.natAbs + 1) (digitsOf d.digits)) :=
      isNumeral_append (isNumeral_zeros _) (isNumeral_digitsOf _)
    refine isNumeral_append (fun c hmem => padded c (List.mem_of_mem_take hmem)) ?_
    intro c hmem
    rcases List.mem_cons.1 hmem with rfl | hmem
    · decide
    · exact padded c (List.mem_of_mem_drop hmem)

/-- A decimal with an exponent is a numeral. -/
theorem isNumeral_scientific (d : Decimal) : IsNumeral d.scientific := by
  have digits := isNumeral_digitsOf d.digits
  rw [Decimal.scientific]
  refine isNumeral_append (isNumeral_append (fun c hmem => digits c (List.mem_of_mem_take hmem)) ?_)
    ?_
  · split
    · exact fun c hmem => nomatch hmem
    · intro c hmem
      rcases List.mem_cons.1 hmem with rfl | hmem
      · decide
      · exact digits c (List.mem_of_mem_drop hmem)
  · intro c hmem
    rcases List.mem_cons.1 hmem with rfl | hmem
    · decide
    rcases List.mem_cons.1 hmem with rfl | hmem
    · split <;> decide
    · exact isNumeral_digitsOf _ c hmem

/-- A sign may stand in front of a numeral. -/
theorem isNumeral_signed (x : Binary64) {magnitude : List Char} (h : IsNumeral magnitude) :
    IsNumeral (x.signed magnitude).toList := by
  rw [Binary64.signed, String.toList_ofList]
  split
  · intro c hmem
    rcases List.mem_cons.1 hmem with rfl | hmem
    · decide
    · exact h c hmem
  · exact h

/-- **Finite numbers are written as numerals.** -/
theorem isNumeral_float {x : Binary64} (finite : x.isFinite = true) :
    IsNumeral x.scientific.toList := by
  have zero : IsNumeral ['.', '0'] := isNumeral_of_all rfl
  have nought : IsNumeral ['0', '.', '0'] := isNumeral_of_all rfl
  rw [Binary64.scientific, finite]
  dsimp only [Bool.not_true, Bool.false_eq_true, if_false]
  split
  · exact absurd ‹_› Bool.false_ne_true
  · split
    · exact isNumeral_signed x nought
    · split
      · refine isNumeral_signed x ?_
        split
        · exact isNumeral_append (isNumeral_plain _) zero
        · exact isNumeral_plain _
      · exact isNumeral_signed x (isNumeral_scientific _)

/-! ## Reading -/

/-- Digits are taken alike in front of what stops a numeral. -/
theorem takeWhile_isDigit_append {rest : List Char} (stops : Stops rest) (cs : List Char) :
    (cs ++ rest).takeWhile isDigit = cs.takeWhile isDigit ∧
      (cs ++ rest).dropWhile isDigit = cs.dropWhile isDigit ++ rest := by
  induction cs with
  | nil =>
    cases rest with
    | nil => exact ⟨rfl, rfl⟩
    | cons c r =>
      have other : ¬ isDigit c = true := fun digit => by
        have numeral := isNumeralChar_of_isDigit digit
        rw [stops c r rfl] at numeral
        exact Bool.false_ne_true numeral
      rw [List.nil_append, List.takeWhile_cons_of_neg other, List.dropWhile_cons_of_neg other]
      exact ⟨rfl, rfl⟩
  | cons c cs ih =>
    rw [List.cons_append]
    by_cases digit : isDigit c = true
    · rw [List.takeWhile_cons_of_pos digit, List.takeWhile_cons_of_pos digit,
        List.dropWhile_cons_of_pos digit, List.dropWhile_cons_of_pos digit, ih.1, ih.2]
      exact ⟨rfl, rfl⟩
    · rw [List.takeWhile_cons_of_neg digit, List.takeWhile_cons_of_neg digit,
        List.dropWhile_cons_of_neg digit, List.dropWhile_cons_of_neg digit]
      exact ⟨rfl, rfl⟩

/-- What was read, in front of other text. -/
def followedBy {α : Type} (rest : List Char) : Option (α × List Char) → Option (α × List Char) :=
  Option.map fun p => (p.1, p.2 ++ rest)

/-- Places after the point are read alike in front of what stops a numeral. -/
theorem readPlaces_append {rest : List Char} (stops : Stops rest) (cs : List Char) :
    readPlaces (cs ++ rest) = followedBy rest (readPlaces cs) := by
  cases cs with
  | nil =>
    cases rest with
    | nil => rfl
    | cons c r =>
      have other : c ≠ '.' := fun same => by
        have numeral := stops c r rfl
        rw [same] at numeral
        exact absurd numeral (by decide)
      rw [List.nil_append, readPlaces]
      · rfl
      · intro r' h
        exact other (List.cons.inj h).1
  | cons c cs =>
    by_cases point : c = '.'
    · subst point
      rw [List.cons_append, readPlaces, readPlaces, (takeWhile_isDigit_append stops cs).1,
        (takeWhile_isDigit_append stops cs).2]
      split <;> rfl
    · have unpointed : ∀ ds, readPlaces (c :: ds) = some (none, c :: ds) := by
        intro ds
        rw [readPlaces]
        intro r h
        exact point (List.cons.inj h).1
      rw [List.cons_append, unpointed, unpointed]
      rfl

/-- The sign of an exponent, and what follows it. -/
def exponentSign : List Char → Bool × List Char
  | '-' :: r => (true, r)
  | '+' :: r => (false, r)
  | r => (false, r)

/-- The sign of an exponent is read alike in front of what stops a numeral. -/
theorem exponentSign_append {rest : List Char} (stops : Stops rest) (cs : List Char) :
    exponentSign (cs ++ rest) = ((exponentSign cs).1, (exponentSign cs).2 ++ rest) := by
  have unsigned : ∀ {c : Char} (r : List Char), c ≠ '-' → c ≠ '+' →
      exponentSign (c :: r) = (false, c :: r) := by
    intro c r minus plus
    rw [exponentSign]
    · exact fun r' h => minus (List.cons.inj h).1
    · exact fun r' h => plus (List.cons.inj h).1
  cases cs with
  | nil =>
    cases rest with
    | nil => rfl
    | cons c r =>
      have other := stops c r rfl
      have minus : c ≠ '-' := fun same => by rw [same] at other; exact absurd other (by decide)
      have plus : c ≠ '+' := fun same => by rw [same] at other; exact absurd other (by decide)
      rw [List.nil_append, unsigned r minus plus]
      rfl
  | cons c cs =>
    by_cases minus : c = '-'
    · subst minus
      rfl
    by_cases plus : c = '+'
    · subst plus
      rfl
    rw [List.cons_append, unsigned _ minus plus, unsigned _ minus plus]
    rfl

/-- An exponent is read after its mark: a sign, and digits. -/
theorem readExponent_cons (c : Char) (cs : List Char) :
    readExponent (c :: cs) =
      if c == 'e' || c == 'E' then
        if ((exponentSign cs).2.takeWhile isDigit).isEmpty then none
        else some (some ((exponentSign cs).1, (exponentSign cs).2.takeWhile isDigit),
          (exponentSign cs).2.dropWhile isDigit)
      else some (none, c :: cs) := rfl

/-- An exponent is read alike in front of what stops a numeral. -/
theorem readExponent_append {rest : List Char} (stops : Stops rest) (cs : List Char) :
    readExponent (cs ++ rest) = followedBy rest (readExponent cs) := by
  cases cs with
  | nil =>
    cases rest with
    | nil => rfl
    | cons c r =>
      have other := stops c r rfl
      have unmarked : ¬ (c == 'e' || c == 'E') = true := fun mark => by
        have numeral : isNumeralChar c = true := by
          rcases Bool.or_eq_true_iff.1 mark with e | e <;> simp [isNumeralChar, e]
        rw [other] at numeral
        exact Bool.false_ne_true numeral
      rw [List.nil_append, readExponent_cons, if_neg unmarked]
      rfl
  | cons c cs =>
    rw [List.cons_append, readExponent_cons, readExponent_cons, exponentSign_append stops]
    dsimp only
    rw [(takeWhile_isDigit_append stops _).1, (takeWhile_isDigit_append stops _).2]
    split
    · split <;> rfl
    · rfl

/-- **A numeral without its sign is read alike** in front of what stops a numeral. -/
theorem readMagnitude_append {rest : List Char} (stops : Stops rest) (negative : Bool)
    (cs : List Char) :
    readMagnitude negative (cs ++ rest) = followedBy rest (readMagnitude negative cs) := by
  rw [readMagnitude, readMagnitude, (takeWhile_isDigit_append stops cs).1,
    (takeWhile_isDigit_append stops cs).2]
  dsimp only
  split
  · rfl
  · rw [readPlaces_append stops]
    cases readPlaces (cs.dropWhile isDigit) with
    | none => rfl
    | some read =>
      obtain ⟨places, after⟩ := read
      change (readExponent (after ++ rest)).bind _ = followedBy rest ((readExponent after).bind _)
      rw [readExponent_append stops]
      cases readExponent after <;> rfl

/-- Places after the point leave the end of the text. -/
theorem readPlaces_suffix {cs r : List Char} {places : Option (List Char)}
    (h : readPlaces cs = some (places, r)) : r <:+ cs := by
  unfold readPlaces at h
  split at h
  · dsimp only at h
    split at h
    · exact nomatch h
    · obtain ⟨-, rfl⟩ := Prod.mk.inj (Option.some.inj h)
      exact (List.dropWhile_suffix _).trans (List.suffix_cons _ _)
  · obtain ⟨-, rfl⟩ := Prod.mk.inj (Option.some.inj h)
    exact List.suffix_refl _

/-- The sign of an exponent leaves the end of the text. -/
theorem exponentSign_suffix (cs : List Char) : (exponentSign cs).2 <:+ cs := by
  unfold exponentSign
  split
  · exact List.suffix_cons _ _
  · exact List.suffix_cons _ _
  · exact List.suffix_refl _

/-- An exponent leaves the end of the text. -/
theorem readExponent_suffix {cs r : List Char} {exponent : Option (Bool × List Char)}
    (h : readExponent cs = some (exponent, r)) : r <:+ cs := by
  cases cs with
  | nil =>
    obtain ⟨-, rfl⟩ := Prod.mk.inj (Option.some.inj h)
    exact List.suffix_refl _
  | cons c cs =>
    rw [readExponent_cons] at h
    split at h
    · split at h
      · exact nomatch h
      · obtain ⟨-, rfl⟩ := Prod.mk.inj (Option.some.inj h)
        exact ((List.dropWhile_suffix _).trans (exponentSign_suffix cs)).trans
          (List.suffix_cons _ _)
    · obtain ⟨-, rfl⟩ := Prod.mk.inj (Option.some.inj h)
      exact List.suffix_refl _

/-- **A numeral leaves the end of the text.** -/
theorem readMagnitude_suffix {negative : Bool} {cs r : List Char} {d : Document}
    (h : readMagnitude negative cs = some (d, r)) : r <:+ cs := by
  rw [readMagnitude] at h
  dsimp only at h
  split at h
  · exact nomatch h
  · obtain ⟨⟨places, after⟩, first, h⟩ := Option.bind_eq_some_iff.1 h
    obtain ⟨⟨exponent, last⟩, second, h⟩ := Option.bind_eq_some_iff.1 h
    obtain ⟨-, rfl⟩ := Prod.mk.inj (Option.some.inj h)
    exact ((readExponent_suffix second).trans (readPlaces_suffix first)).trans
      (List.dropWhile_suffix _)

/-- **Reads a numeral**, with its sign. -/
def readNumber : List Char → Option (Document × List Char)
  | '-' :: r => readMagnitude true r
  | r => readMagnitude false r

/-- A text that begins like a numeral is read as one. -/
theorem readValue_of_isNumeralChar (fuel depth : Nat) {c : Char} (cs : List Char)
    (numeral : isNumeralChar c = true) :
    readValue (fuel + 1) depth (c :: cs) =
      match readNumber (c :: cs) with
      | some (d, r) => (d, some r)
      | none => (.damaged, none) := by
  have unskipped : skipSpace (c :: cs) = c :: cs :=
    List.dropWhile_cons_of_neg (by rw [isSpace_of_isNumeralChar numeral]; exact Bool.false_ne_true)
  rw [readValue, unskipped]
  split
  · next same => cases same; exact absurd numeral (by decide)
  · next same => cases same; exact absurd numeral (by decide)
  · next same => cases same; exact absurd numeral (by decide)
  · next same => cases same; exact absurd numeral (by decide)
  · next same => cases same; exact absurd numeral (by decide)
  · next same => cases same; exact absurd numeral (by decide)
  · next same =>
    cases same
    rfl
  · next r _ _ _ _ _ _ unsigned =>
    have magnitude : readNumber (c :: cs) = readMagnitude false (c :: cs) := by
      rw [readNumber]
      exact unsigned
    rewrite [magnitude]
    rfl

/-- **A numeral is read alike** in front of what stops it. -/
theorem readNumber_append {rest cs : List Char} {d : Document} (stops : Stops rest)
    (h : readNumber cs = some (d, [])) : readNumber (cs ++ rest) = some (d, rest) := by
  cases cs with
  | nil => exact nomatch h
  | cons c cs =>
    by_cases minus : c = '-'
    · subst minus
      change readMagnitude true cs = _ at h
      change readMagnitude true (cs ++ rest) = _
      rw [readMagnitude_append stops, h]
      rfl
    · have unsigned : ∀ ds, readNumber (c :: ds) = readMagnitude false (c :: ds) := by
        intro ds
        rw [readNumber]
        exact fun r same => minus (List.cons.inj same).1
      rw [unsigned] at h
      rw [List.cons_append, unsigned, ← List.cons_append, readMagnitude_append stops, h]
      rfl

/-- A numeral leaves the end of the text. -/
theorem readNumber_suffix {cs r : List Char} {d : Document} (h : readNumber cs = some (d, r)) :
    r <:+ cs := by
  unfold readNumber at h
  split at h
  · exact (readMagnitude_suffix h).trans (List.suffix_cons _ _)
  · exact readMagnitude_suffix h

/-! ## Numbers within a text -/

/-- **A value is read back as it was written.** -/
def ReadsBack (v : Json) : Prop := read v.compact = (Document.ofJson v, false)

/-- **A number that is read back** is read as a numeral, to its end. -/
theorem readNumber_of_readsBack {v : Json} (numeral : IsNumeral v.compactChars)
    (sound : Document.ofJson v ≠ .damaged) (h : ReadsBack v) :
    readNumber v.compactChars = some (Document.ofJson v, []) := by
  rw [ReadsBack, read, compact, String.toList_ofList] at h
  generalize v.compactChars = cs at numeral h
  cases cs with
  | nil => exact absurd (Prod.mk.inj h).1.symm sound
  | cons c cs =>
    rw [readValue_of_isNumeralChar _ _ cs (numeral c List.mem_cons_self)] at h
    cases read : readNumber (c :: cs) with
    | none =>
      rw [read] at h
      exact absurd (Prod.mk.inj h).1.symm sound
    | some result =>
      obtain ⟨d, r⟩ := result
      rw [read] at h
      obtain ⟨rfl, blank⟩ := Prod.mk.inj h
      -- nothing but blanks is left of the text, and it has none
      cases r with
      | nil => rfl
      | cons c' r =>
        have left : isNumeralChar c' = true :=
          numeral c' ((readNumber_suffix read).subset List.mem_cons_self)
        have unskipped : skipSpace (c' :: r) = c' :: r :=
          List.dropWhile_cons_of_neg (by
            rw [isSpace_of_isNumeralChar left]
            exact Bool.false_ne_true)
        rw [unskipped] at blank
        exact nomatch blank

/-- **A number that is read back** is read within any text that does not go on with it. -/
theorem readValue_number {v : Json} (numeral : IsNumeral v.compactChars)
    (sound : Document.ofJson v ≠ .damaged) (h : ReadsBack v) {rest : List Char}
    (stops : Stops rest) (fuel depth : Nat) :
    readValue (fuel + 1) depth (v.compactChars ++ rest) = (Document.ofJson v, some rest) := by
  have whole := readNumber_of_readsBack numeral sound h
  generalize v.compactChars = cs at numeral whole
  cases cs with
  | nil => exact nomatch whole
  | cons c cs =>
    have read := readNumber_append stops whole
    rw [List.cons_append] at read ⊢
    rw [readValue_of_isNumeralChar _ _ _ (numeral c List.mem_cons_self), read]

/-! ## Whole numbers -/

/-- **Whole numbers of 64 bits**, with or without a sign. -/
def FitsWord (n : Int) : Prop := -(Nat.pow 2 63 : Nat) ≤ n ∧ n < (Nat.pow 2 64 : Nat)

/-- What is absorbed of the digits of a numeral fits 64 bits. -/
theorem absorbDigits_lt {n : Nat} (h : n < Nat.pow 2 64) (ds : List Char) :
    (absorbDigits n ds).1 < Nat.pow 2 64 := by
  induction ds generalizing n with
  | nil => exact h
  | cons d ds ih =>
    rw [absorbDigits]
    split
    · exact ih ‹_›
    · exact h

/-- **A numeral that denotes an integer** denotes one of 64 bits. -/
theorem fitsWord_of_numberOf {negative : Bool} {whole : List Char} {places : Option (List Char)}
    {exponent : Option (Bool × List Char)} {n : Int}
    (h : numberOf negative whole places exponent = .int n) : FitsWord n := by
  have absorbed : (absorbDigits 0 whole).1 < Nat.pow 2 64 := absorbDigits_lt (by decide) whole
  have half : Nat.pow 2 63 < Nat.pow 2 64 := by decide
  rw [numberOf] at h
  dsimp only at h
  split at h
  · split at h
    · obtain rfl := Document.int.inj h
      exact ⟨by omega, by omega⟩
    · split at h
      · next bounds =>
        obtain rfl := Document.int.inj h
        exact ⟨by omega, by omega⟩
      · exact nomatch h
  · split at h <;> exact nomatch h

/-- So does one that is read. -/
theorem fitsWord_of_readNumber {cs r : List Char} {n : Int}
    (h : readNumber cs = some (.int n, r)) : FitsWord n := by
  have magnitude : ∀ {negative : Bool} {ds : List Char},
      readMagnitude negative ds = some (.int n, r) → FitsWord n := by
    intro negative ds h
    rw [readMagnitude] at h
    dsimp only at h
    split at h
    · exact nomatch h
    · obtain ⟨⟨places, after⟩, -, h⟩ := Option.bind_eq_some_iff.1 h
      obtain ⟨⟨exponent, last⟩, -, h⟩ := Option.bind_eq_some_iff.1 h
      exact fitsWord_of_numberOf (Prod.mk.inj (Option.some.inj h)).1
  unfold readNumber at h
  split at h
  · exact magnitude h
  · exact magnitude h

/-- All digits of a number that fits 64 bits are absorbed. -/
theorem absorbDigits_eq {n : Nat} {ds : List Char} (h : Nat.ofDigitChars 10 ds n < Nat.pow 2 64) :
    absorbDigits n ds = (Nat.ofDigitChars 10 ds n, []) := by
  induction ds generalizing n with
  | nil => rfl
  | cons d ds ih =>
    have appended : Nat.ofDigitChars 10 (d :: ds) n =
        Nat.ofDigitChars 10 ds (n * 10 + digitValue d) := by
      rw [Nat.ofDigitChars_cons, Nat.mul_comm]
      rfl
    rw [appended] at h ⊢
    -- digits that follow only make a number larger
    have grows : n * 10 + digitValue d ≤ Nat.ofDigitChars 10 ds (n * 10 + digitValue d) := by
      rw [Nat.ofDigitChars_eq_ofDigitChars_zero]
      exact Nat.le_trans (Nat.le_mul_of_pos_left _ (Nat.pow_pos (by decide))) (Nat.le_add_right _ _)
    rw [absorbDigits, if_pos (Nat.lt_of_le_of_lt grows h), ih h]

/-- Only zero begins with a zero. -/
theorem head?_digitsOf {n : Nat} (pos : 0 < n) : (digitsOf n).head? ≠ some '0' := by
  induction n using Nat.strongRecOn with
  | ind n ih =>
    by_cases small : n < 10
    · have nonzero : ∀ m < 10, 0 < m → [m.digitChar].head? ≠ some '0' := by decide
      rw [digitsOf, Nat.toDigits_of_lt_base small]
      exact nonzero n small pos
    · have large : 10 ≤ n := Nat.le_of_not_lt small
      have leading : (digitsOf n).head? = (digitsOf (n / 10)).head? := by
        rw [digitsOf, Nat.toDigits_of_base_le (by decide) large, List.head?_append,
          List.head?_eq_some_head (List.ne_nil_of_length_pos Nat.length_toDigits_pos),
          Option.some_or]
        exact (List.head?_eq_some_head _).symm
      rw [leading]
      exact ih _ (Nat.div_lt_self pos (by decide)) (Nat.div_pos large (by decide))

/-- **The digits of a number of 64 bits are read** as a whole. -/
theorem readMagnitude_digitsOf {n : Nat} (fits : n < Nat.pow 2 64) (negative : Bool) :
    readMagnitude negative (digitsOf n) =
      some (if !negative then .int n
        else if 0 < n ∧ n ≤ Nat.pow 2 63 then .int (-(n : Int))
        else .float (Binary64.ofRatio true n 1), []) := by
  have digits : ∀ c ∈ digitsOf n, isDigit c = true := fun c => isDigit_of_mem_digitsOf
  have whole : (digitsOf n).takeWhile isDigit = digitsOf n := by
    rw [List.takeWhile_eq_self_iff]
    exact digits
  have left : (digitsOf n).dropWhile isDigit = [] := List.dropWhile_eq_nil_iff.2 digits
  have wellFormed : ((digitsOf n).isEmpty ||
      (digitsOf n).length != 1 && (digitsOf n).head? == some '0') = false := by
    have some : (digitsOf n).isEmpty = false :=
      List.isEmpty_eq_false_iff.2 (List.ne_nil_of_length_pos Nat.length_toDigits_pos)
    rw [some, Bool.false_or]
    rcases Nat.eq_zero_or_pos n with rfl | pos
    · rfl
    · rw [beq_false_of_ne (head?_digitsOf pos), Bool.and_false]
  have value : Nat.ofDigitChars 10 (digitsOf n) 0 = n := Nat.ofDigitChars_ten_toDigits
  have absorbed : absorbDigits 0 (digitsOf n) = (n, []) := by
    rw [absorbDigits_eq (by rw [value]; exact fits), value]
  rw [readMagnitude, whole, left]
  dsimp only
  rw [wellFormed]
  change some (numberOf negative (digitsOf n) none none, []) = _
  rw [numberOf, absorbed]

/-- Digits are read without a sign. -/
theorem readNumber_digitsOf (n : Nat) :
    readNumber (digitsOf n) = readMagnitude false (digitsOf n) := by
  rw [readNumber]
  intro r signed
  have minus : isDigit '-' = true := isDigit_of_mem_digitsOf (signed ▸ List.mem_cons_self)
  exact absurd minus (by decide)

/-- A value that is read as a numeral, to its end, is read back. -/
theorem readsBack_of_readNumber {v : Json} (numeral : IsNumeral v.compactChars)
    (h : readNumber v.compactChars = some (Document.ofJson v, [])) : ReadsBack v := by
  rw [ReadsBack, read, compact, String.toList_ofList]
  generalize v.compactChars = cs at numeral h
  cases cs with
  | nil => exact nomatch h
  | cons c cs =>
    rw [readValue_of_isNumeralChar _ _ cs (numeral c List.mem_cons_self), h]
    rfl

/-- **Exactly the whole numbers of 64 bits are read back** as they were written. -/
theorem readsBack_int_iff (n : Int) : ReadsBack (int n) ↔ FitsWord n := by
  have numeral : IsNumeral (int n).compactChars := isNumeral_int n
  refine ⟨fun h => ?_, fun ⟨low, high⟩ => ?_⟩
  · exact fitsWord_of_readNumber (readNumber_of_readsBack numeral Document.noConfusion h)
  · have half : Nat.pow 2 63 < Nat.pow 2 64 := by decide
    have fits : n.natAbs < Nat.pow 2 64 := by omega
    refine readsBack_of_readNumber numeral ?_
    change readNumber (intChars n) = some (.int n, [])
    rw [intChars]
    split
    · have signed : readNumber ('-' :: digitsOf n.natAbs) =
          readMagnitude true (digitsOf n.natAbs) := rfl
      have bounds : 0 < n.natAbs ∧ n.natAbs ≤ Nat.pow 2 63 := ⟨by omega, by omega⟩
      have value : -(n.natAbs : Int) = n := by omega
      rw [signed, readMagnitude_digitsOf fits, Bool.not_true, if_neg Bool.false_ne_true,
        if_pos bounds, value]
    · have value : (n.natAbs : Int) = n := by omega
      rw [readNumber_digitsOf, readMagnitude_digitsOf fits, value]
      rfl

end Json

end Playback
