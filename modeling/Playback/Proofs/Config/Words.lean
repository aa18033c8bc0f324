import Mathlib.Data.List.Forall2
import Playback.Config.Basic

/-!
# Words of the environment

What the texts of variables mean, told without the way they are read. A text that means nothing is
not read at all.

* `IsCaseOf`, `MeansBool`, `boolOfText?_eq_some_iff` — **truth values**, in any letter case;
* `MeansMillis`, `millisOfText?_eq_some_iff` — **times**, in decimal digits;
* `NamesPolicy`, `ofName?_eq_some_iff` — **policies**, by their exact names.
-/

namespace Playback

variable {text word : String} {c w : Char}

/-! ## Truth values -/

/-- **A word in some case of its letters**: each character is that of the word, or its capital. -/
def IsCaseOf (text word : String) : Prop :=
  List.Forall₂ (fun c w => c = w ∨ c = w.toUpper) text.toList word.toList

/-- **What a text means as a truth value.** -/
inductive MeansBool (text : String) : Bool → Prop where
  | yes {word : String} (mem : word ∈ ["1", "true", "yes", "on"]) (cased : IsCaseOf text word) :
      MeansBool text true
  | no {word : String} (mem : word ∈ ["0", "false", "no", "off"]) (cased : IsCaseOf text word) :
      MeansBool text false

/-- The code of a letter in lower case, -/
theorem toNat_lowerAscii (c : Char) :
    (lowerAscii c).toNat = if 65 ≤ c.toNat ∧ c.toNat ≤ 90 then c.toNat + 32 else c.toNat := by
  have capital : ('A' ≤ c ∧ c ≤ 'Z') ↔ 65 ≤ c.toNat ∧ c.toNat ≤ 90 := Iff.rfl
  simp only [lowerAscii, capital]
  split
  · next inside =>
    have valid : (c.toNat + 32).isValidChar := .inl (by omega)
    rw [Char.ofNat, dif_pos valid]
    rfl
  · rfl

/-- and of a letter as a capital. -/
theorem toNat_toUpper (c : Char) :
    c.toUpper.toNat = if 97 ≤ c.toNat ∧ c.toNat ≤ 122 then c.toNat - 32 else c.toNat := by
  by_cases small : 97 ≤ c.toNat ∧ c.toNat ≤ 122
  · have inside : 'a'.val ≤ c.val ∧ c.val ≤ 'z'.val := small
    have upper : c.toUpper.val = c.val + ('A'.val - 'a'.val) := by
      delta Char.toUpper
      rw [dif_pos inside]
    have back : ('A'.val - 'a'.val : UInt32).toNat = 4294967264 := by decide
    -- thirty-two is taken away by going around
    rw [if_pos small, Char.toNat, upper, UInt32.toNat_add, back]
    change (c.toNat + _) % _ = _
    omega
  · have same : c.toUpper = c := by
      delta Char.toUpper
      exact dif_neg small
    rw [if_neg small, same]

/-- A character becomes one that is no capital if it is that one, or its capital. -/
theorem lowerAscii_eq_iff (small : ¬ (65 ≤ w.toNat ∧ w.toNat ≤ 90)) :
    lowerAscii c = w ↔ c = w ∨ c = w.toUpper := by
  simp only [← Char.toNat_inj, toNat_lowerAscii, toNat_toUpper]
  split <;> split <;> omega

/-- A text in lower case is a word without capitals if it is the word in some case. -/
theorem map_lowerAscii_eq_iff (small : ∀ w ∈ word.toList, ¬ (65 ≤ w.toNat ∧ w.toNat ≤ 90)) :
    String.ofList (text.toList.map lowerAscii) = word ↔ IsCaseOf text word := by
  rw [IsCaseOf, ← String.toList_inj, String.toList_ofList]
  generalize text.toList = cs
  generalize word.toList = ws at small
  induction ws generalizing cs with
  | nil => rw [List.map_eq_nil_iff, List.forall₂_nil_right_iff]
  | cons w ws ih =>
    obtain ⟨first, others⟩ := List.forall_mem_cons.1 small
    rw [List.map_eq_cons_iff, List.forall₂_cons_right_iff]
    constructor
    · rintro ⟨c, cs, rfl, same, rest⟩
      exact ⟨c, cs, (lowerAscii_eq_iff first).1 same, (ih cs others).1 rest, rfl⟩
    · rintro ⟨c, cs, same, rest, rfl⟩
      exact ⟨c, cs, rfl, (lowerAscii_eq_iff first).2 same, (ih cs others).2 rest⟩

/-- A text in lower case is one of some words without capitals if it is one of them in some case. -/
theorem map_lowerAscii_mem_iff {words : List String}
    (small : ∀ word ∈ words, ∀ w ∈ word.toList, ¬ (65 ≤ w.toNat ∧ w.toNat ≤ 90)) :
    String.ofList (text.toList.map lowerAscii) ∈ words ↔ ∃ word ∈ words, IsCaseOf text word := by
  constructor
  · exact fun mem => ⟨_, mem, (map_lowerAscii_eq_iff (small _ mem)).1 rfl⟩
  · rintro ⟨word, mem, cased⟩
    exact (map_lowerAscii_eq_iff (small word mem)).2 cased ▸ mem

/-- **A text is read as the truth value that it means.** -/
theorem boolOfText?_eq_some_iff (text : String) (b : Bool) :
    boolOfText? text = some b ↔ MeansBool text b := by
  have yes : String.ofList (text.toList.map lowerAscii) ∈ ["1", "true", "yes", "on"] ↔
      ∃ word ∈ ["1", "true", "yes", "on"], IsCaseOf text word :=
    map_lowerAscii_mem_iff (by simp)
  have no : String.ofList (text.toList.map lowerAscii) ∈ ["0", "false", "no", "off"] ↔
      ∃ word ∈ ["0", "false", "no", "off"], IsCaseOf text word :=
    map_lowerAscii_mem_iff (by simp)
  have apart : ∀ word ∈ ["0", "false", "no", "off"], word ∉ ["1", "true", "yes", "on"] := by decide
  rw [boolOfText?]
  constructor
  · -- the words are tried in their order, and those that deny are not among those that affirm
    intro h
    split at h
    · next mem =>
      obtain ⟨word, mem, cased⟩ := yes.1 mem
      exact Option.some.inj h ▸ .yes mem cased
    · split at h
      · next mem =>
        obtain ⟨word, mem, cased⟩ := no.1 mem
        exact Option.some.inj h ▸ .no mem cased
      · cases h
  · rintro (⟨mem, cased⟩ | ⟨mem, cased⟩)
    · exact if_pos (yes.2 ⟨_, mem, cased⟩)
    · have denies := no.2 ⟨_, mem, cased⟩
      rw [if_neg (apart _ denies), if_pos denies]

/-! ## Times -/

/-- **What a text means as a time**: decimal digits, with or without a plus sign, of a number of 64
bits. -/
def MeansMillis (text : String) (n : Nat) : Prop :=
  ∃ digits : List Char, digits ≠ [] ∧ (∀ c ∈ digits, c.isDigit = true) ∧
    (text.toList = digits ∨ text.toList = '+' :: digits) ∧
    n = Nat.ofDigitChars 10 digits 0 ∧ n < Nat.pow 2 64

/-- The digits of base ten are the decimal ones. -/
theorem digitIn?_ten (c : Char) :
    digitIn? 10 c = if c.isDigit then some (c.toNat - 48) else none := by
  have digit : isDigit c = true ↔ 48 ≤ c.toNat ∧ c.toNat ≤ 57 := by
    rw [isDigit, Bool.and_eq_true, decide_eq_true_eq, decide_eq_true_eq]
    exact Iff.rfl
  have lower : ('a' ≤ c ∧ c ≤ 'f') ↔ 97 ≤ c.toNat ∧ c.toNat ≤ 102 := Iff.rfl
  have upper : ('A' ≤ c ∧ c ≤ 'F') ↔ 65 ≤ c.toNat ∧ c.toNat ≤ 70 := Iff.rfl
  have same : c.isDigit = true ↔ 48 ≤ c.toNat ∧ c.toNat ≤ 57 := by
    rw [Char.isDigit, Bool.and_eq_true, decide_eq_true_eq, decide_eq_true_eq]
    exact Iff.rfl
  simp only [digitIn?, digit, lower, upper, same]
  split_ifs <;> first | rfl | omega

/-- Reading digits from left to right. -/
theorem foldl_digitIn?_eq_some_iff {ds : List Char} {start : Option Nat} {n : Nat} :
    ds.foldl (fun n c => do return (← n) * 10 + (← digitIn? 10 c)) start = some n ↔
      ∃ m, start = some m ∧ (∀ c ∈ ds, c.isDigit = true) ∧ n = Nat.ofDigitChars 10 ds m := by
  -- once a character is no digit the fold has nothing to go on with, whatever follows
  induction ds generalizing start with
  | nil =>
    constructor
    · exact fun same => ⟨n, same, fun _ mem => absurd mem List.not_mem_nil, rfl⟩
    · rintro ⟨m, same, -, rfl⟩
      exact same
  | cons c ds ih =>
    rw [List.foldl_cons, ih]
    cases start with
    | none => simp
    | some m =>
      by_cases digit : c.isDigit = true
      · simp [digitIn?_ten, digit, Nat.ofDigitChars_cons, Nat.mul_comm]
      · simp [digitIn?_ten, digit]

/-- A number in base ten stands in one digit or more. -/
theorem natInBase?_ten_eq_some_iff {ds : List Char} {n : Nat} : natInBase? 10 ds = some n ↔
    ds ≠ [] ∧ (∀ c ∈ ds, c.isDigit = true) ∧ n = Nat.ofDigitChars 10 ds 0 := by
  rw [natInBase?]
  cases ds with
  | nil => simp
  | cons c ds =>
    rw [if_neg (by simp), foldl_digitIn?_eq_some_iff]
    constructor
    · rintro ⟨m, start, digits, value⟩
      obtain rfl := Option.some.inj start
      exact ⟨List.cons_ne_nil c ds, digits, value⟩
    · rintro ⟨-, digits, value⟩
      exact ⟨0, rfl, digits, value⟩

/-- A number without a sign, or with a plus sign. -/
theorem natOfText?_eq_some_iff {cs : List Char} {n : Nat} : natOfText? cs = some n ↔
    ∃ digits : List Char, digits ≠ [] ∧ (∀ c ∈ digits, c.isDigit = true) ∧
      (cs = digits ∨ cs = '+' :: digits) ∧ n = Nat.ofDigitChars 10 digits 0 := by
  unfold natOfText?
  split
  · next ds =>
    rw [natInBase?_ten_eq_some_iff]
    constructor
    · rintro ⟨some, digits, value⟩
      exact ⟨ds, some, digits, .inr rfl, value⟩
    · rintro ⟨digits, some, each, rfl | same, value⟩
      · -- a plus sign is no digit
        exact absurd (each '+' List.mem_cons_self) (by decide)
      · obtain rfl := (List.cons.inj same).2
        exact ⟨some, each, value⟩
  · next unsigned =>
    rw [natInBase?_ten_eq_some_iff]
    constructor
    · rintro ⟨some, digits, value⟩
      exact ⟨cs, some, digits, .inl rfl, value⟩
    · rintro ⟨digits, some, each, rfl | same, value⟩
      · exact ⟨some, each, value⟩
      · exact absurd same (unsigned digits)

/-- **A text is read as the time that it means.** -/
theorem millisOfText?_eq_some_iff (text : String) (n : Nat) :
    millisOfText? text = some n ↔ MeansMillis text n := by
  rw [millisOfText?, Option.filter_eq_some_iff, natOfText?_eq_some_iff, decide_eq_true_eq]
  constructor
  · rintro ⟨⟨digits, some, each, signed, value⟩, fits⟩
    exact ⟨digits, some, each, signed, value, fits⟩
  · rintro ⟨digits, some, each, signed, value, fits⟩
    exact ⟨⟨digits, some, each, signed, value⟩, fits⟩

/-! ## Policies -/

/-- **The names of policies**: one word to go on, and three to halt. -/
inductive NamesPolicy : String → AbortPolicy → Prop where
  | goOn : NamesPolicy "continue" .continue
  | underscored : NamesPolicy "halt_on_abort" .haltOnAbort
  | hyphenated : NamesPolicy "halt-on-abort" .haltOnAbort
  | short : NamesPolicy "halt" .haltOnAbort

/-- **A text is read as the policy that it names.** -/
theorem ofName?_eq_some_iff (text : String) (p : AbortPolicy) :
    AbortPolicy.ofName? text = some p ↔ NamesPolicy text p := by
  rw [AbortPolicy.ofName?]
  constructor
  · intro h
    split at h
    · next named =>
      obtain rfl := Option.some.inj h
      exact named ▸ .goOn
    · split at h
      · next named =>
        obtain rfl := Option.some.inj h
        rcases named with rfl | rfl | rfl
        exacts [.underscored, .hyphenated, .short]
      · cases h
  · rintro (_ | _ | _ | _)
    · exact if_pos rfl
    all_goals simp

end Playback
