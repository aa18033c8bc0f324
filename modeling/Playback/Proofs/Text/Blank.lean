import Playback.Proofs.Text.Strip

/-!
# Trimmed texts and parts of texts

* `Trims` — **a text without the blanks at its ends**, told without saying how it is found;
* `trims_iff` — there is exactly one such, and `trimChars` finds it;
* `isPart_iff`, `occursIn_iff` — **the test for contiguous parts** is exact.
-/

namespace Playback.Text

/-! ## Trimming -/

/-- **A text without the blanks at its ends**: it is the rest of the whole between blanks, and
neither begins nor ends with a blank. -/
structure Trims (whole core : List Char) : Prop where
  between : ∃ before after, whole = before ++ core ++ after ∧
    (∀ c ∈ before, isBlank c = true) ∧ ∀ c ∈ after, isBlank c = true
  head : ∀ c, core.head? = some c → isBlank c = false
  last : ∀ c, core.getLast? = some c → isBlank c = false

/-- To trim is to strip blanks at both ends. -/
theorem trims_iff_strips {whole core : List Char} :
    Trims whole core ↔ Strips isBlank isBlank whole core :=
  ⟨fun h => ⟨h.between, h.head, h.last⟩, fun h => ⟨h.between, h.head, h.last⟩⟩

/-- **Trimming is exact.** -/
theorem trims_iff {whole core : List Char} : Trims whole core ↔ trimChars whole = core :=
  trims_iff_strips.trans strips_iff

/-- There is a trimmed text. -/
theorem trims_trimChars (whole : List Char) : Trims whole (trimChars whole) := trims_iff.2 rfl

/-- **Texts are equal without the blanks at their ends** exactly if they are trimmed alike. -/
theorem trim_eq_trim_iff (s t : String) :
    trim s = trim t ↔ ∃ core, Trims s.toList core ∧ Trims t.toList core := by
  rw [trim, trim, String.ofList_inj]
  constructor
  · intro same
    exact ⟨trimChars s.toList, trims_trimChars _, trims_iff.2 same.symm⟩
  · rintro ⟨core, first, second⟩
    rw [trims_iff.1 first, trims_iff.1 second]

/-! ## Parts -/

/-- **The test for contiguous parts is exact.** -/
theorem isPart_iff {part whole : List Char} : isPart part whole = true ↔ part <:+: whole := by
  induction whole with
  | nil => rw [isPart, List.isEmpty_iff, List.infix_nil]
  | cons c cs ih =>
    rw [isPart, Bool.or_eq_true, List.isPrefixOf_iff_prefix, ih, List.infix_cons_iff]

/-- So is the test for occurrences. -/
theorem occursIn_iff {part whole : String} :
    occursIn part whole = true ↔ part.toList <:+: whole.toList :=
  isPart_iff

end Playback.Text
