import Mathlib.Data.List.DropRight
import Playback.Text.Blank

/-!
# Texts stripped at both ends

* `Strips` — **a text without certain characters at its ends**, told without saying how it is found;
* `strips_iff` — there is exactly one such, and it is found by dropping characters in front and then
  behind.
-/

namespace Playback.Text

/-- **A text stripped at both ends**: it is the rest of the whole between characters of one kind in
front and of another behind, and neither begins with the one nor ends with the other. -/
structure Strips (p q : Char → Bool) (whole core : List Char) : Prop where
  between : ∃ before after, whole = before ++ core ++ after ∧
    (∀ c ∈ before, p c = true) ∧ ∀ c ∈ after, q c = true
  head : ∀ c, core.head? = some c → p c = false
  last : ∀ c, core.getLast? = some c → q c = false

variable {p q : Char → Bool}

/-- Leading characters are dropped, up to one of another kind. -/
theorem dropWhile_append_of_head {before rest : List Char} (leading : ∀ c ∈ before, p c = true)
    (boundary : ∀ c, rest.head? = some c → p c = false) :
    (before ++ rest).dropWhile p = rest := by
  rw [List.dropWhile_append_of_pos leading]
  cases rest with
  | nil => rfl
  | cons c cs => exact List.dropWhile_cons_of_neg (by simp [boundary c rfl])

/-- So are trailing ones. -/
theorem dropTrailing_append {core after : List Char} (trailing : ∀ c ∈ after, q c = true)
    (boundary : ∀ c, core.getLast? = some c → q c = false) :
    dropTrailing q (core ++ after) = core := by
  have flipped : (after.reverse ++ core.reverse).dropWhile q = core.reverse := by
    refine dropWhile_append_of_head (fun c mem => trailing c (List.mem_reverse.1 mem)) ?_
    intro c first
    exact boundary c (by rwa [List.head?_reverse] at first)
  rw [dropTrailing, List.reverse_append, flipped, List.reverse_reverse]

/-- **What is stripped is found** by dropping characters in front and then behind. -/
theorem dropTrailing_of_strips {whole core : List Char} (h : Strips p q whole core) :
    dropTrailing q (whole.dropWhile p) = core := by
  obtain ⟨⟨before, after, rfl, leading, trailing⟩, head, last⟩ := h
  rw [List.append_assoc]
  cases core with
  | nil =>
    -- what stands behind may be dropped in front already
    have left : ∀ c ∈ after.dropWhile p, q c = true := fun c mem =>
      trailing c ((List.dropWhile_suffix p).subset mem)
    rw [List.nil_append, List.dropWhile_append_of_pos leading]
    exact @dropTrailing_append q [] _ left fun c ends => nomatch ends
  | cons c cs =>
    have begins : (before ++ (c :: cs ++ after)).dropWhile p = c :: cs ++ after :=
      dropWhile_append_of_head leading fun c' first => head c' first
    rw [begins, dropTrailing_append trailing last]

/-- **There is such a text.** -/
theorem strips_dropTrailing (p q : Char → Bool) (whole : List Char) :
    Strips p q whole (dropTrailing q (whole.dropWhile p)) := by
  let rest := whole.dropWhile p
  have found : dropTrailing q rest = rest.rdropWhile q := rfl
  have split : rest = rest.rdropWhile q ++ rest.rtakeWhile q :=
    List.rdropWhile_append_rtakeWhile.symm
  rw [found]
  refine ⟨⟨whole.takeWhile p, rest.rtakeWhile q, ?_, fun c => List.mem_takeWhile_imp,
    fun c => List.mem_rtakeWhile_imp⟩, fun c first => ?_, fun c ends => ?_⟩
  · rw [List.append_assoc, ← split, List.takeWhile_append_dropWhile]
  · have begins : rest.head? = some c := by
      rw [split, List.head?_append, first]
      rfl
    have stops := List.head?_dropWhile_not p whole
    rwa [begins] at stops
  · have some : rest.rdropWhile q ≠ [] := by
      intro none
      rw [none] at ends
      exact nomatch ends
    rw [List.getLast?_eq_some_getLast some] at ends
    simpa [Option.some.inj ends] using List.rdropWhile_last_not q rest some

/-- **Stripping is exact.** -/
theorem strips_iff {whole core : List Char} :
    Strips p q whole core ↔ dropTrailing q (whole.dropWhile p) = core :=
  ⟨dropTrailing_of_strips, fun same => same ▸ strips_dropTrailing p q whole⟩

end Playback.Text
