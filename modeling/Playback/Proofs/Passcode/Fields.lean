import Playback.Proofs.Json.Numeral
import Playback.Proofs.Text.Strip
import Playback.Run.Handler.Passcode

/-!
# The fields of a code

A passcode is typed into fields that are named for the locator of its control: the number signs in
front of the locator and the digits at its end are left out, and a position takes their place.

* `HasFieldBase`, `hasFieldBase_iff` — **the base of a locator**, told without saying how it is found;
  there is exactly one;
* `hasFieldBase_digitField` — the name of a field has the base that it was made of;
* `digitField_distinct` — **names of fields are distinct**, and the base is recovered from each.
-/

namespace Playback

open Text

/-! ## Bases -/

/-- **The base of a locator**: the locator consists of number signs, the base and digits, and the base
neither begins with a number sign nor ends with a digit. -/
structure HasFieldBase (locator base : String) : Prop where
  between : ∃ signs digits, locator.toList = List.replicate signs '#' ++ base.toList ++ digits ∧
    ∀ c ∈ digits, isDigit c = true
  head : base.toList.head? ≠ some '#'
  last : ∀ c, base.toList.getLast? = some c → isDigit c = false

/-- A base is what is left between number signs and digits. -/
theorem hasFieldBase_iff_strips {locator base : String} :
    HasFieldBase locator base ↔ Strips (· == '#') isDigit locator.toList base.toList := by
  constructor
  · rintro ⟨⟨signs, digits, whole, trailing⟩, head, last⟩
    refine ⟨⟨List.replicate signs '#', digits, whole, fun c mem => ?_, trailing⟩,
      fun c first => ?_, last⟩
    · exact beq_iff_eq.2 (List.eq_of_mem_replicate mem)
    · exact beq_false_of_ne fun sign => head (sign ▸ first)
  · rintro ⟨⟨before, digits, whole, leading, trailing⟩, head, last⟩
    have signs : before = List.replicate before.length '#' :=
      List.eq_replicate_of_mem fun c mem => beq_iff_eq.1 (leading c mem)
    refine ⟨⟨before.length, digits, signs ▸ whole, trailing⟩, fun first => ?_, last⟩
    exact absurd (head '#' first) (by decide)

/-- **Each locator has one base.** -/
theorem hasFieldBase_iff {locator base : String} :
    HasFieldBase locator base ↔ digitFieldBase locator = base := by
  rw [hasFieldBase_iff_strips, strips_iff, digitFieldBase, ← String.toList_inj, String.toList_ofList]
  exact Iff.rfl

/-! ## Names of fields -/

/-- The characters of the name of a field. -/
theorem toList_digitField (base : String) (n : Nat) :
    (digitField base n).toList = '#' :: (base.toList ++ digitsOf n) := by
  simp [digitField, digitsOf]

/-- **The name of a field has the base that it was made of.** -/
theorem hasFieldBase_digitField {locator base : String} (h : HasFieldBase locator base) (n : Nat) :
    HasFieldBase (digitField base n) base where
  between := ⟨1, digitsOf n, toList_digitField base n, fun _ => Json.isDigit_of_mem_digitsOf⟩
  head := h.head
  last := h.last

/-- **Names of fields are distinct**, and the base is recovered from each. -/
theorem digitField_distinct :
    (∀ locator, HasFieldBase locator (digitFieldBase locator)) ∧
    (∀ locator n, digitFieldBase (digitField (digitFieldBase locator) n) = digitFieldBase locator) ∧
    ∀ locator locator' m n,
      digitField (digitFieldBase locator) m = digitField (digitFieldBase locator') n ↔
        digitFieldBase locator = digitFieldBase locator' ∧ m = n := by
  have based : ∀ locator, HasFieldBase locator (digitFieldBase locator) :=
    fun _ => hasFieldBase_iff.2 rfl
  have recovered : ∀ locator n,
      digitFieldBase (digitField (digitFieldBase locator) n) = digitFieldBase locator :=
    fun locator n => hasFieldBase_iff.1 (hasFieldBase_digitField (based locator) n)
  refine ⟨based, recovered, fun locator locator' m n => ⟨fun same => ?_, ?_⟩⟩
  · -- the base is recovered from either side, and then the same digits are left
    have bases : digitFieldBase locator = digitFieldBase locator' := by
      rw [← recovered locator m, same, recovered]
    have chars := congrArg String.toList same
    rw [toList_digitField, toList_digitField, bases, List.cons.injEq, List.append_cancel_left_eq]
      at chars
    exact ⟨bases, Json.digitsOf_inj.1 chars.2⟩
  · rintro ⟨bases, rfl⟩
    rw [bases]

end Playback
