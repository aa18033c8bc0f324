import Playback.Passcode.Basic

/-!
# Which codes answer a request

* `IssuedCode.Answers` — **a code answers a request**: it is a code, and was issued within the
  window before or after the request;
* `Instant.leapsBetween_cases` — **which leap second lies between** two times of day;
* `Instant.apart_le_of_isRepresentable` — how far two representable instants can lie apart;
* `IssuedCode.isFresh_iff_answers` — **the codes that count as fresh** are those that answer, of all
  codes with a representable time of issue.
-/

namespace Playback

namespace Instant

variable {a b : Instant}

/-- The first and the last representable second, as numbers. -/
theorem firstSecond_eq : firstSecond = -8334601228800 := by decide +kernel

theorem endSecond_eq : endSecond = 8210266876800 := by decide +kernel

theorem isLeapSecond_iff : a.isLeapSecond = true ↔ perSecond ≤ a.nanos := decide_eq_true_iff

/-- **The leap second between two times of day** is that of the smaller one, if it is read in one. -/
theorem leapsBetween_cases (a b : Instant) :
    (b.secondOfDay < a.secondOfDay ∧ perSecond ≤ b.nanos ∧ a.leapsBetween b = 1) ∨
    (a.secondOfDay < b.secondOfDay ∧ perSecond ≤ a.nanos ∧ a.leapsBetween b = -1) ∨
    ((b.secondOfDay < a.secondOfDay → b.nanos < perSecond) ∧
      (a.secondOfDay < b.secondOfDay → a.nanos < perSecond) ∧ a.leapsBetween b = 0) := by
  rw [leapsBetween]
  split
  · next back => exact .inl ⟨back.1, isLeapSecond_iff.1 back.2, rfl⟩
  · next noBack =>
    split
    · next forth => exact .inr (.inl ⟨forth.1, isLeapSecond_iff.1 forth.2, rfl⟩)
    · next noForth =>
      refine .inr (.inr ⟨fun before => ?_, fun before => ?_, rfl⟩)
      · exact Nat.lt_of_not_le fun leap => noBack ⟨before, isLeapSecond_iff.2 leap⟩
      · exact Nat.lt_of_not_le fun leap => noForth ⟨before, isLeapSecond_iff.2 leap⟩

/-- **The difference of representable instants** is less than half a million years. -/
theorem natAbs_minus_le (ha : a.isRepresentable = true) (hb : b.isRepresentable = true) :
    (a.minus b).natAbs ≤ IssuedCode.widestWindow * 1000000 := by
  have wide : IssuedCode.widestWindow = 9223372036854775807 := by decide
  have leaps : (a.leapsBetween b).natAbs ≤ 1 := by
    rcases leapsBetween_cases a b with ⟨-, -, one⟩ | ⟨-, -, one⟩ | ⟨-, -, none⟩ <;> omega
  simp only [isRepresentable, Bool.and_eq_true, decide_eq_true_eq] at ha hb
  rw [firstSecond_eq, endSecond_eq] at ha hb
  rw [minus, wide]
  simp only [total, perSecond] at ha hb ⊢
  omega

/-- **Representable instants** lie less than half a million years apart. -/
theorem apart_le_of_isRepresentable (ha : a.isRepresentable = true)
    (hb : b.isRepresentable = true) :
    a.apart b ≤ (IssuedCode.widestWindow * 1000000 : Nat) := by
  have forth := natAbs_minus_le ha hb
  have back := natAbs_minus_le hb ha
  rw [apart]
  split <;> omega

end Instant

namespace IssuedCode

variable {c : IssuedCode} {reference : Instant} {window : Nat}

/-- **A code answers a request** made at an instant: it is not empty, it does not stand for no code,
and it was issued at most `window` milliseconds before or after. -/
def Answers (c : IssuedCode) (reference : Instant) (window : Nat) : Prop :=
  c.code ≠ "" ∧ c.code ≠ noCode ∧ c.createdAt.apart reference ≤ window * 1000000

/-- **Fresh codes answer the request**, and no others. -/
theorem isFresh_iff_answers (issued : c.createdAt.isRepresentable = true)
    (asked : reference.isRepresentable = true) :
    c.isFresh reference window = true ↔ c.Answers reference window := by
  have near := Instant.apart_le_of_isRepresentable issued asked
  have reached : widestWindow < window → c.createdAt.apart reference ≤ window * 1000000 := by
    intro wide
    omega
  simp only [isFresh, isCode, Answers, Bool.and_eq_true, Bool.or_eq_true, decide_eq_true_eq,
    and_assoc]
  exact and_congr_right fun _ => and_congr_right fun _ => or_iff_right_of_imp reached

end IssuedCode

end Playback
