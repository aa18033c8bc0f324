import Playback.Proofs.Passcode.Freshness

/-!
# Freshness in bounded arithmetic

Lapses of time are kept in a signed number of bounded size, and a window may be too wide for one.
Nothing of that shows in which codes are fresh. A leap second does, if it ends a day: a time in it
may be further on than one in the second after it, and the difference of the two is then negative.

* `Lapse` — **a lapse of time** of bounded length; `Instant.since?` subtracts instants and fails
  where the difference is no lapse;
* `Instant.distance` — **how far two instants lie apart**; it is that of whole numbers for instants
  that are not read in a leap second;
* `Instant.Overruns`, `Instant.apart_lt_zero_iff` — **an instant overruns another** across midnight;
  there are no other two of which the later one is less than the earlier one;
* `IssuedCode.freshness?` — **freshness computed with lapses**: it fails if the subtraction does,
  and compares nothing if the window is no lapse;
* `freshness?_eq` — it never fails, and agrees with `IssuedCode.isFresh`;
* `FreshWithin`, `isFresh_within` — **which codes are fresh** for all representable instants and all
  windows: those in the window, and those of instants that overrun. The instants may be exchanged,
  and a wider window keeps what is fresh;
* `isFresh_of_overrun` — so a window does not bound the distance across midnight.
-/

namespace Playback

/-! ## Lapses -/

/-- The longest lapse of time, in nanoseconds. -/
def longestLapse : Nat := IssuedCode.widestWindow * 1000000

/-- **A lapse of time**, forth or back. -/
structure Lapse where
  /-- Its nanoseconds. -/
  nanos : Int
  /-- It is not longer than the longest. -/
  bounded : nanos.natAbs ≤ longestLapse

namespace Lapse

/-- The lapse of so many nanoseconds, if it is not too long. -/
def ofNanos? (ns : Int) : Option Lapse :=
  if h : ns.natAbs ≤ longestLapse then some ⟨ns, h⟩ else none

/-- The lapse of a window in milliseconds, if it is not too wide. -/
def ofMillis? (ms : Nat) : Option Lapse := ofNanos? (ms * 1000000 : Nat)

variable {ns : Int} {ms : Nat}

theorem ofNanos?_of_le (h : ns.natAbs ≤ longestLapse) : ofNanos? ns = some ⟨ns, h⟩ :=
  dif_pos h

/-- What is longer than the longest lapse is none. -/
theorem ofNanos?_eq_none_iff : ofNanos? ns = none ↔ longestLapse < ns.natAbs := by
  rw [ofNanos?]
  by_cases h : ns.natAbs ≤ longestLapse
  · simp [h]
  · simp [h, Nat.lt_of_not_le h]

/-- **Only the widest windows** are no lapses. -/
theorem ofMillis?_eq_none_iff : ofMillis? ms = none ↔ IssuedCode.widestWindow < ms :=
  calc ofMillis? ms = none
    _ ↔ longestLapse < ((ms * 1000000 : Nat) : Int).natAbs := ofNanos?_eq_none_iff
    _ ↔ IssuedCode.widestWindow * 1000000 < ms * 1000000 := Iff.rfl
    _ ↔ IssuedCode.widestWindow < ms := Nat.mul_lt_mul_right (by decide)

/-- A window that is a lapse is as long as it says. -/
theorem nanos_of_ofMillis? {lapse : Lapse} (h : ofMillis? ms = some lapse) :
    lapse.nanos = (ms * 1000000 : Nat) := by
  rw [ofMillis?, ofNanos?] at h
  split at h
  · rw [← Option.some.inj h]
  · cases h

end Lapse

namespace Instant

variable {a b : Instant}

/-- **The difference of two instants**, if it is a lapse. -/
def since? (a b : Instant) : Option Lapse := Lapse.ofNanos? (a.minus b)

/-- The lapse between two instants: the one that is read first is subtracted from the other. -/
def apart? (a b : Instant) : Option Lapse := if a.isNotBefore b then a.since? b else b.since? a

theorem isNotBefore_iff :
    a.isNotBefore b = true ↔ b.seconds < a.seconds ∨ a.seconds = b.seconds ∧ b.nanos ≤ a.nanos := by
  simp only [isNotBefore, Bool.or_eq_true, Bool.and_eq_true, decide_eq_true_eq]

/-- The order of the instants does not matter. -/
theorem apart_comm (a b : Instant) : a.apart b = b.apart a := by
  by_cases ab : a.isNotBefore b = true
  · by_cases ba : b.isNotBefore a = true
    · have same : a = b := by
        rw [isNotBefore_iff] at ab ba
        have seconds_eq : a.seconds = b.seconds := by omega
        have nanos_eq : a.nanos = b.nanos := by omega
        cases a
        cases b
        rw [Instant.mk.injEq]
        exact ⟨seconds_eq, nanos_eq⟩
      rw [same]
    · rw [apart, apart, if_pos ab, if_neg ba]
  · have ba : b.isNotBefore a = true := by
      rw [isNotBefore_iff] at ab ⊢
      omega
    rw [apart, apart, if_neg ab, if_pos ba]

/-! ### Distances -/

/-- **How far two instants lie apart**, in nanoseconds. -/
def distance (a b : Instant) : Nat := (a.minus b).natAbs

/-- Exchanged instants have the opposite difference, -/
theorem minus_swap (a b : Instant) : a.minus b = -b.minus a := by
  have leaps : a.leapsBetween b = -b.leapsBetween a := by
    rcases leapsBetween_cases a b with ab | ab | ab <;>
      rcases leapsBetween_cases b a with ba | ba | ba <;> omega
  rw [minus, minus, leaps, Int.neg_mul]
  omega

/-- and lie equally far apart. -/
theorem distance_comm (a b : Instant) : a.distance b = b.distance a := by
  rw [distance, distance, minus_swap, Int.natAbs_neg]

/-- The distance is the size of what the later one is more than the other. -/
theorem natAbs_apart (a b : Instant) : (a.apart b).natAbs = a.distance b := by
  rw [apart]
  split
  · rfl
  · exact distance_comm b a

/-- **How far instants lie apart** that are not read in a leap second is told by their numbers. -/
theorem distance_eq_natAbs (ha : a.isLeapSecond = false) (hb : b.isLeapSecond = false) :
    a.distance b = (a.total - b.total).natAbs := by
  have leaps : a.leapsBetween b = 0 := by
    rw [leapsBetween, ha, hb]
    simp
  rw [distance, minus, leaps, Int.zero_mul, Int.add_zero]

/-! ### Midnight -/

/-- **An instant overruns another**: it is read in the leap second at the end of a day, and is further
on in it than the other one is in the first second of the next day. -/
structure Overruns (a b : Instant) : Prop where
  leap : a.isLeapSecond = true
  next : b.seconds = a.seconds + 1
  midnight : b.secondOfDay = 0
  further : b.nanos % perSecond < a.nanos % perSecond

/-- What is overrun is read later. -/
theorem Overruns.not_isNotBefore (h : a.Overruns b) : ¬ a.isNotBefore b = true := by
  have next := h.next
  rw [isNotBefore_iff]
  omega

/-- **Across midnight** no leap second is counted. -/
theorem minus_of_midnight (next : b.seconds = a.seconds + 1) (midnight : b.secondOfDay = 0)
    (hb : b.nanos < 2 * perSecond) :
    b.minus a = (b.nanos % perSecond : Nat) + perSecond - a.nanos := by
  have last : b.secondOfDay < a.secondOfDay := by
    simp only [secondOfDay] at midnight ⊢
    omega
  rw [minus]
  simp only [total, perSecond] at *
  rcases leapsBetween_cases b a with leaps | leaps | leaps <;>
    simp only [perSecond] at leaps <;> omega

/-- Elsewhere a later instant is not less than an earlier one. -/
theorem minus_nonneg (later : b.isNotBefore a = true)
    (elsewhere : ¬ (b.seconds = a.seconds + 1 ∧ b.secondOfDay = 0)) (ha : a.nanos < 2 * perSecond) :
    0 ≤ b.minus a := by
  rw [isNotBefore_iff] at later
  rw [minus]
  simp only [total, secondOfDay, perSecond] at *
  rcases leapsBetween_cases b a with leaps | leaps | leaps <;>
    simp only [secondOfDay, perSecond] at leaps <;> omega

/-- **A later instant is less** than an earlier one exactly if it is overrun. -/
theorem minus_lt_zero_iff (later : b.isNotBefore a = true) (ha : a.nanos < 2 * perSecond)
    (hb : b.nanos < 2 * perSecond) : b.minus a < 0 ↔ a.Overruns b := by
  constructor
  · intro negative
    obtain ⟨next, midnight⟩ : b.seconds = a.seconds + 1 ∧ b.secondOfDay = 0 :=
      Decidable.of_not_not fun elsewhere => Int.not_lt.2 (minus_nonneg later elsewhere ha) negative
    rw [minus_of_midnight next midnight hb] at negative
    refine ⟨isLeapSecond_iff.2 ?_, next, midnight, ?_⟩
    all_goals
      rw [perSecond] at *
      omega
  · rintro ⟨leap, next, midnight, further⟩
    rw [minus_of_midnight next midnight hb]
    rw [isLeapSecond_iff] at leap
    rw [perSecond] at *
    omega

/-- **The later instant is less than the other** exactly if one of them overruns the other. -/
theorem apart_lt_zero_iff (ha : a.nanos < 2 * perSecond) (hb : b.nanos < 2 * perSecond) :
    a.apart b < 0 ↔ a.Overruns b ∨ b.Overruns a := by
  rw [apart]
  by_cases later : a.isNotBefore b = true
  · rw [if_pos later, minus_lt_zero_iff later hb ha]
    exact (or_iff_right fun late => late.not_isNotBefore later).symm
  · have later' : b.isNotBefore a = true := by
      rw [isNotBefore_iff] at later ⊢
      omega
    rw [if_neg later, minus_lt_zero_iff later' ha hb]
    exact (or_iff_left fun late => late.not_isNotBefore later').symm

/-- **Instants overrun each other by less than a second.** -/
theorem Overruns.distance_lt (h : a.Overruns b) (ha : a.nanos < 2 * perSecond)
    (hb : b.nanos < 2 * perSecond) : a.distance b < perSecond := by
  obtain ⟨leap, next, midnight, further⟩ := h
  rw [distance_comm, distance, minus_of_midnight next midnight hb]
  rw [isLeapSecond_iff] at leap
  rw [perSecond] at *
  omega

/-- What lies apart by no more than a bound is within it, or overruns. -/
theorem apart_le_iff (ha : a.nanos < 2 * perSecond) (hb : b.nanos < 2 * perSecond) {bound : Nat} :
    a.apart b ≤ bound ↔ a.distance b ≤ bound ∨ a.Overruns b ∨ b.Overruns a := by
  rw [← apart_lt_zero_iff ha hb, ← natAbs_apart]
  omega

/-- A representable instant is in its second, or in the leap second after it. -/
theorem nanos_lt_of_isRepresentable (ha : a.isRepresentable = true) : a.nanos < 2 * perSecond := by
  simp only [isRepresentable, Bool.and_eq_true, decide_eq_true_eq] at ha
  exact ha.2

/-- **The subtraction does not fail** for representable instants, and is exact. -/
theorem exists_apart? (ha : a.isRepresentable = true) (hb : b.isRepresentable = true) :
    ∃ lapse, a.apart? b = some lapse ∧ lapse.nanos = a.apart b := by
  by_cases later : a.isNotBefore b = true
  · refine ⟨⟨a.minus b, natAbs_minus_le ha hb⟩, ?_, ?_⟩
    · rw [apart?, if_pos later, since?, Lapse.ofNanos?_of_le (natAbs_minus_le ha hb)]
    · rw [apart, if_pos later]
  · refine ⟨⟨b.minus a, natAbs_minus_le hb ha⟩, ?_, ?_⟩
    · rw [apart?, if_neg later, since?, Lapse.ofNanos?_of_le (natAbs_minus_le hb ha)]
    · rw [apart, if_neg later]

end Instant

/-! ## Freshness -/

namespace IssuedCode

variable {c : IssuedCode} {reference : Instant} {window wider : Nat}

/-- **Freshness computed with lapses**, `none` if the subtraction fails. A window that is no lapse
is wider than all of them, and nothing is compared with it. -/
def freshness? (c : IssuedCode) (reference : Instant) (window : Nat) : Option Bool :=
  if c.isCode then
    (c.createdAt.apart? reference).map fun apart =>
      match Lapse.ofMillis? window with
      | some limit => decide (apart.nanos ≤ limit.nanos)
      | none => true
  else some false

/-- **The computation does not fail**, and it comes to what is fresh. -/
theorem freshness?_eq (issued : c.createdAt.isRepresentable = true)
    (asked : reference.isRepresentable = true) :
    c.freshness? reference window = some (c.isFresh reference window) := by
  obtain ⟨apart, apart_eq, nanos_eq⟩ := Instant.exists_apart? issued asked
  by_cases code : c.isCode = true
  · rw [freshness?, if_pos code, apart_eq, Option.map_some, isFresh, code, Bool.true_and]
    refine congrArg some ?_
    cases limit_eq : Lapse.ofMillis? window with
    | none =>
      -- a window that is no lapse takes the shortcut in both
      have wide : widestWindow < window := Lapse.ofMillis?_eq_none_iff.1 limit_eq
      rw [decide_eq_true wide, Bool.true_or]
    | some limit =>
      have narrow : ¬ widestWindow < window := fun wide => by
        rw [Lapse.ofMillis?_eq_none_iff.2 wide] at limit_eq
        cases limit_eq
      rw [decide_eq_false narrow, Bool.false_or]
      show decide (apart.nanos ≤ limit.nanos) = _
      rw [nanos_eq, Lapse.nanos_of_ofMillis? limit_eq, Int.natCast_mul]
      rfl
  · rw [freshness?, if_neg code, isFresh, Bool.eq_false_iff.2 code, Bool.false_and]

/-- The time of issue and the time of the request may be exchanged. -/
theorem isFresh_swap (code : String) (a b : Instant) (window : Nat) :
    (⟨code, a⟩ : IssuedCode).isFresh b window = (⟨code, b⟩ : IssuedCode).isFresh a window := by
  rw [isFresh, isFresh, Instant.apart_comm]
  rfl

/-- A wider window keeps a code that answers. -/
theorem Answers.mono (h : c.Answers reference window) (wide : window ≤ wider) :
    c.Answers reference wider := by
  obtain ⟨some, code, near⟩ := h
  exact ⟨some, code, by omega⟩

/-- **A code answers** if it was issued within the window, or if one instant overruns the other. -/
theorem answers_iff (issued : c.createdAt.isRepresentable = true)
    (asked : reference.isRepresentable = true) : c.Answers reference window ↔
      c.code ≠ "" ∧ c.code ≠ noCode ∧ (c.createdAt.distance reference ≤ window * 1000000 ∨
        c.createdAt.Overruns reference ∨ reference.Overruns c.createdAt) := by
  have bound : ((window * 1000000 : Nat) : Int) = window * 1000000 := by omega
  rw [Answers, ← bound, Instant.apart_le_iff (Instant.nanos_lt_of_isRepresentable issued)
    (Instant.nanos_lt_of_isRepresentable asked)]

/-- **Which windows a code is fresh within**, if it is issued at an instant and asked for at
another. -/
structure FreshWithin (code : String) (issued asked : Instant) : Prop where
  /-- In bounded arithmetic it comes to the same. -/
  computed : ∀ window, (⟨code, issued⟩ : IssuedCode).freshness? asked window =
    some ((⟨code, issued⟩ : IssuedCode).isFresh asked window)
  /-- The subtraction does not fail, whatever the code, and is exact. -/
  subtracted : ∃ lapse, issued.apart? asked = some lapse ∧ lapse.nanos = issued.apart asked ∧
    lapse.nanos.natAbs = issued.distance asked
  /-- Codes that are none are not fresh, and others exactly if they lie in the window, or if one of
  the instants overruns the other. -/
  fresh_iff : ∀ window, (⟨code, issued⟩ : IssuedCode).isFresh asked window = true ↔
    code ≠ "" ∧ code ≠ noCode ∧ (issued.distance asked ≤ window * 1000000 ∨
      issued.Overruns asked ∨ asked.Overruns issued)
  /-- Windows of a second and more hold the instants that overrun. -/
  wide_fresh_iff : ∀ window, 1000 ≤ window →
    ((⟨code, issued⟩ : IssuedCode).isFresh asked window = true ↔
      code ≠ "" ∧ code ≠ noCode ∧ issued.distance asked ≤ window * 1000000)
  /-- The distance is that of the numbers of nanoseconds. A leap second has no number of its own. -/
  distance_eq : issued.isLeapSecond = false → asked.isLeapSecond = false →
    issued.distance asked = (issued.total - asked.total).natAbs
  /-- A window that is no lapse holds the instants. -/
  beyond : ∀ {window}, Lapse.ofMillis? window = none → issued.distance asked ≤ window * 1000000
  /-- The instants may be exchanged. -/
  swapped : ∀ window, (⟨code, issued⟩ : IssuedCode).isFresh asked window =
    (⟨code, asked⟩ : IssuedCode).isFresh issued window
  /-- A wider window keeps what is fresh. -/
  widened : ∀ {window wider}, window ≤ wider →
    (⟨code, issued⟩ : IssuedCode).isFresh asked window = true →
    (⟨code, issued⟩ : IssuedCode).isFresh asked wider = true

/-- **Which codes are fresh** is told for all representable instants. -/
theorem isFresh_within (code : String) (issued asked : Instant)
    (issued_representable : issued.isRepresentable = true)
    (asked_representable : asked.isRepresentable = true) : FreshWithin code issued asked := by
  have in_issued := Instant.nanos_lt_of_isRepresentable issued_representable
  have in_asked := Instant.nanos_lt_of_isRepresentable asked_representable
  have answers_of_fresh : ∀ window, (⟨code, issued⟩ : IssuedCode).isFresh asked window = true ↔
      (⟨code, issued⟩ : IssuedCode).Answers asked window :=
    fun window => isFresh_iff_answers issued_representable asked_representable
  have fresh_iff : ∀ window, (⟨code, issued⟩ : IssuedCode).isFresh asked window = true ↔
      code ≠ "" ∧ code ≠ noCode ∧ (issued.distance asked ≤ window * 1000000 ∨
        issued.Overruns asked ∨ asked.Overruns issued) :=
    fun window => (answers_of_fresh window).trans
      (answers_iff issued_representable asked_representable)
  constructor
  case computed => exact fun window => freshness?_eq issued_representable asked_representable
  case subtracted =>
    obtain ⟨lapse, found, exactly⟩ :=
      Instant.exists_apart? issued_representable asked_representable
    exact ⟨lapse, found, exactly, exactly ▸ Instant.natAbs_apart issued asked⟩
  case fresh_iff => exact fresh_iff
  case wide_fresh_iff =>
    intro window wide
    rw [fresh_iff]
    refine and_congr_right fun _ => and_congr_right fun _ => or_iff_left_of_imp fun overrun => ?_
    have near : issued.distance asked < Instant.perSecond := by
      rcases overrun with late | late
      · exact late.distance_lt in_issued in_asked
      · rw [Instant.distance_comm]
        exact late.distance_lt in_asked in_issued
    rw [Instant.perSecond] at near
    omega
  case distance_eq => exact Instant.distance_eq_natAbs
  case beyond =>
    intro window wide
    have widest : widestWindow ≤ window := Nat.le_of_lt (Lapse.ofMillis?_eq_none_iff.1 wide)
    have near : issued.distance asked ≤ widestWindow * 1000000 :=
      Instant.natAbs_minus_le issued_representable asked_representable
    exact Nat.le_trans near (Nat.mul_le_mul_right _ widest)
  case swapped => exact isFresh_swap code issued asked
  case widened =>
    intro window wider wide fresh
    exact (answers_of_fresh wider).2 (((answers_of_fresh window).1 fresh).mono wide)

/-- The first and the last representable instant are as far apart as can be. -/
theorem freshWithin_of_ends :
    (⟨Instant.firstSecond, 0⟩ : Instant).isRepresentable = true ∧
      (⟨Instant.endSecond - 1, 999999999⟩ : Instant).isRepresentable = true ∧
      FreshWithin "42" ⟨Instant.firstSecond, 0⟩ ⟨Instant.endSecond - 1, 999999999⟩ := by
  have first : (⟨Instant.firstSecond, 0⟩ : Instant).isRepresentable = true := by decide +kernel
  have last : (⟨Instant.endSecond - 1, 999999999⟩ : Instant).isRepresentable = true := by
    decide +kernel
  exact ⟨first, last, isFresh_within "42" _ _ first last⟩

/-- **A window does not bound the distance across midnight**: a code that is issued in the middle of a
leap second counts as fresh three tenths of a second away, with a window of no length. -/
theorem isFresh_of_overrun :
    Instant.ofText? "2016-12-31T23:59:60.5Z".toList = some ⟨1483228799, 1500000000⟩ ∧
      Instant.ofText? "2017-01-01T00:00:00.2Z".toList = some ⟨1483228800, 200000000⟩ ∧
      (⟨1483228799, 1500000000⟩ : Instant).isRepresentable = true ∧
      (⟨1483228800, 200000000⟩ : Instant).isRepresentable = true ∧
      (⟨1483228799, 1500000000⟩ : Instant).distance ⟨1483228800, 200000000⟩ = 300000000 ∧
      ((⟨1483228799, 1500000000⟩ : Instant).total -
        (⟨1483228800, 200000000⟩ : Instant).total).natAbs = 300000000 ∧
      ¬ ((⟨"42", ⟨1483228799, 1500000000⟩⟩ : IssuedCode).isFresh ⟨1483228800, 200000000⟩ 0 = true ↔
        "42" ≠ "" ∧ "42" ≠ noCode ∧
          (⟨1483228799, 1500000000⟩ : Instant).distance ⟨1483228800, 200000000⟩ ≤ 0 * 1000000) := by
  refine ⟨by decide +kernel, by decide +kernel, by decide +kernel, by decide +kernel,
    by decide +kernel, by decide +kernel, fun exact => ?_⟩
  have fresh : (⟨"42", ⟨1483228799, 1500000000⟩⟩ : IssuedCode).isFresh ⟨1483228800, 200000000⟩ 0 =
      true := by decide +kernel
  have apart : ¬ (⟨1483228799, 1500000000⟩ : Instant).distance ⟨1483228800, 200000000⟩ ≤
      0 * 1000000 := by decide +kernel
  exact apart (exact.1 fresh).2.2

end IssuedCode

end Playback
