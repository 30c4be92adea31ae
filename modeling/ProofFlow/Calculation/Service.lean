import ProofFlow.Calculation.Context
import ProofFlow.Kit.Flow

/-!
# The service coefficient

`_service_coefficient` counts the whole years of service and adds half a year or a year for the
rest. The anniversaries of a start date and the points six months after them are positions in a
calendar without a last year, in which the thresholds of the coefficient are compared.
-/

namespace ProofFlow

open Kit

/-! ## The functions -/

/-- `date(year, month, day)`. -/
def newDate (year month day : ℕ) : Except Fault Date :=
  match Date.build year month day with
  | some d => .ok d
  | none => .error .valueError

/-- `_add_months`. -/
def addMonths (value : Date) (months : ℕ) : Except Fault Date :=
  let monthIndex := value.month - 1 + months
  let year := value.year + monthIndex / 12
  let month := monthIndex % 12 + 1
  let day := min value.day (daysInMonth year month)
  newDate year month day

/-- The anniversary of a date in a year. -/
def anniversaryIn (year : ℕ) (start : Date) : Except Fault Date :=
  newDate year start.month (min start.day (daysInMonth year start.month))

/-- `_service_coefficient`. -/
def serviceCoefficient (start last : Date) : Except Fault Decimal := do
  if last < start then .error .valueError
  else
    let anniversary ← anniversaryIn last.year start
    let (years, anniversary) ←
      if last < anniversary then do
        let previous ← anniversaryIn (last.year - 1) start
        pure ((last.year : ℤ) - start.year - 1, previous)
      else pure ((last.year : ℤ) - start.year, anniversary)
    let coefficient := Decimal.ofInt years
    if last = anniversary then pure coefficient
    else do
      let half ← addMonths anniversary 6
      coefficient.add (if last < half then .finite false 5 (-1) else .finite false 1 0)

/-! ## Positions in the calendar -/

/-- The position of a day, as if all months had 32 days. -/
def position (year month day : ℕ) : ℕ := (year * 12 + (month - 1)) * 32 + day

namespace Date

def position (d : Date) : ℕ := ProofFlow.position d.year d.month d.day

section Position

variable {a b d : Date}

theorem day_le_31 (d : Date) : d.day ≤ 31 := by
  have h := d.valid.2.2.2
  unfold daysInMonth at h
  split_ifs at h <;> omega

theorem lt_iff_position : a < b ↔ a.position < b.position := by
  have ha := a.day_le_31
  have hb := b.day_le_31
  obtain ⟨-, ⟨hm, hm'⟩, -, -⟩ := a.valid
  obtain ⟨-, ⟨hn, hn'⟩, -, -⟩ := b.valid
  show Date.lt a b ↔ _
  unfold Date.lt position ProofFlow.position
  omega

theorem position_injective : Function.Injective position := by
  intro a b h
  have ha := a.day_le_31
  have hb := b.day_le_31
  obtain ⟨-, ⟨hm, hm'⟩, hd, -⟩ := a.valid
  obtain ⟨-, ⟨hn, hn'⟩, hd', -⟩ := b.valid
  unfold position ProofFlow.position at h
  obtain ⟨y, m, d, hvalid⟩ := a
  obtain ⟨y', m', d', hvalid'⟩ := b
  simp only at *
  obtain ⟨rfl, rfl, rfl⟩ : y = y' ∧ m = m' ∧ d = d' := by omega
  rfl

end Position

end Date

theorem daysInMonth_bounds (y m : ℕ) : 28 ≤ daysInMonth y m ∧ daysInMonth y m ≤ 31 := by
  unfold daysInMonth
  split_ifs <;> omega

/-- The position of the `n`-th anniversary: the same month and day, clamped to the month's
length. -/
def anniversary (start : Date) (n : ℕ) : ℕ :=
  position (start.year + n) start.month (min start.day (daysInMonth (start.year + n) start.month))

/-- The year of the point six months after an anniversary. -/
def halfYear (start : Date) (n : ℕ) : ℕ := start.year + n + (start.month + 5) / 12

/-- The position of the point six calendar months after the `n`-th anniversary. -/
def halfPoint (start : Date) (n : ℕ) : ℕ :=
  let month := (start.month + 5) % 12 + 1
  position (halfYear start n) month
    (min (min start.day (daysInMonth (start.year + n) start.month))
      (daysInMonth (halfYear start n) month))

section Thresholds

variable {start start' last : Date} {n m : ℕ}

theorem anniversary_zero (start : Date) : anniversary start 0 = start.position := by
  have h := start.valid.2.2.2
  unfold anniversary Date.position
  rw [Nat.add_zero, Nat.min_eq_left h]

theorem anniversary_lt_succ (start : Date) (n : ℕ) :
    anniversary start n < anniversary start (n + 1) := by
  have h := start.day_le_31
  have h0 := daysInMonth_bounds (start.year + n) start.month
  have h1 := daysInMonth_bounds (start.year + (n + 1)) start.month
  have hday := start.valid.2.2.1
  unfold anniversary position
  omega

theorem anniversary_strictMono (start : Date) : StrictMono (anniversary start) :=
  strictMono_nat_of_lt_succ (anniversary_lt_succ start)

/-- An earlier start has earlier anniversaries. -/
theorem anniversary_mono (h : start.position ≤ start'.position) (n : ℕ) :
    anniversary start n ≤ anniversary start' n := by
  have hd := start.day_le_31
  have hd' := start'.day_le_31
  have hpos := start.valid.2.2.1
  have hpos' := start'.valid.2.2.1
  have hm := start.valid.2.1
  have hm' := start'.valid.2.1
  unfold Date.position position at h
  by_cases hsame : start.year = start'.year ∧ start.month = start'.month
  · unfold anniversary position
    rw [hsame.1, hsame.2] at h ⊢
    omega
  · have h0 := daysInMonth_bounds (start.year + n) start.month
    have h1 := daysInMonth_bounds (start'.year + n) start'.month
    unfold anniversary position
    omega

theorem halfPoint_mono (h : start.position ≤ start'.position) (n : ℕ) :
    halfPoint start n ≤ halfPoint start' n := by
  have hd := start.day_le_31
  have hd' := start'.day_le_31
  have hpos := start.valid.2.2.1
  have hpos' := start'.valid.2.2.1
  have hm := start.valid.2.1
  have hm' := start'.valid.2.1
  unfold Date.position position at h
  by_cases hsame : start.year = start'.year ∧ start.month = start'.month
  · unfold halfPoint position halfYear
    rw [hsame.1, hsame.2] at h ⊢
    simp only
    omega
  · have h0 := daysInMonth_bounds (start.year + n) start.month
    have h1 := daysInMonth_bounds (start'.year + n) start'.month
    have h2 := daysInMonth_bounds (halfYear start n) ((start.month + 5) % 12 + 1)
    have h3 := daysInMonth_bounds (halfYear start' n) ((start'.month + 5) % 12 + 1)
    unfold halfPoint position
    simp only
    unfold halfYear at h2 h3 ⊢
    omega

/-! ## What the functions compute -/

/-- `n` whole years have passed. -/
def Completed (start last : Date) (n : ℕ) : Prop :=
  anniversary start n ≤ last.position ∧ last.position < anniversary start (n + 1)

theorem Completed.unique (h : Completed start last n) (h' : Completed start last m) : n = m := by
  have hlt := (anniversary_strictMono start).lt_iff_lt.1 (h.1.trans_lt h'.2)
  have hlt' := (anniversary_strictMono start).lt_iff_lt.1 (h'.1.trans_lt h.2)
  omega

/-- The coefficient after `n` whole years. -/
def coefficientAfter (start last : Date) (n : ℕ) : ℚ :=
  if last.position = anniversary start n then n
  else if last.position < halfPoint start n then n + 1 / 2
  else n + 1

theorem newDate_eq {y m d : ℕ} (hy : 1 ≤ y ∧ y ≤ 9999) (hm : 1 ≤ m ∧ m ≤ 12)
    (hd : 1 ≤ d ∧ d ≤ daysInMonth y m) : newDate y m d = .ok ⟨y, m, d, hy, hm, hd⟩ := by
  unfold newDate Date.build
  rw [dif_pos ⟨hy, hm, hd⟩]

/-- A day of the calendar that is the `n`-th anniversary. -/
structure IsAnniversary (start : Date) (n : ℕ) (d : Date) : Prop where
  year : d.year = start.year + n
  month : d.month = start.month
  day : d.day = min start.day (daysInMonth (start.year + n) start.month)

theorem IsAnniversary.position {d : Date} (h : IsAnniversary start n d) :
    d.position = anniversary start n := by
  unfold Date.position anniversary
  rw [h.year, h.month, h.day]

theorem anniversaryIn_eq (hyear : start.year + n ≤ 9999) :
    ∃ d, anniversaryIn (start.year + n) start = .ok d ∧ IsAnniversary start n d := by
  have hy := start.valid.1
  have hd := start.valid.2.2.1
  have hbounds := daysInMonth_bounds (start.year + n) start.month
  unfold anniversaryIn
  rw [newDate_eq ⟨by omega, hyear⟩ start.valid.2.1 ⟨by omega, Nat.min_le_right _ _⟩]
  exact ⟨_, rfl, rfl, rfl, rfl⟩

theorem addMonths_six {d : Date} (h : IsAnniversary start n d) :
    (halfYear start n ≤ 9999 → ∃ half, addMonths d 6 = .ok half ∧
      half.position = halfPoint start n) ∧
      (9999 < halfYear start n → addMonths d 6 = .error .valueError) := by
  have hm := start.valid.2.1
  have hy := start.valid.1
  have hd := start.valid.2.2.1
  have hbounds := daysInMonth_bounds (start.year + n) start.month
  have hbounds' := daysInMonth_bounds (halfYear start n) ((start.month + 5) % 12 + 1)
  have hindex : start.month - 1 + 6 = start.month + 5 := by omega
  have heq : addMonths d 6 = newDate (halfYear start n) ((start.month + 5) % 12 + 1)
      (min (min start.day (daysInMonth (start.year + n) start.month))
        (daysInMonth (halfYear start n) ((start.month + 5) % 12 + 1))) := by
    unfold addMonths halfYear
    rw [h.month, h.year, h.day, hindex]
  rw [heq]
  constructor
  · intro hyear
    rw [newDate_eq ⟨by unfold halfYear; omega, hyear⟩ ⟨by omega, by omega⟩
      ⟨by omega, Nat.min_le_right _ _⟩]
    exact ⟨_, rfl, rfl⟩
  · intro hyear
    unfold newDate Date.build
    rw [dif_neg (by omega)]

/-- The whole years of service and the anniversary that ends them, as the function finds them. -/
theorem exists_completed (h : ¬ last < start) :
    ∃ n, Completed start last n ∧ start.year + n ≤ last.year := by
  have hle : start.position ≤ last.position := by
    rw [Date.lt_iff_position] at h
    omega
  have hyears : start.year ≤ last.year := by
    have hd := start.day_le_31
    have hd' := last.day_le_31
    have hm := start.valid.2.1
    have hm' := last.valid.2.1
    unfold Date.position position at hle
    omega
  obtain ⟨n, hn⟩ : ∃ n, last.year = start.year + n := ⟨last.year - start.year, by omega⟩
  have hnext : last.position < anniversary start (n + 1) := by
    have hd := last.day_le_31
    have hm := start.valid.2.1
    have hm' := last.valid.2.1
    unfold Date.position anniversary position
    rw [hn]
    omega
  by_cases hpassed : anniversary start n ≤ last.position
  · exact ⟨n, ⟨hpassed, hnext⟩, by omega⟩
  · have hpos : n ≠ 0 := by
      rintro rfl
      exact hpassed ((anniversary_zero start).le.trans hle)
    obtain ⟨k, rfl⟩ := Nat.exists_eq_succ_of_ne_zero hpos
    refine ⟨k, ⟨?_, not_le.1 hpassed⟩, by omega⟩
    have hd := start.day_le_31
    have hm := start.valid.2.1
    have hm' := last.valid.2.1
    unfold Date.position anniversary position
    rw [hn]
    omega

theorem digits_le_prec {c : ℕ} (h : c ≤ 99995) : Decimal.digits c ≤ Decimal.prec := by
  rw [Decimal.digits_le_iff (by decide)]
  exact h.trans_lt (by decide)

theorem add_half (hn : n ≤ 9999) :
    Decimal.add (.ofInt n) (.finite false 5 (-1)) = .ok (.finite false (n * 10 + 5) (-1)) := by
  rw [Decimal.ofInt_natCast, Decimal.add_nonneg]
  exact Decimal.fix_short (by simp) (digits_le_prec (by simp; omega)) (by decide) (by decide)

theorem add_one (hn : n ≤ 9999) :
    Decimal.add (.ofInt n) (.finite false 1 0) = .ok (.finite false (n + 1) 0) := by
  rw [Decimal.ofInt_natCast, Decimal.add_nonneg]
  have hsum : n * 10 ^ (0 - min (0 : ℤ) 0).toNat + 1 * 10 ^ (0 - min (0 : ℤ) 0).toNat = n + 1 := by
    simp
  rw [hsum]
  exact Decimal.fix_short (by omega) (digits_le_prec (by omega)) (by decide) (by decide)

/-- What follows once the last anniversary is known. -/
def addRest (last : Date) (years : ℤ) (passed : Date) : Except Fault Decimal :=
  if last = passed then .ok (.ofInt years)
  else do
    let half ← addMonths passed 6
    (Decimal.ofInt years).add (if last < half then .finite false 5 (-1) else .finite false 1 0)

/-- The function finds the last anniversary that has passed. -/
theorem serviceCoefficient_eq (h : ¬ last < start) (hn : Completed start last n) :
    ∃ passed, IsAnniversary start n passed ∧
      serviceCoefficient start last = addRest last n passed := by
  have hy := start.valid.1
  have hm := start.valid.2.1
  have hm' := last.valid.2.1
  have hd := start.day_le_31
  have hd' := last.day_le_31
  have hbounds := daysInMonth_bounds (start.year + n) start.month
  have hbounds' := daysInMonth_bounds (start.year + (n + 1)) start.month
  have hpos := start.valid.2.2.1
  have hlast := last.valid.1.2
  have hyear : last.year = start.year + n ∨ last.year = start.year + (n + 1) := by
    obtain ⟨hlow, hhigh⟩ := hn
    unfold Date.position anniversary position at hlow hhigh
    omega
  have hin (k : ℕ) (hk : start.year + k ≤ 9999) : ∃ d,
      anniversaryIn (start.year + k) start = .ok d ∧ IsAnniversary start k d := anniversaryIn_eq hk
  rcases hyear with hyear | hyear
  · obtain ⟨passed, hpassed, hanniversary⟩ := hin n (by omega)
    have hnot : ¬ last < passed := by
      rw [Date.lt_iff_position, hanniversary.position]
      exact not_lt.2 hn.1
    have hyears : (last.year : ℤ) - start.year = n := by omega
    refine ⟨passed, hanniversary, ?_⟩
    unfold serviceCoefficient addRest
    rw [if_neg h, hyear, hpassed, ok_bind, if_neg hnot, ← hyear, hyears]
    rfl
  · obtain ⟨next, hnext, hafter⟩ := hin (n + 1) (by omega)
    obtain ⟨passed, hpassed, hanniversary⟩ := hin n (by omega)
    have hlt : last < next := by
      rw [Date.lt_iff_position, hafter.position]
      exact hn.2
    have hprevious : start.year + (n + 1) - 1 = start.year + n := by omega
    have hyears : ((start.year + (n + 1) : ℕ) : ℤ) - start.year - 1 = n := by
      push_cast
      ring
    refine ⟨passed, hanniversary, ?_⟩
    unfold serviceCoefficient addRest
    rw [if_neg h, hyear, hnext, ok_bind, if_pos hlt, hprevious, hpassed, hyears]
    rfl

/-- The coefficient is returned exactly if it needs no date after year 9999. -/
theorem serviceCoefficient_cases (h : ¬ last < start) (hn : Completed start last n) :
    (∃ d, serviceCoefficient start last = .ok d ∧ d.value = coefficientAfter start last n) ∨
      (9999 < halfYear start n ∧ serviceCoefficient start last = .error .valueError) := by
  obtain ⟨passed, hpassed, heq⟩ := serviceCoefficient_eq h hn
  have hsmall : n ≤ 9999 := by
    have hlow := hn.1
    have hm' := last.valid.2.1
    have hd' := last.day_le_31
    have hlast := last.valid.1.2
    unfold Date.position anniversary position at hlow
    omega
  rw [heq]
  unfold addRest coefficientAfter
  by_cases hsame : last = passed
  · left
    have hposition : last.position = anniversary start n := by
      rw [hsame, hpassed.position]
    rw [if_pos hsame, if_pos hposition, Decimal.ofInt_natCast]
    refine ⟨_, rfl, ?_⟩
    simp [Decimal.value]
  have hposition : last.position ≠ anniversary start n := by
    rw [← hpassed.position]
    exact fun heq => hsame (Date.position_injective heq)
  rw [if_neg hsame, if_neg hposition]
  obtain ⟨hwithin, hbeyond⟩ := addMonths_six hpassed
  by_cases hyear : halfYear start n ≤ 9999
  · left
    obtain ⟨half, hhalf, hpoint⟩ := hwithin hyear
    have hiff : last < half ↔ last.position < halfPoint start n := by
      rw [Date.lt_iff_position, hpoint]
    rw [hhalf, ok_bind]
    by_cases hbefore : last < half
    · rw [if_pos hbefore, if_pos (hiff.1 hbefore), add_half hsmall]
      refine ⟨_, rfl, ?_⟩
      simp only [Decimal.value]
      push_cast
      norm_num
      ring
    · rw [if_neg hbefore, if_neg (mt hiff.2 hbefore), add_one hsmall]
      refine ⟨_, rfl, ?_⟩
      simp [Decimal.value]
  · right
    refine ⟨not_le.1 hyear, ?_⟩
    rw [hbeyond (not_le.1 hyear)]
    rfl

/-! ## Monotonicity -/

theorem coefficientAfter_bounds (start last : Date) (n : ℕ) :
    (n : ℚ) ≤ coefficientAfter start last n ∧ coefficientAfter start last n ≤ n + 1 := by
  unfold coefficientAfter
  split_ifs
  · exact ⟨le_refl _, by linarith⟩
  · exact ⟨by linarith, by linarith⟩
  · exact ⟨by linarith, le_refl _⟩

/-- The coefficient grows with the last day. -/
theorem coefficientAfter_mono_last {last' : Date} (hle : last.position ≤ last'.position)
    (hn : Completed start last n) (hm : Completed start last' m) :
    coefficientAfter start last n ≤ coefficientAfter start last' m := by
  have hlt : n < m + 1 :=
    (anniversary_strictMono start).lt_iff_lt.1 (hn.1.trans_lt (hle.trans_lt hm.2))
  rcases Nat.lt_or_ge n m with hnm | hnm
  · have hupper := (coefficientAfter_bounds start last n).2
    have hlower := (coefficientAfter_bounds start last' m).1
    have hcast : (n : ℚ) + 1 ≤ m := by exact_mod_cast hnm
    linarith
  · obtain rfl : n = m := by omega
    have hlow := hn.1
    unfold coefficientAfter
    split_ifs <;> first | linarith | omega

/-- The coefficient falls with the first day. -/
theorem coefficientAfter_anti_start {start' : Date} (hle : start.position ≤ start'.position)
    (hn : Completed start last n) (hm : Completed start' last m) :
    coefficientAfter start' last m ≤ coefficientAfter start last n := by
  have hlt : m < n + 1 :=
    (anniversary_strictMono start).lt_iff_lt.1 (((anniversary_mono hle m).trans hm.1).trans_lt hn.2)
  rcases Nat.lt_or_ge m n with hmn | hmn
  · have hupper := (coefficientAfter_bounds start' last m).2
    have hlower := (coefficientAfter_bounds start last n).1
    have hcast : (m : ℚ) + 1 ≤ n := by exact_mod_cast hmn
    linarith
  · obtain rfl : m = n := by omega
    have hanniversary := anniversary_mono hle m
    have hhalf := halfPoint_mono hle m
    have hlow := hm.1
    unfold coefficientAfter
    split_ifs <;> first | linarith | omega

/-! ## The coefficient -/

/-- What is returned after `n` whole years: the thresholds decide about the rest, and more service
never gives less. -/
structure ServiceCoefficient (start last : Date) (n : ℕ) (d : Decimal) : Prop where
  completed : Completed start last n
  unique : ∀ m, Completed start last m → m = n
  returned : serviceCoefficient start last = .ok d
  whole : last.position = anniversary start n → d.value = n
  half : anniversary start n < last.position → last.position < halfPoint start n →
    d.value = n + 1 / 2
  full : anniversary start n < last.position → halfPoint start n ≤ last.position → d.value = n + 1
  nonneg : 0 ≤ d.value
  mono_last : ∀ last' d', ¬ last' < last → serviceCoefficient start last' = .ok d' →
    d.value ≤ d'.value
  anti_start : ∀ start' d', ¬ last < start' → ¬ start' < start →
    serviceCoefficient start' last = .ok d' → d'.value ≤ d.value

/-- A returned coefficient is the one of the completed years. -/
theorem value_of_returned {d : Decimal} (h : ¬ last < start) (hn : Completed start last n)
    (hd : serviceCoefficient start last = .ok d) : d.value = coefficientAfter start last n := by
  rcases serviceCoefficient_cases h hn with ⟨d', hd', hvalue⟩ | ⟨-, herror⟩
  · rw [hd] at hd'
    rw [Except.ok.inj hd', hvalue]
  · rw [hd] at herror
    cases herror

/-- The coefficient of a period whose last half year lies within the calendar. -/
theorem serviceCoefficient_correct (start last : Date) (h : ¬ last < start)
    (hyear : ∃ n, Completed start last n ∧ halfYear start n ≤ 9999) :
    ∃ n d, ServiceCoefficient start last n d := by
  obtain ⟨n, hn, hwithin⟩ := hyear
  obtain ⟨d, hd, hvalue⟩ : ∃ d, serviceCoefficient start last = .ok d ∧
      d.value = coefficientAfter start last n := by
    rcases serviceCoefficient_cases h hn with hd | ⟨hbeyond, -⟩
    · exact hd
    · omega
  have horder {a b : Date} (hab : ¬ b < a) : a.position ≤ b.position := by
    rw [Date.lt_iff_position] at hab
    exact not_lt.1 hab
  refine ⟨n, d, hn, fun m hm => hm.unique hn, hd, ?_, ?_, ?_, ?_, ?_, ?_⟩
  · intro hsame
    rw [hvalue, coefficientAfter, if_pos hsame]
  · intro hafter hbefore
    rw [hvalue, coefficientAfter, if_neg hafter.ne', if_pos hbefore]
  · intro hafter hlate
    rw [hvalue, coefficientAfter, if_neg hafter.ne', if_neg (not_lt.2 hlate)]
  · rw [hvalue]
    exact le_trans (Nat.cast_nonneg n) (coefficientAfter_bounds start last n).1
  · intro last' d' hlast' hd'
    have hstart' : ¬ last' < start := by
      have hab := horder hlast'
      have hbc := horder h
      rw [Date.lt_iff_position]
      omega
    obtain ⟨m, hm, -⟩ := exists_completed hstart'
    rw [hvalue, value_of_returned hstart' hm hd']
    exact coefficientAfter_mono_last (horder hlast') hn hm
  · intro start' d' hstart' hle hd'
    obtain ⟨m, hm, -⟩ := exists_completed hstart'
    rw [hvalue, value_of_returned hstart' hm hd']
    exact coefficientAfter_anti_start (horder hle) hn hm

/-- From a leap day to the end of August: a year and a half of service count for two. -/
theorem sample_serviceCoefficient : ∃ n d, ServiceCoefficient ⟨2020, 2, 29, by decide⟩
    ⟨2021, 8, 31, by decide⟩ n d :=
  serviceCoefficient_correct _ _ (by decide) ⟨1, ⟨by decide, by decide⟩, by decide⟩

end Thresholds

end ProofFlow
