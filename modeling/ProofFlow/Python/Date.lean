import ProofFlow.Python.Time

/-!
# Dates

A Python `date` is a day of the calendar.  This file has its order and its ISO text, and the
canonical text of a date-time in UTC (`_datetime_text`), which reads back as the same point.
-/

namespace ProofFlow

/-- A decimal number with at least `width` digits: its last `width` ones. -/
def paddedText (width n : ℕ) : Str :=
  (List.range width).map fun i => Char.ofNat (n / 10 ^ (width - 1 - i) % 10 + 48)

/-- A Python `date`. -/
structure Date where
  year : ℕ
  month : ℕ
  day : ℕ
  valid : (1 ≤ year ∧ year ≤ 9999) ∧ (1 ≤ month ∧ month ≤ 12) ∧ 1 ≤ day ∧
    day ≤ daysInMonth year month
  deriving DecidableEq

namespace Date

/-- `date(year, month, day)`, or `none` on a `ValueError`. -/
def build (year month day : ℕ) : Option Date :=
  if h : (1 ≤ year ∧ year ≤ 9999) ∧ (1 ≤ month ∧ month ≤ 12) ∧ 1 ≤ day ∧
    day ≤ daysInMonth year month
  then some ⟨year, month, day, h⟩
  else none

/-- `a < b`. -/
def lt (a b : Date) : Prop :=
  a.year < b.year ∨ (a.year = b.year ∧
    (a.month < b.month ∨ (a.month = b.month ∧ a.day < b.day)))

instance : LT Date := ⟨lt⟩

instance (a b : Date) : Decidable (a < b) := inferInstanceAs (Decidable (_ ∨ _))

/-- `date.isoformat()`. -/
def isoformat (d : Date) : Str :=
  paddedText 4 d.year ++ '-' :: (paddedText 2 d.month ++ '-' :: paddedText 2 d.day)

end Date

/-! ## The day of an ordinal -/

/-- The length of a month in a common or a leap year. -/
def monthLength (leap : Bool) (m : ℕ) : ℕ :=
  if m = 2 then (if leap then 29 else 28)
  else if m = 4 ∨ m = 6 ∨ m = 9 ∨ m = 11 then 30
  else 31

/-- The days of a year before a month. -/
def monthStart (leap : Bool) (m : ℕ) : ℕ :=
  ((List.range (m - 1)).map fun i => monthLength leap (i + 1)).sum

theorem daysInMonth_eq (y m : ℕ) : daysInMonth y m = monthLength (isLeapYear y) m := rfl

theorem daysBeforeMonth_eq (y m : ℕ) : daysBeforeMonth y m = monthStart (isLeapYear y) m := rfl

/-- The month that a day of the year lies in. -/
def monthOfDay (leap : Bool) (n : ℕ) : ℕ :=
  ((List.range 12).filter fun i => monthStart leap (i + 1) ≤ n).length

/-- The year and the day of it for a number of days since 0001-01-01: whole cycles of 400, 100, 4
and 1 years, where the last century of a cycle and the last year of four are a day longer. -/
def yearOfDays (n : ℕ) : ℕ × ℕ :=
  let n400 := n / 146097
  let n100 := min 3 (n % 146097 / 36524)
  let rest := n % 146097 - 36524 * n100
  let n4 := rest / 1461
  let n1 := min 3 (rest % 1461 / 365)
  (400 * n400 + 100 * n100 + 4 * n4 + n1 + 1, rest % 1461 - 365 * n1)

theorem isLeapYear_succ (k : ℕ) :
    isLeapYear (k + 1) = decide (k % 4 = 3 ∧ (k % 100 ≠ 99 ∨ k % 400 = 399)) := by
  unfold isLeapYear
  rw [Bool.eq_iff_iff]
  simp only [Bool.and_eq_true, Bool.or_eq_true, beq_iff_eq, bne_iff_ne, decide_eq_true_eq]
  omega

/-- The days before the year after `400 a + 100 b + 4 c + d` whole years. -/
theorem daysBeforeYear_cycles {a b c d : ℕ} (hb : b ≤ 3) (hc : c ≤ 24) (hd : d ≤ 3) :
    daysBeforeYear (400 * a + 100 * b + 4 * c + d + 1) =
      146097 * a + 36524 * b + 1461 * c + 365 * d := by
  have h4 : (400 * a + 100 * b + 4 * c + d) / 4 = 100 * a + 25 * b + c := by omega
  have h100 : (400 * a + 100 * b + 4 * c + d) / 100 = 4 * a + b := by omega
  have h400 : (400 * a + 100 * b + 4 * c + d) / 400 = a := by omega
  unfold daysBeforeYear
  rw [Nat.add_sub_cancel, h4, h100, h400]
  omega

/-- Every day of the calendar lies in the year that `yearOfDays` finds. -/
theorem yearOfDays_spec (n : ℕ) :
    daysBeforeYear (yearOfDays n).1 + (yearOfDays n).2 = n ∧
      (yearOfDays n).2 < 365 + (isLeapYear (yearOfDays n).1).toNat := by
  obtain ⟨a, r, hn, hr⟩ : ∃ a r, n = 146097 * a + r ∧ r < 146097 :=
    ⟨n / 146097, n % 146097, by omega, by omega⟩
  obtain ⟨b, hb, hb3⟩ : ∃ b, min 3 (r / 36524) = b ∧ b ≤ 3 := ⟨_, rfl, by omega⟩
  obtain ⟨s, hs⟩ : ∃ s, r - 36524 * b = s := ⟨_, rfl⟩
  obtain ⟨c, q, hcq, hq⟩ : ∃ c q, s = 1461 * c + q ∧ q < 1461 :=
    ⟨s / 1461, s % 1461, by omega, by omega⟩
  obtain ⟨d, hd, hd3⟩ : ∃ d, min 3 (q / 365) = d ∧ d ≤ 3 := ⟨_, rfl, by omega⟩
  have hc : c ≤ 24 := by omega
  have hyear : yearOfDays n = (400 * a + 100 * b + 4 * c + d + 1, q - 365 * d) := by
    have h400 : n / 146097 = a ∧ n % 146097 = r := by omega
    have h4 : s / 1461 = c ∧ s % 1461 = q := by omega
    simp only [yearOfDays, h400.1, h400.2, hb, hs, h4.1, h4.2, hd]
  rw [hyear]
  refine ⟨?_, ?_⟩
  · simp only [daysBeforeYear_cycles hb3 hc hd3]
    omega
  · -- the day after day 365 exists in the last year of four, save at the end of a century
    have hleap :
        d = 3 → (c ≠ 24 ∨ b = 3) → isLeapYear (400 * a + 100 * b + 4 * c + d + 1) = true := by
      intro h3 hcb
      rw [isLeapYear_succ, decide_eq_true_eq]
      omega
    by_cases h3 : d = 3 ∧ (c ≠ 24 ∨ b = 3)
    · rw [hleap h3.1 h3.2, Bool.toNat_true]
      omega
    · have hlt : q - 365 * d < 365 := by omega
      exact Nat.lt_of_lt_of_le hlt (Nat.le_add_right _ _)

/-- Every day of a year lies in the month that `monthOfDay` finds. -/
theorem monthOfDay_spec {leap : Bool} {n : ℕ} (h : n < 365 + leap.toNat) :
    (1 ≤ monthOfDay leap n ∧ monthOfDay leap n ≤ 12) ∧ monthStart leap (monthOfDay leap n) ≤ n ∧
      n < monthStart leap (monthOfDay leap n) + monthLength leap (monthOfDay leap n) := by
  have checked : ∀ leap : Bool, ∀ n : Fin (365 + leap.toNat),
      (1 ≤ monthOfDay leap n ∧ monthOfDay leap n ≤ 12) ∧ monthStart leap (monthOfDay leap n) ≤ n ∧
        n < monthStart leap (monthOfDay leap n) + monthLength leap (monthOfDay leap n) := by
    decide +kernel
  exact checked leap ⟨n, h⟩

theorem yearOfDays_mem {n : ℕ} (h : n < 3652059) :
    1 ≤ (yearOfDays n).1 ∧ (yearOfDays n).1 ≤ 9999 := by
  simp only [yearOfDays]
  omega

namespace UtcTime

/-- The days from 0001-01-01 to the date of a point of time. -/
def days (t : UtcTime) : ℕ := t.val / (86400 * 10 ^ 6)

theorem days_lt (t : UtcTime) : t.days < 3652059 := by
  have ht := t.isLt
  unfold days
  unfold maxMicros at ht
  omega

/-- The month of `t.date()`. -/
def month (t : UtcTime) : ℕ :=
  monthOfDay (isLeapYear (yearOfDays t.days).1) (yearOfDays t.days).2

/-- `t.date()`. -/
def date (t : UtcTime) : Date where
  year := (yearOfDays t.days).1
  month := t.month
  day := (yearOfDays t.days).2 - monthStart (isLeapYear (yearOfDays t.days).1) t.month + 1
  valid := by
    have hm := monthOfDay_spec (yearOfDays_spec t.days).2
    refine ⟨yearOfDays_mem t.days_lt, hm.1, by omega, ?_⟩
    rw [daysInMonth_eq]
    unfold month
    omega

/-- The date has the days it was made from. -/
theorem days_date (t : UtcTime) :
    daysBeforeYear t.date.year + daysBeforeMonth t.date.year t.date.month + (t.date.day - 1) =
      t.days := by
  have hy := yearOfDays_spec t.days
  have hm := monthOfDay_spec hy.2
  simp only [date, month, daysBeforeMonth_eq]
  omega

def hour (t : UtcTime) : ℕ := t.val / (3600 * 10 ^ 6) % 24

def minute (t : UtcTime) : ℕ := t.val / (60 * 10 ^ 6) % 60

def second (t : UtcTime) : ℕ := t.val / 10 ^ 6 % 60

def microsecond (t : UtcTime) : ℕ := t.val % 10 ^ 6

/-- A point of time is given by its calendar fields. -/
theorem civilMicros_fields (t : UtcTime) :
    civilMicros t.date.year t.date.month t.date.day t.hour t.minute t.second t.microsecond =
      some t := by
  obtain ⟨⟨hy, hy'⟩, ⟨hm, hm'⟩, hd, hd'⟩ := t.date.valid
  have hhour : t.hour < 24 := Nat.mod_lt _ (by omega)
  have hminute : t.minute < 60 := Nat.mod_lt _ (by omega)
  have hsecond : t.second < 60 := Nat.mod_lt _ (by omega)
  have hdays := t.days_date
  unfold civilMicros
  rw [if_pos ⟨hy, hy', hm, hm', hd, hd', hhour, hminute, hsecond⟩]
  simp only [hdays]
  have hval : (((t.days * 24 + t.hour) * 60 + t.minute) * 60 + t.second) * 10 ^ 6 + t.microsecond =
      t.val := by
    unfold days hour minute second microsecond
    omega
  simp only [hval, dif_pos t.isLt]

end UtcTime

/-! ## The canonical text of a date-time -/

/-- `_datetime_text` of a value in UTC:
`value.isoformat(timespec="microseconds").replace("+00:00", "Z")`. -/
def datetimeText (t : UtcTime) : Str :=
  t.date.isoformat ++ 'T' :: (paddedText 2 t.hour ++ ':' :: (paddedText 2 t.minute ++
    ':' :: (paddedText 2 t.second ++ '.' :: (paddedText 6 t.microsecond ++ ['Z']))))

theorem paddedText_succ (width n : ℕ) :
    paddedText (width + 1) n = paddedText width (n / 10) ++ [Char.ofNat (n % 10 + 48)] := by
  unfold paddedText
  rw [List.range_succ, List.map_append]
  congr 1
  · refine List.map_congr_left fun i hi => ?_
    have hi' : i < width := List.mem_range.1 hi
    have hexp : width + 1 - 1 - i = (width - 1 - i) + 1 := by omega
    rw [hexp, pow_succ', Nat.div_div_eq_div_mul]
  · simp

theorem toNat_digitChar {n : ℕ} (h : n < 10) : (Char.ofNat (n + 48)).toNat = n + 48 := by
  have checked : ∀ k : Fin 10, (Char.ofNat (k.val + 48)).toNat = k.val + 48 := by decide
  exact checked ⟨n, h⟩

theorem isDigit_of_mem_paddedText {width n : ℕ} {c : Char} (h : c ∈ paddedText width n) :
    isDigit c = true := by
  obtain ⟨i, -, rfl⟩ := List.mem_map.1 h
  have hlt : n / 10 ^ (width - 1 - i) % 10 < 10 := Nat.mod_lt _ (by omega)
  simp only [isDigit, toNat_digitChar hlt, Bool.and_eq_true, decide_eq_true_eq]
  omega

theorem digitsValue_append (s : Str) (c : Char) :
    digitsValue (s ++ [c]) = 10 * digitsValue s + (c.toNat - 48) := by
  simp [digitsValue, List.foldl_append]

/-- Padded digits read back. -/
theorem digitsValue_paddedText {width n : ℕ} (h : n < 10 ^ width) :
    digitsValue (paddedText width n) = n := by
  induction width generalizing n with
  | zero =>
    rw [pow_zero] at h
    obtain rfl : n = 0 := by omega
    rfl
  | succ width ih =>
    have hdiv : n / 10 < 10 ^ width := by
      rw [pow_succ] at h
      omega
    rw [paddedText_succ, digitsValue_append, ih hdiv, toNat_digitChar (Nat.mod_lt _ (by omega))]
    omega

@[simp] theorem length_paddedText (width n : ℕ) : (paddedText width n).length = width := by
  simp [paddedText]

theorem takeWhile_paddedText (width n : ℕ) {rest : Str} (h : ∀ c ∈ rest.head?, isDigit c = false) :
    (paddedText width n ++ rest).takeWhile isDigit = paddedText width n := by
  rw [List.takeWhile_append_of_pos fun c hc => isDigit_of_mem_paddedText hc]
  cases rest with
  | nil => simp
  | cons c rest => simp [h c (by simp)]

theorem paddedText_two (n : ℕ) : ∃ a b, paddedText 2 n = [a, b] := ⟨_, _, rfl⟩

theorem paddedText_four (n : ℕ) : ∃ a b c d, paddedText 4 n = [a, b, c, d] := ⟨_, _, _, _, rfl⟩

/-- The fields of a canonical text. -/
theorem rfc3339Fields_datetimeText (t : UtcTime) :
    rfc3339Fields (datetimeText t) = some (t.date.year, t.date.month, t.date.day, t.hour, t.minute,
      t.second, t.microsecond) := by
  obtain ⟨⟨-, hy⟩, ⟨-, hm⟩, -, hd⟩ := t.date.valid
  have hd' : t.date.day ≤ 31 := by
    unfold daysInMonth at hd
    split_ifs at hd <;> omega
  have hus : t.microsecond < 10 ^ 6 := Nat.mod_lt _ (by omega)
  have hyear : digitsValue (paddedText 4 t.date.year) = t.date.year :=
    digitsValue_paddedText (by omega)
  have hmonth : digitsValue (paddedText 2 t.date.month) = t.date.month :=
    digitsValue_paddedText (by omega)
  have hday : digitsValue (paddedText 2 t.date.day) = t.date.day :=
    digitsValue_paddedText (by omega)
  have hhour : digitsValue (paddedText 2 t.hour) = t.hour :=
    digitsValue_paddedText (by unfold UtcTime.hour; omega)
  have hminute : digitsValue (paddedText 2 t.minute) = t.minute :=
    digitsValue_paddedText (by unfold UtcTime.minute; omega)
  have hsecond : digitsValue (paddedText 2 t.second) = t.second :=
    digitsValue_paddedText (by unfold UtcTime.second; omega)
  have hfraction :
      (paddedText 6 t.microsecond ++ ['Z']).takeWhile isDigit = paddedText 6 t.microsecond :=
    takeWhile_paddedText 6 _ (by simp [isDigit])
  have hdigits : ∀ w n, (paddedText w n).all isDigit = true := fun w n =>
    List.all_eq_true.2 fun c hc => isDigit_of_mem_paddedText hc
  have hall : (paddedText 4 t.date.year ++ paddedText 2 t.date.month ++ paddedText 2 t.date.day ++
      paddedText 2 t.hour ++ paddedText 2 t.minute ++ paddedText 2 t.second).all isDigit =
        true := by
    simp only [List.all_append, hdigits, Bool.and_self]
  unfold datetimeText Date.isoformat
  obtain ⟨y1, y2, y3, y4, ey⟩ := paddedText_four t.date.year
  obtain ⟨m1, m2, em⟩ := paddedText_two t.date.month
  obtain ⟨d1, d2, ed⟩ := paddedText_two t.date.day
  obtain ⟨h1, h2, eh⟩ := paddedText_two t.hour
  obtain ⟨i1, i2, ei⟩ := paddedText_two t.minute
  obtain ⟨s1, s2, es⟩ := paddedText_two t.second
  rw [ey, em, ed, eh, ei, es] at hall ⊢
  rw [ey] at hyear
  rw [em] at hmonth
  rw [ed] at hday
  rw [eh] at hhour
  rw [ei] at hminute
  rw [es] at hsecond
  simp only [List.cons_append, List.nil_append] at hall ⊢
  simp only [rfc3339Fields, hall, if_true, hfraction, length_paddedText, Nat.reduceLeDiff, true_and]
  rw [if_pos (by simp), digitsValue_paddedText hus]
  simp [hyear, hmonth, hday, hhour, hminute, hsecond]

/-- A canonical text reads back as the point of time it was made from. -/
theorem parseUtcRfc3339Z_datetimeText (t : UtcTime) (label : String) :
    parseUtcRfc3339Z (datetimeText t) label = .ok t := by
  unfold parseUtcRfc3339Z
  simp only [rfc3339Fields_datetimeText, UtcTime.civilMicros_fields]

theorem datetimeText_injective : Function.Injective datetimeText := by
  intro t u h
  have ht := parseUtcRfc3339Z_datetimeText t ""
  rw [h, parseUtcRfc3339Z_datetimeText] at ht
  exact (Except.ok.inj ht).symm

end ProofFlow
