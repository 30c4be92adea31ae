import ProofFlow.Python.Text

/-!
# Date-times

A Python `datetime` has a wall clock inside the calendar (years 1 to 9999, microseconds) and, when
it is timezone-aware, an offset from UTC.  Aware values are compared as instants, so an instant may
lie up to a day outside the calendar; converting such a value to UTC raises `OverflowError`, and so
does arithmetic that leaves the calendar.  A value in UTC is a point of the calendar (`UtcTime`).
-/

namespace ProofFlow

/-- The last microsecond of year 9999, counted from the first of year 1. -/
def maxMicros : ℕ := 3652059 * 86400 * 10 ^ 6 - 1

/-- An aware `datetime` in UTC: microseconds since 0001-01-01T00:00:00. -/
abbrev UtcTime := Fin (maxMicros + 1)

/-- The instant of a value in UTC. -/
def UtcTime.instant (t : UtcTime) : ℤ := t.val

theorem UtcTime.instant_le {a b : UtcTime} : a.instant ≤ b.instant ↔ a ≤ b :=
  Int.ofNat_le.trans Fin.le_iff_val_le_val.symm

/-- A Python `datetime`: naive when it has no offset. -/
structure DateTime where
  wall : UtcTime
  utcoffset : Option ℤ
  /-- `tzinfo.utcoffset` is strictly between minus and plus one day. -/
  offset_lt : ∀ o ∈ utcoffset, o.natAbs < 86400 * 10 ^ 6

instance : DecidableEq DateTime := fun a b =>
  decidable_of_iff (a.wall = b.wall ∧ a.utcoffset = b.utcoffset) (by
    cases a; cases b; simp)

namespace DateTime

/-- The instant an aware value stands for, in microseconds since 0001-01-01T00:00:00Z. -/
def instant (t : DateTime) : ℤ := t.wall.val - t.utcoffset.getD 0

/-- `==` of two values: aware values are equal when they are the same instant. -/
def pyEq (a b : DateTime) : Prop :=
  a.utcoffset.isSome = b.utcoffset.isSome ∧ a.instant = b.instant

instance (a b : DateTime) : Decidable (a.pyEq b) :=
  inferInstanceAs (Decidable (_ ∧ _))

/-- A value in UTC. -/
def ofUtc (t : UtcTime) : DateTime where
  wall := t
  utcoffset := some 0
  offset_lt := by simp

/-- `value.astimezone(UTC)` of an aware value. -/
def astimezoneUtc (t : DateTime) : Except PyErr UtcTime :=
  if h : 0 ≤ t.instant ∧ t.instant.toNat < maxMicros + 1 then .ok ⟨t.instant.toNat, h.2⟩
  else .error .overflowError

end DateTime

/-- `_require_aware`. -/
def requireAware (value : DateTime) (label : String) : Except PyErr UtcTime :=
  match value.utcoffset with
  | none => .error (.valueError (label ++ " must be timezone-aware"))
  | some _ => value.astimezoneUtc

/-- `_require_utc`. -/
def requireUtc (value : DateTime) (label : String) : Except PyErr UtcTime :=
  match value.utcoffset with
  | none => .error (.valueError (label ++ " must be timezone-aware"))
  | some o =>
    if o = 0 then value.astimezoneUtc else .error (.valueError (label ++ " must use UTC"))

theorem DateTime.astimezoneUtc_instant {t : DateTime} {u : UtcTime} (h : t.astimezoneUtc = .ok u) :
    u.instant = t.instant := by
  unfold DateTime.astimezoneUtc at h
  split_ifs at h with hr
  obtain rfl := Except.ok.inj h
  exact Int.toNat_of_nonneg hr.1

/-- Normalization keeps the instant. -/
theorem requireAware_instant {t : DateTime} {label : String} {u : UtcTime}
    (h : requireAware t label = .ok u) : u.instant = t.instant := by
  unfold requireAware at h
  split at h
  · cases h
  · exact DateTime.astimezoneUtc_instant h

/-- A value in UTC is its own normal form. -/
@[simp] theorem DateTime.astimezoneUtc_ofUtc (t : UtcTime) :
    (DateTime.ofUtc t).astimezoneUtc = .ok t := by
  have hi : (DateTime.ofUtc t).instant = t.val := by simp [DateTime.instant, DateTime.ofUtc]
  have ht := t.isLt
  unfold DateTime.astimezoneUtc
  rw [dif_pos ⟨by omega, by omega⟩]
  simp [hi]

/-- A value in UTC is never refused. -/
@[simp] theorem requireUtc_ofUtc (t : UtcTime) (label : String) :
    requireUtc (.ofUtc t) label = .ok t :=
  DateTime.astimezoneUtc_ofUtc t

@[simp] theorem requireAware_ofUtc (t : UtcTime) (label : String) :
    requireAware (.ofUtc t) label = .ok t :=
  DateTime.astimezoneUtc_ofUtc t

/-! ## Arithmetic -/

namespace UtcTime

/-- `t + timedelta(microseconds=d)`. -/
def add (t : UtcTime) (d : ℕ) : Except PyErr UtcTime :=
  if h : t.val + d < maxMicros + 1 then .ok ⟨t.val + d, h⟩ else .error .overflowError

/-- `t - timedelta(microseconds=d)`. -/
def sub (t : UtcTime) (d : ℕ) : Except PyErr UtcTime :=
  if d ≤ t.val then .ok ⟨t.val - d, Nat.lt_of_le_of_lt (Nat.sub_le _ _) t.isLt⟩
  else .error .overflowError

theorem add_eq_ok {t u : UtcTime} {d : ℕ} (h : t.add d = .ok u) : u.instant = t.instant + d := by
  unfold add at h
  split_ifs at h
  obtain rfl := Except.ok.inj h
  simp [instant]

theorem sub_eq_ok {t u : UtcTime} {d : ℕ} (h : t.sub d = .ok u) : u.instant = t.instant - d := by
  unfold sub at h
  split_ifs at h with hd
  obtain rfl := Except.ok.inj h
  simp only [instant]
  omega

theorem add_eq_error {t : UtcTime} {d : ℕ} {e : PyErr} :
    t.add d = .error e ↔ e = .overflowError ∧ maxMicros < t.val + d := by
  unfold add
  split_ifs with h
  · simp only [false_iff]
    omega
  · simp only [Except.error.injEq, eq_comm, iff_self_and]
    omega

theorem sub_eq_error {t : UtcTime} {d : ℕ} {e : PyErr} :
    t.sub d = .error e ↔ e = .overflowError ∧ t.val < d := by
  unfold sub
  split_ifs with h
  · simp only [false_iff]
    omega
  · simp only [Except.error.injEq, eq_comm, iff_self_and]
    omega

/-- Both `t + d` and `t - d` are dates of the calendar. -/
def Representable (t : UtcTime) (d : ℕ) : Prop := t.val + d ≤ maxMicros ∧ d ≤ t.val

instance (t : UtcTime) (d : ℕ) : Decidable (t.Representable d) :=
  inferInstanceAs (Decidable (_ ∧ _))

theorem representable_of_ok {t u v : UtcTime} {d : ℕ} (hadd : t.add d = .ok u)
    (hsub : t.sub d = .ok v) : t.Representable d := by
  unfold add at hadd
  unfold sub at hsub
  split_ifs at hadd hsub with h₁ h₂
  exact ⟨Nat.le_of_lt_succ h₁, h₂⟩

theorem Representable.add {t : UtcTime} {d : ℕ} (h : t.Representable d) : ∃ u, t.add d = .ok u := by
  unfold UtcTime.add
  rw [dif_pos (Nat.lt_succ_of_le h.1)]
  exact ⟨_, rfl⟩

theorem Representable.sub {t : UtcTime} {d : ℕ} (h : t.Representable d) : ∃ u, t.sub d = .ok u := by
  unfold UtcTime.sub
  rw [if_pos h.2]
  exact ⟨_, rfl⟩

end UtcTime

/-! ## The wire profile -/

def isLeapYear (y : ℕ) : Bool := y % 4 == 0 && (y % 100 != 0 || y % 400 == 0)

def daysInMonth (y m : ℕ) : ℕ :=
  if m = 2 then (if isLeapYear y then 29 else 28)
  else if m = 4 ∨ m = 6 ∨ m = 9 ∨ m = 11 then 30
  else 31

/-- Days before 1 January of year `y`, from 0001-01-01. -/
def daysBeforeYear (y : ℕ) : ℕ := (y - 1) * 365 + (y - 1) / 4 - (y - 1) / 100 + (y - 1) / 400

def daysBeforeMonth (y m : ℕ) : ℕ := ((List.range (m - 1)).map fun i => daysInMonth y (i + 1)).sum

/-- Microseconds of a calendar date-time, or `none` when there is no such date or time of day. -/
def civilMicros (y mo d h mi s us : ℕ) : Option UtcTime :=
  if 1 ≤ y ∧ y ≤ 9999 ∧ 1 ≤ mo ∧ mo ≤ 12 ∧ 1 ≤ d ∧ d ≤ daysInMonth y mo ∧ h < 24 ∧ mi < 60 ∧
    s < 60 then
    let days := daysBeforeYear y + daysBeforeMonth y mo + (d - 1)
    let micros := (((days * 24 + h) * 60 + mi) * 60 + s) * 10 ^ 6 + us
    if hm : micros < maxMicros + 1 then some ⟨micros, hm⟩ else none
  else none

/-- Read the fields of `UTC_RFC3339_Z_PATTERN`:
`YYYY-MM-DDTHH:MM:SS`, one to six fraction digits if any, and a literal `Z`. -/
def rfc3339Fields (s : Str) : Option (ℕ × ℕ × ℕ × ℕ × ℕ × ℕ × ℕ) :=
  match s with
  | y1 :: y2 :: y3 :: y4 :: '-' :: m1 :: m2 :: '-' :: d1 :: d2 :: 'T' :: h1 :: h2 :: ':' ::
      i1 :: i2 :: ':' :: s1 :: s2 :: rest =>
    let fraction : Option ℕ := match rest with
      | ['Z'] => some 0
      | '.' :: tail =>
        let f := tail.takeWhile isDigit
        if 1 ≤ f.length ∧ f.length ≤ 6 ∧ tail.drop f.length = ['Z'] then
          some (digitsValue f * 10 ^ (6 - f.length))
        else none
      | _ => none
    if [y1, y2, y3, y4, m1, m2, d1, d2, h1, h2, i1, i2, s1, s2].all isDigit then
      fraction.map fun us =>
        (digitsValue [y1, y2, y3, y4], digitsValue [m1, m2], digitsValue [d1, d2],
          digitsValue [h1, h2], digitsValue [i1, i2], digitsValue [s1, s2], us)
    else none
  | _ => none

/-- `parse_utc_rfc3339_z`.  A non-ASCII digit passes the pattern's `\d` and is then refused by
`datetime.fromisoformat`, with a `ValueError` either way. -/
def parseUtcRfc3339Z (value : Str) (label : String) : Except PyErr UtcTime :=
  match rfc3339Fields value with
  | none => .error (.valueError (label ++ " must be UTC RFC 3339 with a trailing Z"))
  | some (y, mo, d, h, mi, s, us) =>
    match civilMicros y mo d h mi s us with
    | none => .error (.valueError (label ++ " is not a valid calendar date-time"))
    | some t => .ok t

example :
    parseUtcRfc3339Z (lit "9999-12-31T23:59:59.999999Z") "t" = .ok ⟨maxMicros, by decide⟩ := by
  decide +kernel

end ProofFlow
