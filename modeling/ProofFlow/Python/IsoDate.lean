import ProofFlow.Python.Date

/-!
# Dates from ISO 8601 texts

`date.fromisoformat` reads a calendar date or a week date, with or without separators.  Week one of
a year is the week of its first Thursday.
-/

namespace ProofFlow

namespace Date

/-- `parse_digits`: the value of `width` ASCII digits and what follows them. -/
def parseDigits (width : ℕ) (s : Str) : Option (ℕ × Str) :=
  if (s.take width).length = width ∧ (s.take width).all isDigit = true then
    some (digitsValue (s.take width), s.drop width)
  else none

/-- A separator follows exactly if the year has one. -/
def skipSeparator (usesSeparator : Bool) (s : Str) : Option Str :=
  if usesSeparator then (if s.head? = some '-' then some s.tail else none) else some s

/-- The days from 0001-01-01, a Monday, to the Monday of week one. -/
def weekOneMonday (year : ℕ) : ℤ :=
  let first := daysBeforeYear year
  let weekday := first % 7
  if 3 < weekday then first - weekday + 7 else (first : ℤ) - weekday

/-- The year has a week 53. -/
def hasWeek53 (year : ℕ) : Bool :=
  let weekday := daysBeforeYear year % 7
  decide (weekday = 3) || (decide (weekday = 2) && isLeapYear year)

/-- The date a number of days after 0001-01-01. -/
def ofDays (days : ℤ) : Option Date :=
  if h : 0 ≤ days ∧ days < 3652059 then
    some (UtcTime.date ⟨days.toNat * (86400 * 10 ^ 6), by unfold maxMicros; omega⟩)
  else none

/-- The date of a day of a week. -/
def ofWeek (year week day : ℕ) : Option Date :=
  if (1 ≤ year ∧ year ≤ 9999) ∧ 1 ≤ week ∧ (week ≤ 52 ∨ (week = 53 ∧ hasWeek53 year = true)) ∧
      1 ≤ day ∧ day ≤ 7 then
    ofDays (weekOneMonday year + (week - 1) * 7 + (day - 1))
  else none

/-- `parse_isoformat_date`.  The source walks over the bytes of the UTF-8 text: all that it
accepts are ASCII characters, of one byte each.  What follows the day is not looked at. -/
def parseIsoformatDate (text : Str) : Option Date := do
  let year ← parseDigits 4 text
  let usesSeparator := decide (year.2.head? = some '-')
  let rest := if usesSeparator then year.2.tail else year.2
  if rest.head? = some 'W' then
    let week ← parseDigits 2 rest.tail
    if week.2 = [] then ofWeek year.1 week.1 1
    else
      let day ← parseDigits 1 (← skipSeparator usesSeparator week.2)
      ofWeek year.1 week.1 day.1
  else
    let month ← parseDigits 2 rest
    let day ← parseDigits 2 (← skipSeparator usesSeparator month.2)
    build year.1 month.1 day.1

/-- `date.fromisoformat(text)`, or `none` on a `ValueError`: only the length in bytes is tested
before the text is read. -/
def fromIsoformat (text : Str) : Option Date :=
  let length := (encodeUtf8 text).length
  if length = 7 ∨ length = 8 ∨ length = 10 then parseIsoformatDate text else none

example : (fromIsoformat (lit "2021-W01-1")).map isoformat = some (lit "2021-01-04") := by
  decide +kernel

example : (fromIsoformat (lit "20191204")).map isoformat = some (lit "2019-12-04") := by
  decide +kernel

/-- The rest of the text is ignored. -/
example : (fromIsoformat (lit "2021W011xx")).map isoformat = some (lit "2021-01-04") := by
  decide +kernel

end Date

end ProofFlow
