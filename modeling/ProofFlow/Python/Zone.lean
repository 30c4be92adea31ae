import ProofFlow.Python.Time

/-!
# Time zones

A timezone-aware `datetime` refers to a `tzinfo` object, which gives the offset of each wall clock
time; of a wall clock time that a change of the offset repeats, `fold` tells the two occurrences
apart.  Python compares wall clocks when one object is behind both sides, and instants otherwise.
-/

namespace ProofFlow

/-- A `tzinfo` object whose offsets are known for all times. -/
structure TzInfo where
  identity : ℕ
  utcoffset : (wall : UtcTime) → (fold : Bool) → ℤ
  /-- `datetime.utcoffset` refuses an offset of a day or more. -/
  offset_lt : ∀ wall fold, (utcoffset wall fold).natAbs < 86400 * 10 ^ 6

/-- An aware `datetime` with its `tzinfo`. -/
structure ZonedTime where
  wall : UtcTime
  fold : Bool
  tzinfo : TzInfo

namespace ZonedTime

/-- `t.utcoffset()`. -/
def utcoffset (t : ZonedTime) : ℤ := t.tzinfo.utcoffset t.wall t.fold

/-- The value without its `tzinfo` object. -/
def time (t : ZonedTime) : DateTime where
  wall := t.wall
  utcoffset := some t.utcoffset
  offset_lt := by
    rintro o ⟨⟩
    exact t.tzinfo.offset_lt t.wall t.fold

/-- The instant, in microseconds since 0001-01-01T00:00:00Z. -/
def instant (t : ZonedTime) : ℤ := t.wall.val - t.utcoffset

/-- The offset of the time depends on `fold`. -/
def foldMatters (t : ZonedTime) : Prop :=
  t.tzinfo.utcoffset t.wall true ≠ t.tzinfo.utcoffset t.wall false

instance (t : ZonedTime) : Decidable t.foldMatters := inferInstanceAs (Decidable (_ ≠ _))

/-- `a == b`: between zones, a time whose offset depends on `fold` equals none. -/
def pyEq (a b : ZonedTime) : Prop :=
  if a.tzinfo.identity = b.tzinfo.identity then a.wall = b.wall
  else a.instant = b.instant ∧ ¬ a.foldMatters ∧ ¬ b.foldMatters

instance (a b : ZonedTime) : Decidable (a.pyEq b) :=
  inferInstanceAs (Decidable (ite (a.tzinfo.identity = b.tzinfo.identity) (a.wall = b.wall)
    (a.instant = b.instant ∧ ¬ a.foldMatters ∧ ¬ b.foldMatters)))

/-- `a < b`. -/
def pyLt (a b : ZonedTime) : Prop :=
  if a.tzinfo.identity = b.tzinfo.identity then a.wall < b.wall else a.instant < b.instant

instance (a b : ZonedTime) : Decidable (a.pyLt b) :=
  inferInstanceAs (Decidable (ite (a.tzinfo.identity = b.tzinfo.identity) (a.wall < b.wall)
    (a.instant < b.instant)))

end ZonedTime

end ProofFlow
