import Mathlib.Algebra.Order.Round
import Mathlib.Data.Int.Log
import Mathlib.Tactic.Linarith
import Mathlib.Tactic.FieldSimp
import Mathlib.Tactic.Ring

/-!
# Rounding

Rounding to the nearest integer with ties to even, where it differs from rounding with ties upwards
(Mathlib's `round`), and rounding of a positive number to a number of significant digits in a base:
which numbers are reached, and how far the result is away.
-/

namespace Kit

variable {α : Type*} [Field α] [LinearOrder α] [IsStrictOrderedRing α] [FloorRing α]

/-! ## Ties to even -/

/-- The nearest integer, and of two nearest ones the even one. -/
def roundEven (x : α) : ℤ :=
  if Int.fract x < 1 / 2 then ⌊x⌋
  else if 1 / 2 < Int.fract x then ⌊x⌋ + 1
  else if Even ⌊x⌋ then ⌊x⌋ else ⌊x⌋ + 1

theorem roundEven_intCast (n : ℤ) : roundEven (n : α) = n := by
  have hhalf : (0 : α) < 1 / 2 := by positivity
  unfold roundEven
  rw [Int.fract_intCast, if_pos hhalf, Int.floor_intCast]

omit [IsStrictOrderedRing α] in
theorem floor_le_roundEven (x : α) : ⌊x⌋ ≤ roundEven x := by
  unfold roundEven
  split_ifs <;> omega

omit [IsStrictOrderedRing α] in
theorem roundEven_le_floor_add_one (x : α) : roundEven x ≤ ⌊x⌋ + 1 := by
  unfold roundEven
  split_ifs <;> omega

omit [IsStrictOrderedRing α] in
/-- An integer bound is kept. -/
theorem le_roundEven {x : α} {n : ℤ} (h : (n : α) ≤ x) : n ≤ roundEven x :=
  (Int.le_floor.2 h).trans (floor_le_roundEven x)

theorem roundEven_le {x : α} {n : ℤ} (h : x ≤ n) : roundEven x ≤ n := by
  rcases h.lt_or_eq with hlt | rfl
  · have hfloor : ⌊x⌋ < n := Int.floor_lt.2 hlt
    have hle := roundEven_le_floor_add_one x
    omega
  · exact (roundEven_intCast n).le

/-- An integer is reached from less than half a unit below it, and from half a unit below it if it
is even. -/
theorem le_roundEven_iff {x : α} {n : ℤ} :
    n ≤ roundEven x ↔ (n : α) - 1 / 2 < x ∨ ((n : α) - 1 / 2 = x ∧ Even n) := by
  have hx := Int.floor_add_fract x
  have hnonneg := Int.fract_nonneg x
  have hlt := Int.fract_lt_one x
  rcases lt_trichotomy n (⌊x⌋ + 1) with hbelow | rfl | habove
  · have hle : n ≤ ⌊x⌋ := Int.lt_add_one_iff.1 hbelow
    have hcast : (n : α) ≤ ⌊x⌋ := by exact_mod_cast hle
    refine iff_of_true (hle.trans (floor_le_roundEven x)) (.inl ?_)
    linarith
  · unfold roundEven
    push_cast
    by_cases hlow : Int.fract x < 1 / 2
    · rw [if_pos hlow]
      refine iff_of_false (by omega) ?_
      rintro (h | ⟨h, -⟩) <;> linarith
    · rw [if_neg hlow]
      by_cases hhigh : 1 / 2 < Int.fract x
      · rw [if_pos hhigh]
        exact iff_of_true le_rfl (.inl (by linarith))
      · rw [if_neg hhigh, Int.even_add_one]
        have hhalf : Int.fract x = 1 / 2 := le_antisymm (not_lt.1 hhigh) (not_lt.1 hlow)
        by_cases heven : Even ⌊x⌋
        · rw [if_pos heven]
          refine iff_of_false (by omega) ?_
          rintro (h | ⟨-, h⟩)
          · linarith
          · exact h heven
        · rw [if_neg heven]
          exact iff_of_true le_rfl (.inr ⟨by linarith, heven⟩)
  · have hnext : ⌊x⌋ + 2 ≤ n := by omega
    have hcast : (⌊x⌋ : α) + 2 ≤ n := by exact_mod_cast hnext
    refine iff_of_false ?_ ?_
    · have hle := roundEven_le_floor_add_one x
      omega
    · rintro (h | ⟨h, -⟩) <;> linarith

theorem abs_roundEven_sub_le (x : α) : |(roundEven x : α) - x| ≤ 1 / 2 := by
  rw [abs_le]
  constructor
  · by_contra hlow
    have hreached : roundEven x + 1 ≤ roundEven x := by
      refine le_roundEven_iff.2 (.inl ?_)
      push_cast
      linarith
    omega
  · rcases le_roundEven_iff.1 (le_refl (roundEven x)) with h | ⟨h, -⟩ <;> linarith

/-- Ties to even and ties upwards differ half a unit after an even integer. -/
theorem roundEven_eq_round_iff {x : α} :
    roundEven x = round x ↔ ¬ ∃ n : ℤ, Even n ∧ x = n + 1 / 2 := by
  have hfloor := Int.floor_le (x + 1 / 2)
  have hle : roundEven x ≤ ⌊x + 1 / 2⌋ := by
    rw [Int.le_floor]
    rcases le_roundEven_iff.1 (le_refl (roundEven x)) with h | ⟨h, -⟩ <;> linarith
  rw [round_eq]
  constructor
  · rintro heq ⟨n, heven, rfl⟩
    have hnext : ⌊(n : α) + 1 / 2 + 1 / 2⌋ = n + 1 := by
      rw [Int.floor_eq_iff]
      push_cast
      constructor <;> linarith
    rcases le_roundEven_iff.1 (heq.trans hnext).ge with h | ⟨-, hodd⟩
    · push_cast at h
      linarith
    · exact Int.even_add_one.1 hodd heven
  · intro hnone
    refine le_antisymm hle (le_roundEven_iff.2 ?_)
    rcases (show (⌊x + 1 / 2⌋ : α) - 1 / 2 ≤ x by linarith).lt_or_eq with hlt | heq
    · exact .inl hlt
    · refine .inr ⟨heq, ?_⟩
      by_contra hodd
      refine hnone ⟨⌊x + 1 / 2⌋ - 1, Int.even_sub_one.2 hodd, ?_⟩
      push_cast
      linarith

/-! ## Significant digits -/

/-- The exponent of the last of `p` significant digits of a positive number. -/
def lastDigit (b p : ℕ) (x : α) : ℤ := Int.log b x + 1 - p

/-- A positive number rounded to `p` significant digits in base `b`, ties to even. -/
def significant (b p : ℕ) (x : α) : α :=
  roundEven (x / (b : α) ^ lastDigit b p x) * (b : α) ^ lastDigit b p x

section Significant

variable {b p : ℕ} {x : α}

theorem zpow_base_pos (hb : 1 < b) (e : ℤ) : (0 : α) < (b : α) ^ e := by
  have hpos : (0 : α) < b := by exact_mod_cast Nat.lt_trans Nat.zero_lt_one hb
  exact zpow_pos hpos e

/-- A number that fits into the digits is not changed. -/
theorem significant_eq_self (hb : 1 < b) {m : ℤ} {e : ℤ} (hx : x = m * (b : α) ^ e)
    (he : lastDigit b p x ≤ e) : significant b p x = x := by
  have hbase : (b : α) ≠ 0 := by
    have hpos : 0 < b := by omega
    exact_mod_cast hpos.ne'
  obtain ⟨k, hk⟩ : ∃ k : ℕ, e = lastDigit b p x + k := ⟨(e - lastDigit b p x).toNat, by omega⟩
  have hquotient : x / (b : α) ^ lastDigit b p x = ((m * (b : ℤ) ^ k : ℤ) : α) := by
    rw [div_eq_iff (zpow_base_pos hb _).ne']
    conv_lhs => rw [hx, hk]
    rw [zpow_add₀ hbase, zpow_natCast]
    push_cast
    ring
  unfold significant
  rw [hquotient, roundEven_intCast, ← hquotient, div_mul_cancel₀ _ (zpow_base_pos hb _).ne']

/-- A power of the base below a number stays below it. -/
theorem zpow_log_le_significant (hb : 1 < b) (hp : 0 < p) (hx : 0 < x) :
    (b : α) ^ Int.log b x ≤ significant b p x := by
  have hunit := zpow_base_pos (α := α) hb (lastDigit b p x)
  have hbase : (b : α) ≠ 0 := by
    have hpos : 0 < b := by omega
    exact_mod_cast hpos.ne'
  have hsplit : (b : α) ^ Int.log b x =
      ((b ^ (p - 1) : ℕ) : α) * (b : α) ^ lastDigit b p x := by
    rw [Nat.cast_pow, ← zpow_natCast, ← zpow_add₀ hbase]
    congr 1
    unfold lastDigit
    omega
  have hle : ((b ^ (p - 1) : ℕ) : α) ≤ x / (b : α) ^ lastDigit b p x := by
    rw [le_div_iff₀ hunit, ← hsplit]
    exact Int.zpow_log_le_self hb hx
  have hround : ((b ^ (p - 1) : ℕ) : ℤ) ≤ roundEven (x / (b : α) ^ lastDigit b p x) :=
    le_roundEven (by exact_mod_cast hle)
  unfold significant
  rw [hsplit]
  refine mul_le_mul_of_nonneg_right ?_ hunit.le
  exact_mod_cast hround

theorem significant_pos (hb : 1 < b) (hp : 0 < p) (hx : 0 < x) : 0 < significant b p x :=
  (zpow_base_pos hb _).trans_le (zpow_log_le_significant hb hp hx)

/-- A rounded number is at most the next power of the base. -/
theorem significant_le_zpow (hb : 1 < b) :
    significant b p x ≤ (b : α) ^ (Int.log b x + 1) := by
  have hunit := zpow_base_pos (α := α) hb (lastDigit b p x)
  have hbase : (b : α) ≠ 0 := by
    have hpos : 0 < b := by omega
    exact_mod_cast hpos.ne'
  have hsplit : (b : α) ^ (Int.log b x + 1) = ((b ^ p : ℕ) : α) * (b : α) ^ lastDigit b p x := by
    rw [Nat.cast_pow, ← zpow_natCast, ← zpow_add₀ hbase]
    congr 1
    unfold lastDigit
    omega
  have hle : x / (b : α) ^ lastDigit b p x ≤ ((b ^ p : ℕ) : α) := by
    rw [div_le_iff₀ hunit, ← hsplit]
    exact (Int.lt_zpow_succ_log_self hb x).le
  have hround : roundEven (x / (b : α) ^ lastDigit b p x) ≤ ((b ^ p : ℕ) : ℤ) :=
    roundEven_le (by exact_mod_cast hle)
  unfold significant
  rw [hsplit]
  refine mul_le_mul_of_nonneg_right ?_ hunit.le
  exact_mod_cast hround

/-- Multiples of the last digit are reached as integers are. -/
theorem le_significant_iff (hb : 1 < b) {n : ℤ} :
    (n : α) * (b : α) ^ lastDigit b p x ≤ significant b p x ↔
      n ≤ roundEven (x / (b : α) ^ lastDigit b p x) := by
  unfold significant
  rw [mul_le_mul_iff_left₀ (zpow_base_pos hb _), Int.cast_le]

/-- A number that fits into the digits and is not above another one is reached by it. -/
theorem le_significant (hb : 1 < b) (hp : 0 < p) {y : α} (hx : 0 < x) (hxy : x ≤ y)
    (hfits : significant b p x = x) : x ≤ significant b p y := by
  have hy := hx.trans_le hxy
  rcases (Int.log_mono_right hx hxy : Int.log b x ≤ Int.log b y).lt_or_eq with hlt | heq
  · have hbase : (1 : α) ≤ b := by exact_mod_cast hb.le
    calc x ≤ (b : α) ^ (Int.log b x + 1) := (Int.lt_zpow_succ_log_self hb x).le
      _ ≤ (b : α) ^ Int.log b y := zpow_le_zpow_right₀ hbase hlt
      _ ≤ significant b p y := zpow_log_le_significant hb hp hy
  · have hunit := zpow_base_pos (α := α) hb (lastDigit b p y)
    have hlast : lastDigit b p x = lastDigit b p y := by
      unfold lastDigit
      rw [heq]
    have hself : x = roundEven (x / (b : α) ^ lastDigit b p y) * (b : α) ^ lastDigit b p y := by
      conv_lhs => rw [← hfits, significant, hlast]
    rw [hself, le_significant_iff hb]
    apply le_roundEven
    rw [le_div_iff₀ hunit, ← hself]
    exact hxy

/-- The result is at most half a unit of the last digit away. -/
theorem abs_significant_sub_le (hb : 1 < b) :
    |significant b p x - x| ≤ (b : α) ^ lastDigit b p x / 2 := by
  have hunit := zpow_base_pos (α := α) hb (lastDigit b p x)
  have hround := abs_roundEven_sub_le (x / (b : α) ^ lastDigit b p x)
  have hsplit : significant b p x - x =
      (roundEven (x / (b : α) ^ lastDigit b p x) - x / (b : α) ^ lastDigit b p x) *
        (b : α) ^ lastDigit b p x := by
    unfold significant
    rw [sub_mul, div_mul_cancel₀ _ hunit.ne']
  rw [hsplit, abs_mul, abs_of_pos hunit]
  linarith [mul_le_mul_of_nonneg_right hround hunit.le]

/-- The last digit is small beside the number. -/
theorem zpow_lastDigit_le (hb : 1 < b) (hx : 0 < x) :
    (b : α) ^ lastDigit b p x ≤ x * (b : α) ^ (1 - p : ℤ) := by
  have hbase : (b : α) ≠ 0 := by
    have hpos : 0 < b := by omega
    exact_mod_cast hpos.ne'
  have hsplit : (b : α) ^ lastDigit b p x = (b : α) ^ Int.log b x * (b : α) ^ (1 - p : ℤ) := by
    rw [← zpow_add₀ hbase]
    congr 1
    unfold lastDigit
    omega
  rw [hsplit]
  exact mul_le_mul_of_nonneg_right (Int.zpow_log_le_self hb hx) (zpow_base_pos hb _).le

end Significant

end Kit
