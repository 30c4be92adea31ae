import ProofFlow.DecimalText
import ProofFlow.Kit.Rounding
import ProofFlow.Value

/-!
# Decimal arithmetic

Python's default decimal context: 28 significant digits, ties to even, exponents up to 999999, and
traps for overflow and invalid operations.  An exact result that needs more digits is rounded.
-/

namespace ProofFlow

open Kit

namespace Decimal

/-! ## The context -/

def prec : ℕ := 28

def emax : ℤ := 999999

def emin : ℤ := -999999

/-- The smallest exponent of a result. -/
def etiny : ℤ := emin - prec + 1

/-- The largest exponent of a result with all digits. -/
def etop : ℤ := emax - prec + 1

/-- `c / 10^k` as an integer, ties to even. -/
def halfEven (c k : ℕ) : ℕ :=
  if 10 ^ k < 2 * (c % 10 ^ k) ∨
    (2 * (c % 10 ^ k) = 10 ^ k ∧ c / 10 ^ k % 2 = 1) then c / 10 ^ k + 1
  else c / 10 ^ k

/-- `c / 10^k` as an integer, ties upwards. -/
def halfUp (c k : ℕ) : ℕ :=
  if 10 ^ k ≤ 2 * (c % 10 ^ k) then c / 10 ^ k + 1 else c / 10 ^ k

/-- An exact result as the context returns it. -/
def fix (negative : Bool) (coefficient : ℕ) (exponent : ℤ) : Except Fault Decimal :=
  if coefficient = 0 then .ok (.finite negative 0 (min (max exponent etiny) emax))
  else
    let least := digits coefficient + exponent - prec
    let target := max least etiny
    let rounded := halfEven coefficient (target - exponent).toNat
    if etop < least then .error .decimalOverflow
    else if target ≤ exponent then .ok (.finite negative coefficient exponent)
    else if digits rounded ≤ prec then .ok (.finite negative rounded target)
    else if etop < target + 1 then .error .decimalOverflow
    else .ok (.finite negative (rounded / 10) (target + 1))

/-- `Decimal(n)`. -/
def ofInt (n : ℤ) : Decimal := .finite (decide (n < 0)) n.natAbs 0

/-- `a + b` of finite values. -/
def add : Decimal → Decimal → Except Fault Decimal
  | .finite n c e, .finite n' c' e' =>
    let sum := scaled n c e (min e e') + scaled n' c' e' (min e e')
    fix (if sum = 0 then n && n' else decide (sum < 0)) sum.natAbs (min e e')
  | _, _ => .error .invalidOperation

/-- `a * b` of finite values. -/
def mul : Decimal → Decimal → Except Fault Decimal
  | .finite n c e, .finite n' c' e' => fix (n != n') (c * c') (e + e')
  | _, _ => .error .invalidOperation

/-- `a < b` of finite values. -/
def lt (a b : Decimal) : Bool := !finiteLe b a

/-- `min(a, b)` of finite values. -/
def min2 (a b : Decimal) : Decimal := if lt b a then b else a

/-- `value.quantize(Decimal("0.01"), rounding=ROUND_HALF_UP)` of a finite value. -/
def quantizeCents : Decimal → Except Fault Decimal
  | .finite n c e =>
    let rounded := if -2 ≤ e then c * 10 ^ (e + 2).toNat else halfUp c (-2 - e).toNat
    if c = 0 then .ok (.finite n 0 (-2))
    else if prec < digits c + e + 2 then .error .invalidOperation
    else if prec < digits rounded then .error .invalidOperation
    else .ok (.finite n rounded (-2))
  | _ => .error .invalidOperation

example : mul (.finite false 25 (-1)) (.finite false 300 (-2)) = .ok (.finite false 7500 (-3)) := by
  decide

example : quantizeCents (.finite false 12345 (-3)) = .ok (.finite false 1235 (-2)) := by decide

/-! ## What a result is -/

/-- The magnitude of a finite value. -/
def magnitude (c : ℕ) (e : ℤ) : ℚ := c * 10 ^ e

section Magnitude

variable {n : Bool} {c : ℕ} {e : ℤ}

theorem value_finite (n : Bool) (c : ℕ) (e : ℤ) :
    value (.finite n c e) = (if n then -1 else 1) * magnitude c e := by
  simp only [value, magnitude, mul_assoc]

theorem value_positive (c : ℕ) (e : ℤ) : value (.finite false c e) = magnitude c e := by
  simp [value_finite]

theorem zpow_ten_pos (e : ℤ) : (0 : ℚ) < 10 ^ e := zpow_pos (by norm_num) e

theorem magnitude_pos (hc : c ≠ 0) : 0 < magnitude c e :=
  mul_pos (by exact_mod_cast Nat.pos_of_ne_zero hc) (zpow_ten_pos e)

theorem magnitude_eq_zero_iff : magnitude c e = 0 ↔ c = 0 := by
  unfold magnitude
  rw [mul_eq_zero, or_iff_left (zpow_ten_pos e).ne']
  exact Nat.cast_eq_zero

theorem digits_le_iff {k : ℕ} (hk : 0 < k) : digits c ≤ k ↔ c < 10 ^ k :=
  Nat.length_toDigits_le_iff (by decide) hk

/-- A coefficient lies between two powers of ten. -/
theorem pow_digits_le (hc : c ≠ 0) : 10 ^ (digits c - 1) ≤ c := by
  by_cases hone : digits c = 1
  · rw [hone]
    exact Nat.pos_of_ne_zero hc
  · have hpos := digits_pos (c := c)
    have hnot : ¬ digits c ≤ digits c - 1 := by omega
    rw [digits_le_iff (by omega)] at hnot
    omega

theorem lt_pow_digits : c < 10 ^ digits c := (digits_le_iff digits_pos).1 (le_refl _)

/-- The position of the first digit. -/
theorem log_magnitude (hc : c ≠ 0) : Int.log 10 (magnitude c e) = digits c - 1 + e := by
  have hpos := digits_pos (c := c)
  have hx := magnitude_pos (e := e) hc
  have hlow : ((10 : ℕ) : ℚ) ^ ((digits c : ℤ) - 1 + e) ≤ magnitude c e := by
    have hcast : (digits c : ℤ) - 1 = (digits c - 1 : ℕ) := by omega
    rw [Nat.cast_ofNat, zpow_add₀ (by norm_num), hcast, zpow_natCast]
    refine mul_le_mul_of_nonneg_right ?_ (zpow_ten_pos e).le
    exact_mod_cast pow_digits_le hc
  have hhigh : magnitude c e < ((10 : ℕ) : ℚ) ^ ((digits c : ℤ) - 1 + e + 1) := by
    have hsplit : (digits c : ℤ) - 1 + e + 1 = digits c + e := by omega
    rw [hsplit, Nat.cast_ofNat, zpow_add₀ (by norm_num), zpow_natCast]
    refine mul_lt_mul_of_pos_right ?_ (zpow_ten_pos e)
    exact_mod_cast lt_pow_digits
  have hle := (Int.zpow_le_iff_le_log (by decide) hx).1 hlow
  have hlt := (Int.lt_zpow_iff_log_lt (by decide) hx).1 hhigh
  omega

theorem lastDigit_magnitude (hc : c ≠ 0) :
    lastDigit 10 prec (magnitude c e) = digits c + e - prec := by
  unfold lastDigit
  rw [log_magnitude hc]
  omega

theorem floor_quotient (c k : ℕ) : ⌊(c : ℚ) / 10 ^ k⌋ = (c / 10 ^ k : ℕ) := by
  have hnat := Rat.floor_natCast_div_natCast c (10 ^ k)
  push_cast at hnat ⊢
  exact hnat

theorem fract_quotient (c k : ℕ) : Int.fract ((c : ℚ) / 10 ^ k) = (c % 10 ^ k : ℕ) / 10 ^ k := by
  have hpow : (0 : ℚ) < 10 ^ k := by positivity
  have hsplit : (c : ℚ) = (10 ^ k * (c / 10 ^ k) + c % 10 ^ k : ℕ) := by rw [Nat.div_add_mod]
  have heq : (c : ℚ) / 10 ^ k - (c / 10 ^ k : ℕ) = (c % 10 ^ k : ℕ) / 10 ^ k := by
    rw [div_sub' hpow.ne', div_left_inj' hpow.ne']
    conv_lhs => rw [hsplit]
    push_cast
    ring
  rw [Int.fract, floor_quotient]
  exact_mod_cast heq

theorem halfEven_eq (c k : ℕ) : (halfEven c k : ℤ) = roundEven ((c : ℚ) / 10 ^ k) := by
  have hpow : (0 : ℚ) < 10 ^ k := by positivity
  have hfloor := floor_quotient c k
  have hfract := fract_quotient c k
  have hlt : Int.fract ((c : ℚ) / 10 ^ k) < 1 / 2 ↔ 2 * (c % 10 ^ k) < 10 ^ k := by
    rw [hfract, div_lt_iff₀ hpow, div_mul_eq_mul_div, one_mul, lt_div_iff₀ (by norm_num)]
    constructor
    · intro h
      have hnat : c % 10 ^ k * 2 < 10 ^ k := by exact_mod_cast h
      omega
    · intro h
      have hnat : c % 10 ^ k * 2 < 10 ^ k := by omega
      exact_mod_cast hnat
  have hgt : 1 / 2 < Int.fract ((c : ℚ) / 10 ^ k) ↔ 10 ^ k < 2 * (c % 10 ^ k) := by
    rw [hfract, lt_div_iff₀ hpow, div_mul_eq_mul_div, one_mul, div_lt_iff₀ (by norm_num)]
    constructor
    · intro h
      have hnat : 10 ^ k < c % 10 ^ k * 2 := by exact_mod_cast h
      omega
    · intro h
      have hnat : 10 ^ k < c % 10 ^ k * 2 := by omega
      exact_mod_cast hnat
  have heven : Even ((c / 10 ^ k : ℕ) : ℤ) ↔ c / 10 ^ k % 2 = 0 := by
    rw [Int.even_coe_nat, Nat.even_iff]
  unfold halfEven roundEven
  simp only [hlt, hgt, hfloor, heven]
  generalize c / 10 ^ k = q
  generalize c % 10 ^ k = r
  split_ifs <;> omega

theorem halfUp_eq (c k : ℕ) : (halfUp c k : ℤ) = round ((c : ℚ) / 10 ^ k) := by
  have hpow : (0 : ℚ) < 10 ^ k := by positivity
  have hsum := Int.floor_add_fract ((c : ℚ) / 10 ^ k)
  have hnonneg := Int.fract_nonneg ((c : ℚ) / 10 ^ k)
  have hlt := Int.fract_lt_one ((c : ℚ) / 10 ^ k)
  rw [floor_quotient, Int.cast_natCast] at hsum
  have hhalf : 1 / 2 ≤ Int.fract ((c : ℚ) / 10 ^ k) ↔ 10 ^ k ≤ 2 * (c % 10 ^ k) := by
    rw [fract_quotient, le_div_iff₀ hpow, div_mul_eq_mul_div, one_mul, div_le_iff₀ (by norm_num)]
    constructor
    · intro h
      have hnat : 10 ^ k ≤ c % 10 ^ k * 2 := by exact_mod_cast h
      omega
    · intro h
      have hnat : 10 ^ k ≤ c % 10 ^ k * 2 := by omega
      exact_mod_cast hnat
  unfold halfUp
  rw [round_eq, eq_comm, Int.floor_eq_iff]
  by_cases hup : 10 ^ k ≤ 2 * (c % 10 ^ k)
  · have hfract := hhalf.2 hup
    rw [if_pos hup]
    simp only [Nat.cast_add, Nat.cast_one, Int.cast_add, Int.cast_natCast, Int.cast_one]
    constructor <;> linarith
  · have hfract := not_le.1 (mt hhalf.1 hup)
    rw [if_neg hup]
    simp only [Int.cast_natCast]
    constructor <;> linarith

/-! ## What the context returns -/

/-- The bound that no result reaches. -/
def ceiling : ℚ := 10 ^ (emax + 1)

/-- The numbers that the context has all digits for. -/
def Normal (x : ℚ) : Prop := (10 : ℚ) ^ emin ≤ x

theorem normal_magnitude_iff (hc : c ≠ 0) :
    Normal (magnitude c e) ↔ etiny ≤ digits c + e - prec := by
  have hx := magnitude_pos (e := e) hc
  have hlog := Int.zpow_le_iff_le_log (b := 10) (x := emin) (by decide) hx
  rw [Nat.cast_ofNat, log_magnitude hc] at hlog
  unfold Normal
  rw [hlog]
  unfold etiny
  omega

/-- An exact result with its last digit at `target` or later is cut off at `target`. -/
theorem quotient_eq {target : ℤ} (h : e ≤ target) :
    magnitude c e / 10 ^ target = (c : ℚ) / 10 ^ (target - e).toNat := by
  have hsplit : (10 : ℚ) ^ target = 10 ^ e * 10 ^ (target - e).toNat := by
    rw [← zpow_natCast, ← zpow_add₀ (by norm_num), Int.toNat_of_nonneg (by omega)]
    congr 1
    omega
  unfold magnitude
  rw [hsplit, mul_comm (c : ℚ), mul_div_mul_left _ _ (zpow_ten_pos e).ne']

/-- What the context makes of a number with all digits: it is rounded, or it overflows. -/
theorem fix_normal (hc : c ≠ 0) (hnormal : Normal (magnitude c e)) :
    (significant 10 prec (magnitude c e) < ceiling ∧ ∃ c' e', fix n c e = .ok (.finite n c' e') ∧
        magnitude c' e' = significant 10 prec (magnitude c e)) ∨
      (ceiling ≤ significant 10 prec (magnitude c e) ∧ fix n c e = .error .decimalOverflow) := by
  have hx := magnitude_pos (e := e) hc
  have hlast := lastDigit_magnitude (e := e) hc
  have hlog := log_magnitude (e := e) hc
  have hprec : (prec : ℤ) = 28 := rfl
  have htop : etop = emax - 27 := rfl
  obtain ⟨least, hleast⟩ : ∃ least, (digits c : ℤ) + e - prec = least := ⟨_, rfl⟩
  have htarget : max least etiny = least := by
    have h := (normal_magnitude_iff hc).1 hnormal
    omega
  have hmono {a b : ℤ} (h : a ≤ b) : (10 : ℚ) ^ a ≤ 10 ^ b := zpow_le_zpow_right₀ (by norm_num) h
  have hlow : (10 : ℚ) ^ (least + 27) ≤ significant 10 prec (magnitude c e) := by
    have h := zpow_log_le_significant (b := 10) (p := prec) (by decide) (by decide) hx
    rw [Nat.cast_ofNat, hlog] at h
    refine le_trans (hmono ?_) h
    omega
  have hhigh : significant 10 prec (magnitude c e) ≤ 10 ^ (least + 28) := by
    have h := significant_le_zpow (b := 10) (p := prec) (x := magnitude c e) (by decide)
    rw [Nat.cast_ofNat, hlog] at h
    refine h.trans (hmono ?_)
    omega
  simp only [fix, if_neg hc, hleast, htarget]
  by_cases hover : etop < least
  · right
    refine ⟨le_trans (hmono ?_) hlow, if_pos hover⟩
    omega
  rw [if_neg hover]
  by_cases hexact : least ≤ e
  · left
    have hsame : significant 10 prec (magnitude c e) = magnitude c e := by
      refine significant_eq_self (m := c) (e := e) (by decide) ?_ (by omega)
      simp [magnitude]
    refine ⟨?_, c, e, if_pos hexact, hsame.symm⟩
    rw [hsame]
    have hlt := Int.lt_zpow_succ_log_self (b := 10) (by decide) (magnitude c e)
    rw [Nat.cast_ofNat, hlog] at hlt
    refine hlt.trans_le (hmono ?_)
    omega
  rw [if_neg hexact]
  obtain ⟨rounded, hrounded⟩ : ∃ r, halfEven c (least - e).toNat = r := ⟨_, rfl⟩
  have hvalue : significant 10 prec (magnitude c e) = magnitude rounded least := by
    have hquotient := quotient_eq (c := c) (show e ≤ least by omega)
    have hdigit : lastDigit 10 prec (magnitude c e) = least := by omega
    unfold significant
    rw [hdigit, Nat.cast_ofNat, hquotient, ← halfEven_eq, hrounded]
    rfl
  rw [hrounded]
  by_cases hfits : digits rounded ≤ prec
  · left
    refine ⟨?_, rounded, least, if_pos hfits, hvalue.symm⟩
    have hbound := (digits_le_iff (by decide)).1 hfits
    have hceiling : ceiling = 10 ^ prec * 10 ^ (emax - 27) := by
      have hexp : emax + 1 = prec + (emax - 27) := by omega
      unfold ceiling
      rw [hexp, zpow_add₀ (by norm_num), zpow_natCast]
    have hcoefficient : (rounded : ℚ) < 10 ^ prec := by exact_mod_cast hbound
    rw [hvalue, hceiling]
    unfold magnitude
    exact mul_lt_mul hcoefficient (hmono (by omega)) (zpow_ten_pos _) (by positivity)
  · rw [if_neg hfits]
    have hten : rounded = 10 ^ 28 := by
      have hge : 10 ^ 28 ≤ rounded := by
        rw [digits_le_iff (by decide)] at hfits
        exact not_lt.1 hfits
      have hle : (rounded : ℚ) * 10 ^ least ≤ 10 ^ (28 : ℕ) * 10 ^ least := by
        rw [hvalue] at hhigh
        refine hhigh.trans (le_of_eq ?_)
        rw [← zpow_natCast, ← zpow_add₀ (by norm_num), add_comm]
        rfl
      have hle' : (rounded : ℚ) ≤ 10 ^ (28 : ℕ) := le_of_mul_le_mul_right hle (zpow_ten_pos least)
      exact le_antisymm (by exact_mod_cast hle') hge
    have hpower : significant 10 prec (magnitude c e) = 10 ^ (least + 28) := by
      rw [hvalue, hten, zpow_add₀ (by norm_num), mul_comm]
      unfold magnitude
      push_cast
      rfl
    rw [hpower]
    by_cases hagain : etop < least + 1
    · right
      exact ⟨hmono (by omega), if_pos hagain⟩
    · left
      refine ⟨zpow_lt_zpow_right₀
        (by norm_num) (by omega), rounded / 10, least + 1, if_neg hagain, ?_⟩
      have hdiv : rounded / 10 = 10 ^ 27 := by rw [hten]; rfl
      unfold magnitude
      rw [hdiv, Nat.cast_pow, ← zpow_natCast, Nat.cast_ofNat, ← zpow_add₀ (by norm_num)]
      congr 1
      push_cast
      omega

/-- A number too small for all digits is small after rounding too. -/
theorem fix_tiny (hc : c ≠ 0) (htiny : ¬ Normal (magnitude c e)) :
    ∃ c' e', fix n c e = .ok (.finite n c' e') ∧ magnitude c' e' ≤ 10 ^ emin := by
  have hleast : (digits c : ℤ) + e - prec < etiny := by
    have h := mt (normal_magnitude_iff hc).2 htiny
    omega
  have htarget : max ((digits c : ℤ) + e - prec) etiny = etiny := by omega
  have hx : magnitude c e < 10 ^ emin := not_le.1 htiny
  have hetiny : etiny = emin - 27 := rfl
  have hetop : etop = emax - 27 := rfl
  have hemin : emin = -999999 := rfl
  have hemax : emax = 999999 := rfl
  simp only [fix, if_neg hc, htarget]
  rw [if_neg (by omega)]
  by_cases hexact : etiny ≤ e
  · exact ⟨c, e, if_pos hexact, hx.le⟩
  rw [if_neg hexact]
  obtain ⟨rounded, hrounded⟩ : ∃ r, halfEven c (etiny - e).toNat = r := ⟨_, rfl⟩
  have hpow : (10 : ℚ) ^ emin = ((10 ^ 27 : ℕ) : ℚ) * 10 ^ etiny := by
    rw [Nat.cast_pow, ← zpow_natCast, Nat.cast_ofNat, ← zpow_add₀ (by norm_num)]
    congr 1
  have hle : rounded ≤ 10 ^ 27 := by
    have hquotient : magnitude c e / 10 ^ etiny ≤ ((10 ^ 27 : ℕ) : ℚ) := by
      rw [div_le_iff₀ (zpow_ten_pos _), ← hpow]
      exact hx.le
    rw [quotient_eq (by omega)] at hquotient
    have hround : roundEven ((c : ℚ) / 10 ^ (etiny - e).toNat) ≤ ((10 ^ 27 : ℕ) : ℤ) :=
      roundEven_le (by exact_mod_cast hquotient)
    rw [← halfEven_eq, hrounded] at hround
    exact_mod_cast hround
  have hfits : digits rounded ≤ prec := by
    rw [digits_le_iff (by decide)]
    exact hle.trans_lt (by decide)
  rw [hrounded, if_pos hfits]
  refine ⟨rounded, etiny, rfl, ?_⟩
  rw [hpow]
  refine mul_le_mul_of_nonneg_right ?_ (zpow_ten_pos _).le
  exact_mod_cast hle

theorem fix_zero : fix n 0 e = .ok (.finite n 0 (min (max e etiny) emax)) := rfl

/-- A number with few digits and a moderate exponent is its own result. -/
theorem fix_short (hc : c ≠ 0) (hdigits : digits c ≤ prec) (hlow : etiny ≤ e) (hhigh : e ≤ etop) :
    fix n c e = .ok (.finite n c e) := by
  have hprec : (prec : ℤ) = 28 := rfl
  simp only [fix, if_neg hc]
  rw [if_neg (by omega), if_pos (by omega)]

/-! ## Sums -/

theorem ofInt_natCast (m : ℕ) : ofInt (m : ℤ) = .finite false m 0 := by
  unfold ofInt
  rw [decide_eq_false (by omega), Int.natAbs_natCast]

theorem add_nonneg {c' : ℕ} {e' : ℤ} : add (.finite false c e) (.finite false c' e') =
    fix false (c * 10 ^ (e - min e e').toNat + c' * 10 ^ (e' - min e e').toNat) (min e e') := by
  have hscaled (c : ℕ) (e unit : ℤ) :
      scaled false c e unit = ((c * 10 ^ (e - unit).toNat : ℕ) : ℤ) := by
    simp [scaled]
  simp only [add, hscaled]
  rw [← Nat.cast_add, Int.natAbs_natCast]
  generalize c * 10 ^ (e - min e e').toNat + c' * 10 ^ (e' - min e e').toNat = sum
  have hsign : decide ((sum : ℤ) < 0) = false := decide_eq_false (by omega)
  rw [hsign]
  split_ifs <;> rfl

end Magnitude

end Decimal

end ProofFlow
