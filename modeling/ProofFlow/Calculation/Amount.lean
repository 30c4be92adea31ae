import ProofFlow.Calculation.Accepted

/-!
# The amount

The product of the effective wage and the effective coefficient is rounded three times: the wage cap
and the product to 28 significant digits, ties to even, and the product once more to cents, ties
upwards.  This file says what the computation returns as a rational number, when it is the exact
product rounded once, and when the arithmetic traps.
-/

namespace ProofFlow

open Kit

namespace Decimal

/-! ## Nonnegative decimals as rational numbers -/

/-- A nonnegative decimal of the given value. -/
def Is (d : Decimal) (x : ℚ) : Prop := ∃ c e, d = .finite false c e ∧ magnitude c e = x

section Is

variable {a b d : Decimal} {x y : ℚ}

theorem Is.nonneg (h : d.Is x) : 0 ≤ x := by
  obtain ⟨c, e, -, rfl⟩ := h
  exact mul_nonneg (Nat.cast_nonneg c) (zpow_ten_pos e).le

theorem Is.value_eq (h : d.Is x) : d.value = x := by
  obtain ⟨c, e, rfl, rfl⟩ := h
  exact value_positive c e

theorem scaled_eq {c : ℕ} {e unit : ℤ} (h : unit ≤ e) :
    ((scaled false c e unit : ℤ) : ℚ) = magnitude c e / 10 ^ unit := by
  obtain ⟨k, hk⟩ : ∃ k : ℕ, e = unit + k := ⟨(e - unit).toNat, by omega⟩
  have hexp : (e - unit).toNat = k := by omega
  have hsplit : (10 : ℚ) ^ e = 10 ^ unit * 10 ^ k := by
    rw [hk, zpow_add₀ (by norm_num), zpow_natCast]
  unfold scaled magnitude
  rw [hexp, hsplit, eq_div_iff (zpow_ten_pos unit).ne']
  push_cast
  ring

/-- Comparison is comparison of the values. -/
theorem Is.finiteLe_eq (ha : a.Is x) (hb : b.Is y) : finiteLe a b = decide (x ≤ y) := by
  obtain ⟨c, e, rfl, rfl⟩ := ha
  obtain ⟨c', e', rfl, rfl⟩ := hb
  unfold finiteLe
  rw [decide_eq_decide, ← Int.cast_le (R := ℚ), scaled_eq (min_le_left e e'),
    scaled_eq (min_le_right e e'), div_le_div_iff_of_pos_right (zpow_ten_pos _)]

theorem Is.lt_eq (ha : a.Is x) (hb : b.Is y) : lt a b = decide (x < y) := by
  unfold lt
  rw [hb.finiteLe_eq ha, ← decide_not, decide_eq_decide, not_le]

theorem Is.min2 (ha : a.Is x) (hb : b.Is y) : (min2 a b).Is (min x y) := by
  unfold Decimal.min2
  rw [hb.lt_eq ha]
  by_cases h : y < x
  · rw [if_pos (decide_eq_true h), min_eq_right h.le]
    exact hb
  · rw [if_neg (by simpa using h), min_eq_left (not_lt.1 h)]
    exact ha

theorem is_ofNat (n : ℕ) : (ofNat n).Is n := ⟨n, 0, rfl, by simp [magnitude]⟩

/-- A decimal that `gt=0` accepts. -/
theorem exists_is_of_isPositive (h : d.isPositive = true) : ∃ x, d.Is x ∧ 0 < x := by
  cases d with
  | finite n c e =>
    have hlt : lt (ofNat 0) (.finite n c e) = true := (Bool.and_eq_true_iff.1 h).2
    cases n with
    | true =>
      have hle : finiteLe (.finite true c e) (ofNat 0) = true := by
        unfold finiteLe ofNat scaled
        simp only [decide_eq_true_eq, if_true, Bool.false_eq_true, if_false, Nat.cast_zero,
          zero_mul]
        have hnonneg : (0 : ℤ) ≤ c * 10 ^ (e - min e 0).toNat := by positivity
        omega
      unfold lt at hlt
      rw [hle] at hlt
      cases hlt
    | false =>
      have his : (finite false c e).Is (magnitude c e) := ⟨c, e, rfl, rfl⟩
      rw [(is_ofNat 0).lt_eq his, decide_eq_true_eq, Nat.cast_zero] at hlt
      exact ⟨_, his, hlt⟩
  | infinity n => cases h
  | nan => cases h

end Is

/-! ## Products -/

section Products

variable {a b d : Decimal} {x y : ℚ}

/-- A bound for what is too small to be a cent. -/
def tinyBound : ℚ := 1 / 10 ^ 10

theorem Is.mul_cases (ha : a.Is x) (hb : b.Is y) : ∃ c e, mul a b = fix false c e ∧
    magnitude c e = x * y := by
  obtain ⟨c, e, rfl, rfl⟩ := ha
  obtain ⟨c', e', rfl, rfl⟩ := hb
  refine ⟨c * c', e + e', rfl, ?_⟩
  unfold magnitude
  rw [zpow_add₀ (by norm_num)]
  push_cast
  ring

/-- A product with all digits is rounded, or it overflows. -/
theorem Is.mul_normal (ha : a.Is x) (hb : b.Is y) (hnormal : Normal (x * y)) :
    (significant 10 prec (x * y) < ceiling ∧
        ∃ d, mul a b = .ok d ∧ d.Is (significant 10 prec (x * y))) ∨
      (ceiling ≤ significant 10 prec (x * y) ∧ mul a b = .error .decimalOverflow) := by
  obtain ⟨c, e, hmul, hxy⟩ := ha.mul_cases hb
  rw [hmul]
  rw [← hxy] at hnormal ⊢
  have hc : c ≠ 0 := by
    intro hzero
    have hpos : (0 : ℚ) < magnitude c e := (zpow_ten_pos emin).trans_le hnormal
    exact hpos.ne' (magnitude_eq_zero_iff.2 hzero)
  rcases fix_normal (n := false) hc hnormal with ⟨hlt, c', e', hfix, hvalue⟩ | hover
  · exact .inl ⟨hlt, _, hfix, c', e', rfl, hvalue⟩
  · exact .inr hover

theorem significant_zero (p : ℕ) : significant 10 p (0 : ℚ) = 0 := by
  unfold significant
  rw [zero_div]
  have hround : roundEven (0 : ℚ) = 0 := by
    have h := roundEven_intCast (α := ℚ) 0
    rwa [Int.cast_zero] at h
  rw [hround, Int.cast_zero, zero_mul]

/-- Rounding to digits does not make a number more than ten times as large. -/
theorem significant_le_mul_ten (hx : 0 ≤ x) : significant 10 prec x ≤ 10 * x := by
  rcases hx.eq_or_lt with rfl | hpos
  · rw [significant_zero]
    norm_num
  · have hle := significant_le_zpow (b := 10) (p := prec) (x := x) (by decide)
    have hlog := Int.zpow_log_le_self (b := 10) (by decide) hpos
    rw [Nat.cast_ofNat] at hle hlog
    rw [zpow_add₀ (by norm_num), zpow_one] at hle
    linarith

theorem significant_nonneg (hx : 0 ≤ x) : 0 ≤ significant 10 prec x := by
  rcases hx.eq_or_lt with rfl | hpos
  · rw [significant_zero]
  · exact (significant_pos (by decide) (by decide) hpos).le

theorem zpow_emin_le : (10 : ℚ) ^ emin ≤ tinyBound := by
  have hmono : (10 : ℚ) ^ emin ≤ 10 ^ (-10 : ℤ) := zpow_le_zpow_right₀ (by norm_num) (by decide)
  refine hmono.trans ?_
  unfold tinyBound
  rw [zpow_neg]
  norm_num

theorem tinyBound_lt_ceiling : 10 * tinyBound < ceiling := by
  have hone : (1 : ℚ) ≤ ceiling := by
    have hmono : (10 : ℚ) ^ (0 : ℤ) ≤ 10 ^ (emax + 1) :=
      zpow_le_zpow_right₀ (by norm_num) (by decide)
    rwa [zpow_zero] at hmono
  unfold tinyBound
  linarith

/-- A small product is small after rounding. -/
theorem Is.mul_small (ha : a.Is x) (hb : b.Is y) (hsmall : x * y ≤ tinyBound) :
    ∃ d z, mul a b = .ok d ∧ d.Is z ∧ z ≤ 10 * tinyBound := by
  have hpos : 0 < tinyBound := by
    unfold tinyBound
    norm_num
  by_cases hnormal : Normal (x * y)
  · have hle := significant_le_mul_ten (mul_nonneg ha.nonneg hb.nonneg)
    rcases ha.mul_normal hb hnormal with ⟨-, d, hd, his⟩ | ⟨hover, -⟩
    · exact ⟨d, _, hd, his, by linarith⟩
    · have hceiling := tinyBound_lt_ceiling
      linarith
  · obtain ⟨c, e, hmul, hxy⟩ := ha.mul_cases hb
    by_cases hc : c = 0
    · subst hc
      refine ⟨_, 0, hmul.trans fix_zero, ⟨0, _, rfl, by simp [magnitude]⟩, by linarith⟩
    · rw [← hxy] at hnormal
      obtain ⟨c', e', hfix, hle⟩ := fix_tiny (n := false) hc hnormal
      refine ⟨_, _, hmul.trans hfix, ⟨c', e', rfl, rfl⟩, ?_⟩
      have hbound := zpow_emin_le
      linarith

end Products

/-! ## Cents -/

section Cents

/-- Rounding to cents fails exactly if the cents do not fit into the digits. -/
theorem Is.quantizeCents_cases {d : Decimal} {x : ℚ} (h : d.Is x) :
    (round (100 * x) < 10 ^ 28 ∧ ∃ amount, quantizeCents d = .ok amount ∧
        amount.value = (round (100 * x) : ℚ) / 100) ∨
      (10 ^ 28 ≤ round (100 * x) ∧ quantizeCents d = .error .invalidOperation) := by
  obtain ⟨c, e, rfl, rfl⟩ := h
  by_cases hc : c = 0
  · subst hc
    left
    simp [magnitude, quantizeCents, value]
  obtain ⟨rounded, hrounded⟩ : ∃ r : ℕ,
      r = if -2 ≤ e then c * 10 ^ (e + 2).toNat else halfUp c (-2 - e).toNat := ⟨_, rfl⟩
  have hvalue : (rounded : ℤ) = round (100 * magnitude c e) := by
    rw [hrounded]
    by_cases he : -2 ≤ e
    · obtain ⟨k, hk⟩ : ∃ k : ℕ, e = k - 2 := ⟨(e + 2).toNat, by omega⟩
      have hexp : (e + 2).toNat = k := by omega
      have hcents : 100 * magnitude c e = ((c * 10 ^ k : ℕ) : ℤ) := by
        unfold magnitude
        rw [hk, zpow_sub₀ (by norm_num), zpow_natCast]
        push_cast
        ring
      rw [if_pos he, hexp, hcents, round_intCast]
    · obtain ⟨k, hk⟩ : ∃ k : ℕ, e = -2 - k := ⟨(-2 - e).toNat, by omega⟩
      have hexp : (-2 - e).toNat = k := by omega
      have hcents : 100 * magnitude c e = (c : ℚ) / 10 ^ k := by
        unfold magnitude
        rw [hk, zpow_sub₀ (by norm_num), zpow_natCast]
        norm_num
        ring
      rw [if_neg he, hexp, hcents, halfUp_eq]
  have hlow : prec < digits c + e + 2 → 10 ^ 28 ≤ round (100 * magnitude c e) := by
    intro hdigits
    have hlog := Int.zpow_log_le_self (b := 10) (by decide) (magnitude_pos (e := e) hc)
    rw [Nat.cast_ofNat, log_magnitude hc] at hlog
    have hmono : (10 : ℚ) ^ (26 : ℤ) ≤ 10 ^ ((digits c : ℤ) - 1 + e) := by
      refine zpow_le_zpow_right₀ (by norm_num) ?_
      have hprec : (prec : ℤ) = 28 := rfl
      omega
    rw [round_eq, Int.le_floor]
    have hbig : (10 : ℚ) ^ (26 : ℤ) = 10 ^ 26 := by norm_cast
    push_cast
    linarith
  have hfits : digits rounded ≤ prec ↔ round (100 * magnitude c e) < 10 ^ 28 := by
    rw [digits_le_iff (by decide), ← hvalue]
    norm_cast
  unfold quantizeCents
  simp only [← hrounded, if_neg hc]
  by_cases hover : prec < digits c + e + 2
  · exact .inr ⟨hlow hover, by rw [if_pos hover]⟩
  rw [if_neg hover]
  by_cases hlong : prec < digits rounded
  · right
    rw [if_pos hlong]
    refine ⟨?_, rfl⟩
    rw [← not_lt, ← hfits, not_le]
    exact hlong
  · left
    rw [if_neg hlong]
    refine ⟨hfits.1 (not_lt.1 hlong), _, rfl, ?_⟩
    rw [value_positive, ← hvalue]
    unfold magnitude
    rw [zpow_neg]
    norm_num
    ring

end Cents

end Decimal

/-! ## The computation -/

/-- The effective wage times the effective coefficient, for a wage, a cap and a coefficient. -/
def effective (wage cap coefficient : ℚ) : ℚ :=
  min wage cap * if cap < wage then min coefficient 12 else coefficient

/-- `w * c` over the rationals. -/
def exactProduct (wage average coefficient : ℚ) : ℚ := effective wage (3 * average) coefficient

/-- The cap rounded to 28 significant digits. -/
def roundedCap (average : ℚ) : ℚ := significant 10 Decimal.prec (3 * average)

/-- The product with the cap and the product rounded to 28 significant digits. -/
def roundedProduct (wage average coefficient : ℚ) : ℚ :=
  significant 10 Decimal.prec (effective wage (roundedCap average) coefficient)

/-- An amount in cents. -/
def cents (x : ℚ) : ℤ := round (100 * x)

section Compute

open Decimal

variable {p : CompensationParameters} {coefficient : Decimal} {wage average x cap : ℚ}

/-- A coefficient is a nonnegative decimal below ten thousand. -/
theorem exists_is_of_serviceCoefficient {start last : Date} {d : Decimal}
    (h : serviceCoefficient start last = .ok d) : ∃ x, d.Is x ∧ x ≤ 10 ^ 4 := by
  have horder : ¬ last < start := by
    intro hlt
    unfold serviceCoefficient at h
    rw [if_pos hlt] at h
    cases h
  obtain ⟨n, hn, hyears⟩ := exists_completed horder
  have hyear := last.valid.1.2
  have hstart := start.valid.1.1
  have hsmall : (n : ℚ) ≤ 9998 := by
    have hnat : n ≤ 9998 := by omega
    exact_mod_cast hnat
  obtain ⟨passed, -, heq⟩ := serviceCoefficient_eq horder hn
  rw [heq] at h
  unfold addRest at h
  split at h
  · rw [← Except.ok.inj h, ofInt_natCast]
    exact ⟨n, ⟨n, 0, rfl, by simp [magnitude]⟩, by linarith⟩
  · obtain ⟨half, -, h⟩ := bind_eq_ok.1 h
    split at h
    · rw [add_half (by omega)] at h
      rw [← Except.ok.inj h]
      refine ⟨_, ⟨_, _, rfl, rfl⟩, ?_⟩
      unfold magnitude
      push_cast
      rw [zpow_neg]
      norm_num
      linarith
    · rw [add_one (by omega)] at h
      rw [← Except.ok.inj h]
      refine ⟨_, ⟨_, _, rfl, rfl⟩, ?_⟩
      unfold magnitude
      push_cast
      norm_num
      linarith

theorem cents_eq_zero {y : ℚ} (h0 : 0 ≤ y) (h : y ≤ 1 / 10 ^ 3) : cents y = 0 := by
  unfold cents
  rw [round_eq, Int.floor_eq_zero_iff, Set.mem_Ico]
  constructor <;> linarith

theorem tinyBound_eq : tinyBound = 1 / 10 ^ 10 := rfl

theorem le_cents {y : ℚ} (h : ceiling ≤ y) : 10 ^ 28 ≤ cents y := by
  have hmono : (10 : ℚ) ^ (28 : ℤ) ≤ 10 ^ (emax + 1) :=
    zpow_le_zpow_right₀ (by norm_num) (by decide)
  have hbig : (10 : ℚ) ^ (28 : ℤ) = 10 ^ 28 := by norm_cast
  have hceiling : (10 : ℚ) ^ (emax + 1) ≤ y := h
  unfold cents
  rw [round_eq, Int.le_floor]
  push_cast
  linarith

/-- A product in cents: it is rounded to the digits first, and it fails if the cents do not fit. -/
theorem mulCents_cases {a b : Decimal} {u v : ℚ} (ha : a.Is u) (hb : b.Is v) :
    (cents (significant 10 prec (u * v)) < 10 ^ 28 ∧ ∃ product amount, mul a b = .ok product ∧
        product.quantizeCents = .ok amount ∧
        amount.value = (cents (significant 10 prec (u * v)) : ℚ) / 100) ∨
      (10 ^ 28 ≤ cents (significant 10 prec (u * v)) ∧
        ∃ e, (mul a b >>= quantizeCents) = .error e) := by
  have huv := mul_nonneg ha.nonneg hb.nonneg
  by_cases hsmall : u * v ≤ tinyBound
  · obtain ⟨product, z, hproduct, his, hz⟩ := ha.mul_small hb hsmall
    have hzero : cents z = 0 := by
      refine cents_eq_zero his.nonneg (hz.trans ?_)
      unfold tinyBound
      norm_num
    have hzero' : cents (significant 10 prec (u * v)) = 0 := by
      refine cents_eq_zero (significant_nonneg huv) ((significant_le_mul_ten huv).trans ?_)
      rw [tinyBound_eq] at hsmall
      linarith
    left
    rcases his.quantizeCents_cases with ⟨-, amount, hamount, hvalue⟩ | ⟨hbig, -⟩
    · refine ⟨by rw [hzero']; norm_num, product, amount, hproduct, hamount, ?_⟩
      rw [hvalue, hzero']
      exact congrArg (fun n : ℤ => (n : ℚ) / 100) hzero
    · rw [show round (100 * z) = 0 from hzero] at hbig
      norm_num at hbig
  · have hnormal : Decimal.Normal (u * v) := zpow_emin_le.trans (not_le.1 hsmall).le
    rcases ha.mul_normal hb hnormal with ⟨-, product, hproduct, his⟩ | ⟨hover, herror⟩
    · rcases his.quantizeCents_cases with ⟨hlt, amount, hamount, hvalue⟩ | ⟨hbig, herror⟩
      · exact .inl ⟨hlt, product, amount, hproduct, hamount, hvalue⟩
      · exact .inr ⟨hbig, _, by rw [hproduct, ok_bind, herror]⟩
    · exact .inr ⟨le_cents hover, _, by rw [herror]; rfl⟩

/-- What the computation does with a wage cap: the amount is the product with that cap. -/
theorem compute_of_cap {capDecimal : Decimal} {capValue : ℚ}
    (hwage : p.monthlyWageAverage.val.Is wage) (hcoefficient : coefficient.Is x)
    (hmul : mul p.localPreviousYearMonthlyAverageWage.val (ofNat 3) = .ok capDecimal)
    (hcap : capDecimal.Is capValue) :
    (cents (significant 10 prec (effective wage capValue x)) < 10 ^ 28 ∧
        ∃ c, compute p coefficient = .ok c ∧
          c.amount.value = (cents (significant 10 prec (effective wage capValue x)) : ℚ) / 100) ∨
      (10 ^ 28 ≤ cents (significant 10 prec (effective wage capValue x)) ∧
        ∃ e, compute p coefficient = .error e) := by
  have hhigh := hcap.lt_eq hwage
  have heffective : (if lt capDecimal p.monthlyWageAverage.val then min2 coefficient (ofNat 12)
      else coefficient).Is (if capValue < wage then min x 12 else x) := by
    rw [hhigh]
    by_cases h : capValue < wage
    · simpa [h] using hcoefficient.min2 (is_ofNat 12)
    · simpa [h] using hcoefficient
  unfold compute
  rw [hmul, ok_bind]
  dsimp only
  rcases mulCents_cases (hwage.min2 hcap) heffective with
    ⟨hlt, product, amount, hproduct, hamount, hvalue⟩ | ⟨hbig, e, herror⟩
  · left
    refine ⟨hlt, ?_⟩
    rw [hproduct, ok_bind, hamount, ok_bind]
    exact ⟨_, rfl, hvalue⟩
  · right
    refine ⟨hbig, e, ?_⟩
    rcases bind_eq_error.1 herror with hfirst | ⟨product, hproduct, hsecond⟩
    · rw [hfirst]
      rfl
    · rw [hproduct, ok_bind, hsecond]
      rfl

theorem effective_le (hwage : 0 < wage) (hcap : 0 ≤ cap) (hx0 : 0 ≤ x) (hx : x ≤ 10 ^ 4) :
    0 ≤ effective wage cap x ∧ effective wage cap x ≤ cap * 10 ^ 4 := by
  have hfactor : 0 ≤ (if cap < wage then min x 12 else x) ∧
      (if cap < wage then min x 12 else x) ≤ 10 ^ 4 := by
    split_ifs
    · exact ⟨le_min hx0 (by norm_num), (min_le_left _ _).trans hx⟩
    · exact ⟨hx0, hx⟩
  unfold effective
  constructor
  · exact mul_nonneg (le_min hwage.le hcap) hfactor.1
  · exact mul_le_mul (min_le_right _ _) hfactor.2 hfactor.1 hcap

/-- With a small cap the amount is zero. -/
theorem cents_effective_eq_zero (hwage : 0 < wage) (hcap : 0 ≤ cap) (hx0 : 0 ≤ x) (hx : x ≤ 10 ^ 4)
    (hsmall : cap ≤ 10 * tinyBound) : cents (significant 10 prec (effective wage cap x)) = 0 := by
  obtain ⟨hnonneg, hle⟩ := effective_le hwage hcap hx0 hx
  refine cents_eq_zero (significant_nonneg hnonneg) ((significant_le_mul_ten hnonneg).trans ?_)
  rw [tinyBound_eq] at hsmall
  linarith

/-- The computation succeeds exactly if the rounded cap does not overflow and the cents of the
rounded product have at most 28 digits; the amount is that product in cents. -/
theorem compute_cases (hwage : p.monthlyWageAverage.val.Is wage) (hwage0 : 0 < wage)
    (haverage : p.localPreviousYearMonthlyAverageWage.val.Is average) (haverage0 : 0 < average)
    (hcoefficient : coefficient.Is x) (hx : x ≤ 10 ^ 4) :
    ((roundedCap average < ceiling ∧ cents (roundedProduct wage average x) < 10 ^ 28) ∧
        ∃ c, compute p coefficient = .ok c ∧
          c.amount.value = (cents (roundedProduct wage average x) : ℚ) / 100) ∨
      (¬ (roundedCap average < ceiling ∧ cents (roundedProduct wage average x) < 10 ^ 28) ∧
        ∃ e, compute p coefficient = .error e) := by
  have hthree : (ofNat 3).Is 3 := is_ofNat 3
  have hx0 := hcoefficient.nonneg
  have hcomm : average * 3 = 3 * average := mul_comm _ _
  by_cases hnormal : Decimal.Normal (average * 3)
  · have hmul := haverage.mul_normal hthree hnormal
    rw [hcomm] at hmul
    rcases hmul with ⟨hlt, capDecimal, hcapDecimal, hcap⟩ | ⟨hover, herror⟩
    · rcases compute_of_cap hwage hcoefficient hcapDecimal hcap with ⟨hfits, hc⟩ | ⟨hbig, he⟩
      · exact .inl ⟨⟨hlt, hfits⟩, hc⟩
      · exact .inr ⟨fun h => absurd h.2 (not_lt.2 hbig), he⟩
    · refine .inr ⟨fun h => absurd h.1 (not_lt.2 hover), .decimalOverflow, ?_⟩
      unfold compute
      rw [herror]
      rfl
  · have htiny : average * 3 ≤ tinyBound := (not_le.1 hnormal).le.trans zpow_emin_le
    have hrounded : roundedCap average ≤ 10 * tinyBound := by
      refine (significant_le_mul_ten (by positivity)).trans ?_
      linarith
    have hrounded0 : 0 ≤ roundedCap average := significant_nonneg (by positivity)
    have hzero := cents_effective_eq_zero hwage0 hrounded0 hx0 hx hrounded
    have hfits :
        roundedCap average < ceiling ∧ cents (roundedProduct wage average x) < 10 ^ 28 := by
      refine ⟨hrounded.trans_lt tinyBound_lt_ceiling, ?_⟩
      unfold roundedProduct
      rw [hzero]
      norm_num
    obtain ⟨capDecimal, capValue, hcapDecimal, hcap, hsmall⟩ := haverage.mul_small hthree htiny
    have hzero' := cents_effective_eq_zero hwage0 hcap.nonneg hx0 hx hsmall
    left
    refine ⟨hfits, ?_⟩
    rcases compute_of_cap hwage hcoefficient hcapDecimal hcap with ⟨-, c, hc, hvalue⟩ | ⟨hbig, -⟩
    · refine ⟨c, hc, ?_⟩
      rw [hvalue, hzero']
      unfold roundedProduct
      rw [hzero]
    · rw [hzero'] at hbig
      norm_num at hbig

end Compute

/-! ## Half cents -/

/-- Half a cent more than a number of cents. -/
def halfCent (n : ℤ) : ℚ := (2 * n + 1) / 200

/-- One unit of the last of the 28 digits of a number. -/
def lastUnit (x : ℚ) : ℚ := 10 ^ (Int.log 10 x - 27)

/-- The number lies less than half a unit of its last digit below a half cent.  Exactly half a unit
below counts where the half cent is even in that digit, and from 10 ^ 25 on, where the last digit is
a cent, exactly a half cent after an even number of cents. -/
def NearHalfCent (x : ℚ) : Prop := ∃ n : ℤ,
  (x < 10 ^ 25 ∧ x < halfCent n ∧ halfCent n < x + lastUnit x / 2) ∨
    (x < 10 ^ 24 ∧ halfCent n = x + lastUnit x / 2) ∨
      (10 ^ 25 ≤ x ∧ Even n ∧ x = halfCent n)

/-- No half cent is within two units of the 28th digit. -/
def FarFromHalfCent (x : ℚ) : Prop := ∀ n : ℤ, 2 / 10 ^ 27 * x < |halfCent n - x|

section HalfCents

variable {x y : ℚ}

theorem lastUnit_pos (x : ℚ) : 0 < lastUnit x := by
  unfold lastUnit
  positivity

theorem zpow_lastDigit (x : ℚ) : ((10 : ℕ) : ℚ) ^ lastDigit 10 Decimal.prec x = lastUnit x := by
  unfold lastDigit lastUnit
  rw [Nat.cast_ofNat]
  congr 1
  have hprec : (Decimal.prec : ℤ) = 28 := rfl
  omega

/-- A number of cents is passed at the half cent after it. -/
theorem lt_cents_iff {n : ℤ} : n < cents y ↔ halfCent n ≤ y := by
  unfold cents halfCent
  rw [round_eq, ← Int.add_one_le_iff, Int.le_floor]
  push_cast
  constructor <;> intro h <;> linarith

theorem cents_eq_iff : cents y = cents x ↔ ∀ n, halfCent n ≤ y ↔ halfCent n ≤ x := by
  constructor
  · intro heq n
    rw [← lt_cents_iff, ← lt_cents_iff, heq]
  · intro h
    apply le_antisymm
    · by_contra hlt
      exact lt_irrefl _ (lt_cents_iff.2 ((h _).1 (lt_cents_iff.1 (not_le.1 hlt))))
    · by_contra hlt
      exact lt_irrefl _ (lt_cents_iff.2 ((h _).2 (lt_cents_iff.1 (not_le.1 hlt))))

/-- Numbers with no half cent between them have the same cents. -/
theorem cents_eq_of_far {δ : ℚ} (hfar : ∀ n, δ < |halfCent n - x|) (hnear : |y - x| ≤ δ) :
    cents y = cents x := by
  obtain ⟨hlow, hhigh⟩ := abs_le.1 hnear
  refine cents_eq_iff.2 fun n => ?_
  rcases lt_abs.1 (hfar n) with h | h
  · exact iff_of_false (by linarith) (by linarith)
  · exact iff_of_true (by linarith) (by linarith)

/-- Below 10 ^ 25 a half cent is a multiple of the last digit, and below 10 ^ 24 an even one. -/
theorem exists_halfCent_eq (hx : 0 < x) (hlt : x < 10 ^ 25) (n : ℤ) :
    ∃ m : ℤ, halfCent n = m * lastUnit x ∧ (Even m ↔ x < 10 ^ 24) := by
  have hlog (k : ℤ) : x < 10 ^ k ↔ Int.log 10 x < k := by
    have h := Int.lt_zpow_iff_log_lt (b := 10) (x := k) (by decide) hx
    rwa [Nat.cast_ofNat] at h
  have h25 : Int.log 10 x < 25 := (hlog 25).1 (by exact_mod_cast hlt)
  have h24 : x < 10 ^ 24 ↔ Int.log 10 x < 24 := by
    rw [← hlog 24]
    norm_cast
  obtain ⟨k, hk⟩ : ∃ k : ℕ, Int.log 10 x = 24 - k := ⟨(24 - Int.log 10 x).toNat, by omega⟩
  have hunit : lastUnit x = 1 / (1000 * 10 ^ k) := by
    unfold lastUnit
    rw [hk, show (24 - (k : ℤ) - 27) = -(3 + k : ℕ) by push_cast; ring, zpow_neg, zpow_natCast,
      pow_add]
    norm_num
  refine ⟨(2 * n + 1) * 5 * 10 ^ k, ?_, ?_⟩
  · unfold halfCent
    rw [hunit]
    push_cast
    field_simp
    ring
  · rw [h24, hk]
    have hodd : ¬ Even ((2 * n + 1) * 5) := by
      rw [Int.even_mul]
      rintro (h | h)
      · exact Int.not_even_two_mul_add_one n h
      · exact absurd h (by decide)
    cases k with
    | zero => simpa using hodd
    | succ k =>
      refine iff_of_true ?_ (by omega)
      rw [pow_succ]
      exact (Even.mul_left (by decide) _).mul_left _

/-- Where a half cent is reached by rounding to the digits. -/
theorem halfCent_le_significant_iff (hx : 0 < x) (hlt : x < 10 ^ 25) {n : ℤ} :
    halfCent n ≤ significant 10 Decimal.prec x ↔
      halfCent n < x + lastUnit x / 2 ∨ (halfCent n = x + lastUnit x / 2 ∧ x < 10 ^ 24) := by
  have hunit := lastUnit_pos x
  obtain ⟨m, hm, heven⟩ := exists_halfCent_eq hx hlt n
  have hreached := le_significant_iff (α := ℚ) (p := Decimal.prec) (x := x) (by decide : 1 < 10)
    (n := m)
  rw [zpow_lastDigit] at hreached
  rw [hm, hreached, le_roundEven_iff, heven, lt_div_iff₀ hunit, eq_div_iff hunit.ne']
  constructor
  · rintro (h | ⟨h, hsmall⟩)
    · exact .inl (by linarith)
    · exact .inr ⟨by linarith, hsmall⟩
  · rintro (h | ⟨h, hsmall⟩)
    · exact .inl (by linarith)
    · exact .inr ⟨by linarith, hsmall⟩

theorem not_nearHalfCent_zero : ¬ NearHalfCent 0 := by
  have hunit : lastUnit 0 / 2 < 1 / 200 := by
    unfold lastUnit
    rw [Int.log_zero_right]
    norm_num
  have hpos {n : ℤ} (h : 0 < halfCent n) : 1 / 200 ≤ halfCent n := by
    unfold halfCent at h ⊢
    have hn : (0 : ℚ) < ((2 * n + 1 : ℤ) : ℚ) := by
      push_cast
      linarith
    have hone : 1 ≤ 2 * n + 1 := by exact_mod_cast hn
    have hcast : (1 : ℚ) ≤ ((2 * n + 1 : ℤ) : ℚ) := by exact_mod_cast hone
    push_cast at hcast
    linarith
  rintro ⟨n, ⟨-, h, hnear⟩ | ⟨-, hnear⟩ | ⟨h, -⟩⟩
  · linarith [hpos h]
  · have h : 0 < halfCent n := by
      rw [hnear]
      linarith [lastUnit_pos 0]
    linarith [hpos h]
  · norm_num at h

/-- Rounding to the digits first changes the cents exactly of the numbers near a half cent. -/
theorem cents_significant_eq_iff (h0 : 0 ≤ x) (hlt : x < 10 ^ 26) :
    cents (significant 10 Decimal.prec x) = cents x ↔ ¬ NearHalfCent x := by
  rcases h0.eq_or_lt with rfl | hx
  · rw [Decimal.significant_zero]
    exact iff_of_true rfl not_nearHalfCent_zero
  by_cases h25 : x < 10 ^ 25
  · have hunit := lastUnit_pos x
    rw [cents_eq_iff]
    constructor
    · rintro h ⟨n, ⟨-, habove, hnear⟩ | ⟨hsmall, hnear⟩ | ⟨hbig, -⟩⟩
      · exact absurd ((h n).1 ((halfCent_le_significant_iff hx h25).2 (.inl hnear))) habove.not_ge
      · have hle := (h n).1 ((halfCent_le_significant_iff hx h25).2 (.inr ⟨hnear, hsmall⟩))
        linarith
      · exact absurd h25 hbig.not_gt
    · intro hnear n
      rw [halfCent_le_significant_iff hx h25]
      constructor
      · intro hreached
        by_contra habove
        rcases hreached with h | ⟨h, hsmall⟩
        · exact hnear ⟨n, .inl ⟨h25, not_le.1 habove, h⟩⟩
        · exact hnear ⟨n, .inr (.inl ⟨hsmall, h⟩)⟩
      · exact fun h => .inl (by linarith)
  · have hbig := not_lt.1 h25
    have hlog : Int.log 10 x = 25 := by
      have hlow := (Int.zpow_le_iff_le_log (b := 10) (x := 25) (by decide) hx).1
        (by exact_mod_cast hbig)
      have hhigh := (Int.lt_zpow_iff_log_lt (b := 10) (x := 26) (by decide) hx).1
        (by exact_mod_cast hlt)
      omega
    have hunit : lastUnit x = 1 / 100 := by
      unfold lastUnit
      rw [hlog]
      norm_num
    have hsignificant : 100 * significant 10 Decimal.prec x = (roundEven (100 * x) : ℚ) := by
      unfold significant
      rw [zpow_lastDigit, hunit, div_div_eq_mul_div, div_one, mul_comm x]
      ring
    unfold cents
    rw [hsignificant, round_intCast, roundEven_eq_round_iff, not_iff_not]
    constructor
    · rintro ⟨n, heven, hn⟩
      refine ⟨n, .inr (.inr ⟨hbig, heven, ?_⟩)⟩
      unfold halfCent
      linarith
    · rintro ⟨n, ⟨h, -⟩ | ⟨h, -⟩ | ⟨-, heven, hn⟩⟩
      · exact absurd h h25
      · linarith
      · refine ⟨n, heven, ?_⟩
        rw [hn]
        unfold halfCent
        ring

/-- Cents that fit into 28 digits are those of a number below 10 ^ 26. -/
theorem lt_of_cents_significant (h : cents (significant 10 Decimal.prec x) < 10 ^ 28) :
    x < 10 ^ 26 := by
  by_contra hbig
  have hpos : 0 < x := lt_of_lt_of_le (by norm_num) (not_lt.1 hbig)
  have hlog : 26 ≤ Int.log 10 x := (Int.zpow_le_iff_le_log (b := 10) (by decide) hpos).1
    (by exact_mod_cast not_lt.1 hbig)
  have hmono : ((10 : ℕ) : ℚ) ^ (26 : ℤ) ≤ ((10 : ℕ) : ℚ) ^ Int.log 10 x :=
    zpow_le_zpow_right₀ (by norm_num) hlog
  have hreached := hmono.trans
    (zpow_log_le_significant (p := Decimal.prec) (by decide : 1 < 10) (by decide) hpos)
  have hcents : (10 : ℤ) ^ 28 - 1 < cents (significant 10 Decimal.prec x) := by
    refine lt_cents_iff.2 (le_trans ?_ hreached)
    unfold halfCent
    norm_num
  omega

end HalfCents

/-! ## The cap -/

/-- A number that 28 decimal digits write. -/
def Fits (x : ℚ) : Prop := ∃ (m : ℕ) (e : ℤ), m < 10 ^ Decimal.prec ∧ x = Decimal.magnitude m e

/-- The cap has at most 28 digits, or it does not matter: the wage is not above it and has at most
28 digits or is clearly below it. -/
def CapExact (wage average : ℚ) : Prop :=
  Fits (3 * average) ∨ (Fits wage ∧ wage ≤ 3 * average) ∨ wage ≤ 3 * average * (1 - 1 / 10 ^ 27)

/-- The wage is clearly on one side of the cap, or both sides have the same coefficient. -/
def CapSettled (wage average coefficient : ℚ) : Prop :=
  coefficient ≤ 12 ∨ wage ≤ 3 * average * (1 - 1 / 10 ^ 27) ∨
    3 * average * (1 + 1 / 10 ^ 27) < wage

section Cap

variable {x wage average coefficient cap : ℚ}

theorem Fits.significant_eq (h : Fits x) : significant 10 Decimal.prec x = x := by
  obtain ⟨m, e, hm, rfl⟩ := h
  by_cases hzero : m = 0
  · subst hzero
    rw [Decimal.magnitude_eq_zero_iff.2 rfl, Decimal.significant_zero]
  · refine significant_eq_self (m := m) (e := e) (by decide) ?_ ?_
    · unfold Decimal.magnitude
      push_cast
      ring
    · have hdigits := (Decimal.digits_le_iff (by decide)).2 hm
      unfold lastDigit
      rw [Decimal.log_magnitude hzero]
      omega

/-- A number that needs no rounding is not near a half cent. -/
theorem not_nearHalfCent_of_fits (h : Fits x) (h0 : 0 ≤ x) (hlt : x < 10 ^ 26) :
    ¬ NearHalfCent x :=
  (cents_significant_eq_iff h0 hlt).1 (congrArg cents h.significant_eq)

/-- Rounding to the digits changes a number by at most half a unit of the 28th. -/
theorem abs_significant_sub_le_mul (hx : 0 ≤ x) :
    |significant 10 Decimal.prec x - x| ≤ x * (1 / (2 * 10 ^ 27)) := by
  rcases hx.eq_or_lt with rfl | hpos
  · rw [Decimal.significant_zero]
    norm_num
  · have hhalf := abs_significant_sub_le (p := Decimal.prec) (x := x) (by decide : 1 < 10)
    have hsmall := zpow_lastDigit_le (p := Decimal.prec) (by decide : 1 < 10) hpos
    have hunit : ((10 : ℕ) : ℚ) ^ (1 - (Decimal.prec : ℤ)) = 1 / 10 ^ 27 := by
      rw [show (1 - (Decimal.prec : ℤ)) = -(27 : ℕ) from rfl, zpow_neg, zpow_natCast]
      norm_num
    rw [hunit] at hsmall
    linarith

/-- A wage that neither the cap nor the rounded cap cuts. -/
theorem effective_of_le (h : wage ≤ cap) : effective wage cap coefficient = wage * coefficient := by
  unfold effective
  rw [min_eq_left h, if_neg h.not_gt]

theorem effective_of_lt (h : cap < wage) :
    effective wage cap coefficient = cap * min coefficient 12 := by
  unfold effective
  rw [min_eq_right h.le, if_pos h]

theorem roundedCap_bounds (haverage : 0 < average) :
    3 * average * (1 - 1 / (2 * 10 ^ 27)) ≤ roundedCap average ∧
      roundedCap average ≤ 3 * average * (1 + 1 / (2 * 10 ^ 27)) := by
  have hnear := abs_significant_sub_le_mul (x := 3 * average) (by linarith)
  obtain ⟨hlow, hhigh⟩ := abs_le.1 hnear
  unfold roundedCap
  constructor <;> linarith

theorem exactProduct_nonneg (hwage : 0 < wage) (haverage : 0 < average) (hx : 0 ≤ coefficient) :
    0 ≤ exactProduct wage average coefficient := by
  unfold exactProduct effective
  refine mul_nonneg (le_min hwage.le (by linarith)) ?_
  split_ifs
  · exact le_min hx (by norm_num)
  · exact hx

/-- With such a cap only the product is rounded. -/
theorem roundedProduct_of_capExact (hwage : 0 < wage) (haverage : 0 < average)
    (h : CapExact wage average) : roundedProduct wage average coefficient =
      significant 10 Decimal.prec (exactProduct wage average coefficient) := by
  have hkept (hle : wage ≤ 3 * average) (hle' : wage ≤ roundedCap average) :
      roundedProduct wage average coefficient =
        significant 10 Decimal.prec (exactProduct wage average coefficient) := by
    unfold roundedProduct exactProduct
    rw [effective_of_le hle, effective_of_le hle']
  rcases h with hcap | ⟨hfits, hle⟩ | hbelow
  · unfold roundedProduct roundedCap
    rw [hcap.significant_eq]
    rfl
  · exact hkept hle (le_significant (by decide) (by decide) hwage hle hfits.significant_eq)
  · refine hkept (by linarith) (le_trans ?_ (roundedCap_bounds haverage).1)
    linarith

/-- The wage that counts moves no more than the cap does. -/
theorem abs_min_sub_le {cap cap' : ℚ} (hlow : cap * (1 - 1 / (2 * 10 ^ 27)) ≤ cap')
    (hhigh : cap' ≤ cap * (1 + 1 / (2 * 10 ^ 27))) (hwage : 0 < wage) :
    |min wage cap' - min wage cap| ≤ min wage cap * (1 / (2 * 10 ^ 27)) := by
  rw [abs_le]
  rcases le_total wage cap with h | h <;> rcases le_total wage cap' with h' | h'
  · rw [min_eq_left h, min_eq_left h']
    constructor <;> linarith
  · rw [min_eq_left h, min_eq_right h']
    constructor <;> linarith
  · rw [min_eq_right h, min_eq_left h']
    constructor <;> linarith
  · rw [min_eq_right h, min_eq_right h']
    constructor <;> linarith

theorem abs_sub_mul_le {y z k ε : ℚ} (hk : 0 ≤ k) (h : |y - z| ≤ z * ε) :
    |y * k - z * k| ≤ z * k * ε := by
  rw [← sub_mul, abs_mul, abs_of_nonneg hk]
  calc |y - z| * k ≤ z * ε * k := mul_le_mul_of_nonneg_right h hk
    _ = z * k * ε := by ring

/-- With a settled wage the product moves no more than the cap does. -/
theorem effective_near (hwage : 0 < wage) (haverage : 0 < average) (hx : 0 ≤ coefficient)
    (h : CapSettled wage average coefficient) :
    |effective wage (roundedCap average) coefficient - exactProduct wage average coefficient| ≤
      exactProduct wage average coefficient * (1 / (2 * 10 ^ 27)) := by
  obtain ⟨hlow, hhigh⟩ := roundedCap_bounds haverage
  have hcap : 0 < 3 * average := by linarith
  have hmin := abs_min_sub_le hlow hhigh hwage
  unfold exactProduct
  rcases h with hsmall | hbelow | habove
  · have heffective (cap : ℚ) : effective wage cap coefficient = min wage cap * coefficient := by
      unfold effective
      rw [min_eq_left hsmall, ite_self]
    rw [heffective, heffective]
    exact abs_sub_mul_le hx hmin
  · rw [min_eq_left (by linarith), min_eq_left (by linarith)] at hmin
    rw [effective_of_le (by linarith), effective_of_le (by linarith)]
    exact abs_sub_mul_le hx hmin
  · rw [min_eq_right (by linarith), min_eq_right (by linarith)] at hmin
    rw [effective_of_lt (by linarith), effective_of_lt (by linarith)]
    exact abs_sub_mul_le (le_min hx (by norm_num)) hmin

/-- Both roundings together move the product by less than two units of the 28th digit. -/
theorem roundedProduct_near (hwage : 0 < wage) (haverage : 0 < average) (hx : 0 ≤ coefficient)
    (h : CapSettled wage average coefficient) :
    |roundedProduct wage average coefficient - exactProduct wage average coefficient| ≤
      2 / 10 ^ 27 * exactProduct wage average coefficient := by
  have hnear := effective_near hwage haverage hx h
  obtain ⟨hlow, hhigh⟩ := abs_le.1 hnear
  have hexact := exactProduct_nonneg hwage haverage hx
  have hrounded := abs_significant_sub_le_mul (x := effective wage (roundedCap average) coefficient)
    (by linarith)
  obtain ⟨hlow', hhigh'⟩ := abs_le.1 hrounded
  unfold roundedProduct
  rw [abs_le]
  constructor <;> linarith

end Cap

/-! ## The exact amount -/

/-- The total is the exact product rounded to cents, a half upwards. -/
def ExactTotal (p : CompensationParameters) (coefficient : Decimal) (sheet : CalculationSheet) :
    Prop :=
  ∃ total, sheet.total = some total ∧ total.val.value =
    (cents (exactProduct p.monthlyWageAverage.val.value
      p.localPreviousYearMonthlyAverageWage.val.value
      coefficient.value) : ℚ) / 100

/-- If the cap is exact, the total of a success is the exact one exactly if the exact product is not
near a half cent; and if the wage is settled, it is the exact one where no half cent is within two
units of the 28th digit. -/
theorem exactTotal_iff (P : Platform) (excText : (Str → Option Str) → Str) (context : SkillContext)
    (request : CalculateRequest) (catalog : RuleCatalog) (store : TrustedArtifactStore)
    (now : DateTime) (result : SkillResult CalculateOutput)
    (h : deterministicCalculate P excText context request catalog store now = .ok result)
    (hstatus : result.status = .success) :
    ∃ sheet p coefficient, result.value = some ⟨sheet⟩ ∧
      readParameters (fieldValue request.evidence) = .ok (p, coefficient) ∧
      (CapExact p.monthlyWageAverage.val.value p.localPreviousYearMonthlyAverageWage.val.value →
        (ExactTotal p coefficient sheet ↔ ¬ NearHalfCent (exactProduct
          p.monthlyWageAverage.val.value p.localPreviousYearMonthlyAverageWage.val.value
          coefficient.value))) ∧
      (CapSettled p.monthlyWageAverage.val.value p.localPreviousYearMonthlyAverageWage.val.value
          coefficient.value →
        FarFromHalfCent (exactProduct p.monthlyWageAverage.val.value
          p.localPreviousYearMonthlyAverageWage.val.value coefficient.value) →
        ExactTotal p coefficient sheet) := by
  obtain ⟨p, coefficient, haccepted⟩ := accepted_of_success h hstatus
  rw [calculate_of_accepted haccepted] at h
  obtain ⟨c, _, item, sheet, -, hvalue, hsheet⟩ := calculateSheet_eq_ok h
  refine ⟨sheet, p, coefficient, hvalue, haccepted.parameters, ?_⟩
  obtain ⟨wage, hwage, hwage0⟩ := Decimal.exists_is_of_isPositive p.monthlyWageAverage.property
  obtain ⟨average, haverage, haverage0⟩ :=
    Decimal.exists_is_of_isPositive p.localPreviousYearMonthlyAverageWage.property
  obtain ⟨x, hcoefficient, hx⟩ :=
    exists_is_of_serviceCoefficient (readParameters_eq_ok haccepted.parameters)
  have hx0 := hcoefficient.nonneg
  unfold ExactTotal
  rw [hwage.value_eq, haverage.value_eq, hcoefficient.value_eq]
  rcases compute_cases hwage hwage0 haverage haverage0 hcoefficient hx with
    ⟨⟨-, hfits⟩, c', hc', hamount⟩ | ⟨-, e, herror⟩
  · obtain rfl : c' = c := Except.ok.inj (hc'.symm.trans hsheet.computed)
    have htotal : item.amount.val.value = (cents (roundedProduct wage average x) : ℚ) / 100 := by
      rw [hsheet.amount, hamount]
    have hcents : (∃ total, sheet.total = some total ∧
        total.val.value = (cents (exactProduct wage average x) : ℚ) / 100) ↔
        cents (roundedProduct wage average x) = cents (exactProduct wage average x) := by
      constructor
      · rintro ⟨total, hsome, hexact⟩
        obtain rfl := Option.some.inj (hsheet.total.symm.trans hsome)
        rw [htotal, div_left_inj' (by norm_num)] at hexact
        exact_mod_cast hexact
      · intro heq
        exact ⟨item.amount, hsheet.total, by rw [htotal, heq]⟩
    rw [hcents]
    constructor
    · intro hcap
      rw [roundedProduct_of_capExact hwage0 haverage0 hcap] at hfits ⊢
      exact cents_significant_eq_iff (exactProduct_nonneg hwage0 haverage0 hx0)
        (lt_of_cents_significant hfits)
    · exact fun hsettled hfar =>
        cents_eq_of_far hfar (roundedProduct_near hwage0 haverage0 hx0 hsettled)
  · rw [hsheet.computed] at herror
    cases herror

namespace Sample

/-- A wage of thirty digits just below half a cent. -/
def tieEvidence : List EvidenceObject := parameters
  (parameter "monthly_wage_average" "0.00499999999999999999999999999999"
    "sha256:3f6b81a96c094eb91e3437d8c48c0af58d3e9e91cf2732d3bb4c64fefad82611")
  (parameter "local_previous_year_monthly_average_wage" "1"
    "sha256:13aac4fc7c0917e85c43ef8735ce5e43cfaf2a66196d9f4372ab50617ec1eede")

def tiePlatform : Platform := platformOf (inputDigests ++
  [(506, 0x3f6b81a96c094eb91e3437d8c48c0af58d3e9e91cf2732d3bb4c64fefad82611),
    (493, 0x13aac4fc7c0917e85c43ef8735ce5e43cfaf2a66196d9f4372ab50617ec1eede),
    (4082, 0x3933b351792411d8a689c346abdde9c1d21cef66301718d38522a3dceac31605),
    (350, 0x446735e93aa378751b3d0ce06ade6c7231b3d71df2a54a45fa723f4abbb2083f),
    (148, 0x3c05c1c1c4a8c36cf15d4af9d5d0aff5696d5eb289334ea4735eb4ac9dcf5d5e),
    (1126, 0x43699a3195d9140ff2fdaa9f0c72b1d47840402c832ae0653705f6967e692036),
    (1225, 0x8781a3cdf9b381323b134200215c13165675fc6217fbf775da53156c1dbee804)])

set_option maxRecDepth 100000 in
theorem total_tie : (requestOf tiePlatform tieEvidence).map
    (fun r => totalOf (answerTo tiePlatform r)) = some (some (.finite false 1 (-2))) := by
  decide +kernel

/-- The wages and the coefficient that the calculation reads. -/
def readFrom (evidence : List EvidenceObject) : Option (Decimal × Decimal × Decimal) :=
  match readParameters (fieldValue evidence) with
  | .ok (p, coefficient) =>
    some (p.monthlyWageAverage.val, p.localPreviousYearMonthlyAverageWage.val, coefficient)
  | .error _ => none

theorem readFrom_tie : readFrom tieEvidence =
    some (.finite false 499999999999999999999999999999 (-32), .finite false 1 0,
      .finite false 1 0) := by
  decide +kernel

theorem readFrom_wage : readFrom wageEvidence =
    some (.finite false 10000 0, .finite false 5000 0, .finite false 1 0) := by
  decide +kernel

theorem parameters_of_readFrom {evidence : List EvidenceObject}
    {monthly average x coefficient : Decimal} {p : CompensationParameters}
    (hread : readFrom evidence = some (monthly, average, x))
    (h : readParameters (fieldValue evidence) = .ok (p, coefficient)) :
    p.monthlyWageAverage.val = monthly ∧ p.localPreviousYearMonthlyAverageWage.val = average ∧
      coefficient = x := by
  unfold readFrom at hread
  rw [h] at hread
  simpa using hread

end Sample

/-- The sample calculation has the exact total. -/
theorem sample_exactTotal : ∃ request sheet p coefficient,
    Sample.requestOf Sample.wagePlatform Sample.wageEvidence = some request ∧
    readParameters (fieldValue request.evidence) = .ok (p, coefficient) ∧
    ExactTotal p coefficient sheet := by
  obtain ⟨request, hrequest, htotal⟩ := Option.map_eq_some_iff.1 Sample.total_wage
  obtain ⟨result, hresult, hstatus, -⟩ := Sample.exists_result_of_total htotal
  obtain ⟨sheet, p, coefficient, -, hread, hexact, -⟩ :=
    exactTotal_iff Sample.wagePlatform _ Sample.caller
    request Sample.compensationCatalog _ _ result hresult hstatus
  have hvalues : readParameters (fieldValue Sample.wageEvidence) = .ok (p, coefficient) := by
    rwa [Sample.evidence_of_requestOf hrequest] at hread
  obtain ⟨hmonthly, haverage, hcoefficient⟩ :=
    Sample.parameters_of_readFrom Sample.readFrom_wage hvalues
  refine ⟨request, sheet, p, coefficient, hrequest, hread, (hexact ?_).2 ?_⟩
  · rw [hmonthly, haverage, Decimal.value_positive, Decimal.value_positive]
    refine .inl ⟨15000, 0, by decide, ?_⟩
    norm_num [Decimal.magnitude]
  · rw [hmonthly, haverage, hcoefficient, Decimal.value_positive, Decimal.value_positive,
      Decimal.value_positive]
    have hproduct : exactProduct (Decimal.magnitude 10000 0) (Decimal.magnitude 5000 0)
        (Decimal.magnitude 1 0) = Decimal.magnitude 10000 0 := by
      norm_num [exactProduct, effective, Decimal.magnitude]
    rw [hproduct]
    refine not_nearHalfCent_of_fits ⟨10000, 0, by decide, rfl⟩ ?_ ?_ <;>
      norm_num [Decimal.magnitude]

/-- A success on a wage of thirty digits has the total 0.01, and not the exact amount. -/
theorem sample_total_inexact : ¬ ∀ (P : Platform) (excText : (Str → Option Str) → Str)
    (context : SkillContext) (request : CalculateRequest) (catalog : RuleCatalog)
    (store : TrustedArtifactStore) (now : DateTime) (result : SkillResult CalculateOutput),
    deterministicCalculate P excText context request catalog store now = .ok result →
    result.status = .success →
    ∃ sheet p coefficient, result.value = some ⟨sheet⟩ ∧
      readParameters (fieldValue request.evidence) = .ok (p, coefficient) ∧
      ExactTotal p coefficient sheet := by
  intro hclaim
  obtain ⟨request, hrequest, htotal⟩ := Option.map_eq_some_iff.1 Sample.total_tie
  obtain ⟨result, hresult, hstatus, sheet', total', hvalue', htotal', hamount⟩ :=
    Sample.exists_result_of_total htotal
  obtain ⟨sheet, p, coefficient, hvalue, hread, total, hsome, hexact⟩ :=
    hclaim Sample.tiePlatform _ Sample.caller request _ _ _ result hresult hstatus
  rw [Sample.evidence_of_requestOf hrequest] at hread
  obtain ⟨hmonthly, haverage, hcoefficient⟩ :=
    Sample.parameters_of_readFrom Sample.readFrom_tie hread
  obtain rfl : sheet' = sheet := by simpa using hvalue'.symm.trans hvalue
  obtain rfl := Option.some.inj (htotal'.symm.trans hsome)
  rw [hamount, hmonthly, haverage, hcoefficient, Decimal.value_positive, Decimal.value_positive,
    Decimal.value_positive] at hexact
  unfold exactProduct effective cents Decimal.magnitude at hexact
  norm_num at hexact

end ProofFlow
