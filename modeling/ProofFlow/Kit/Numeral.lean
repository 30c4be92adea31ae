import Mathlib.Tactic.Ring
import Mathlib.Algebra.Order.Ring.Nat
import Mathlib.Order.RelClasses

/-!
# Numerals

A numeral is a list of digits, the most significant one first.  Numerals of one length are ordered
as their values are, and without leading zeros the longer one is the larger one: so two values can
be compared without computing them.
-/

namespace Kit

variable {α : Type}

/-- The number that a list of digits stands for in base `b`. -/
def numeralValue (b : ℕ) (digit : α → ℕ) (s : List α) : ℕ :=
  s.foldl (fun n c => b * n + digit c) 0

variable {b : ℕ} {digit : α → ℕ} {s t : List α}

theorem foldl_numeral (n : ℕ) (s : List α) :
    s.foldl (fun n c => b * n + digit c) n = b ^ s.length * n + numeralValue b digit s := by
  induction s generalizing n with
  | nil => simp [numeralValue]
  | cons c s ih =>
    rw [numeralValue, List.foldl_cons, List.foldl_cons, ih, ih (b * 0 + digit c), List.length_cons,
      pow_succ]
    ring

theorem numeralValue_cons (c : α) (s : List α) :
    numeralValue b digit (c :: s) = b ^ s.length * digit c + numeralValue b digit s := by
  rw [numeralValue, List.foldl_cons, foldl_numeral, mul_zero, zero_add]

/-- A numeral is less than the power of the base with its length. -/
theorem numeralValue_lt (h : ∀ c ∈ s, digit c < b) : numeralValue b digit s < b ^ s.length := by
  induction s with
  | nil => exact Nat.one_pos
  | cons c s ih =>
    obtain ⟨hc, hs⟩ := List.forall_mem_cons.1 h
    have hrest := ih hs
    calc numeralValue b digit (c :: s) = b ^ s.length * digit c + numeralValue b digit s :=
        numeralValue_cons c s
      _ < b ^ s.length * digit c + b ^ s.length := by omega
      _ = b ^ s.length * (digit c + 1) := by ring
      _ ≤ b ^ s.length * b := Nat.mul_le_mul_left _ hc
      _ = b ^ (c :: s).length := by rw [List.length_cons, pow_succ]

/-- Zeros in front do not count. -/
theorem numeralValue_dropWhile (p : α → Bool) (h : ∀ c, p c = true → digit c = 0) :
    numeralValue b digit (s.dropWhile p) = numeralValue b digit s := by
  induction s with
  | nil => rfl
  | cons c s ih =>
    rw [List.dropWhile_cons]
    split
    · rename_i hc
      rw [ih, numeralValue_cons, h c hc, mul_zero, zero_add]
    · rfl

/-- A numeral without a leading zero has at least the value of its highest place. -/
theorem pow_le_numeralValue {c : α} (hc : digit c ≠ 0) :
    b ^ s.length ≤ numeralValue b digit (c :: s) := by
  rw [numeralValue_cons]
  exact (Nat.le_mul_of_pos_right _ (Nat.pos_of_ne_zero hc)).trans (Nat.le_add_right _ _)

variable [LinearOrder α]

/-- Numerals of one length are in the lexicographic order of their digits. -/
theorem numeralValue_lt_iff_of_length (hlen : s.length = t.length)
    (hs : ∀ c ∈ s, digit c < b) (ht : ∀ d ∈ t, digit d < b)
    (hmono : ∀ c ∈ s, ∀ d ∈ t, (digit c < digit d ↔ c < d) ∧ (digit d < digit c ↔ d < c)) :
    numeralValue b digit s < numeralValue b digit t ↔ s < t := by
  induction s generalizing t with
  | nil =>
    obtain rfl := List.eq_nil_of_length_eq_zero hlen.symm
    simp
  | cons c s ih =>
    cases t with
    | nil => cases hlen
    | cons d t =>
      have hlen' : s.length = t.length := Nat.succ.inj hlen
      obtain ⟨-, hs'⟩ := List.forall_mem_cons.1 hs
      obtain ⟨-, ht'⟩ := List.forall_mem_cons.1 ht
      have hrest := ih hlen' hs' ht' fun c hc d hd =>
        hmono c (List.mem_cons_of_mem _ hc) d (List.mem_cons_of_mem _ hd)
      have hhead := hmono c List.mem_cons_self d List.mem_cons_self
      have hvs := numeralValue_lt hs'
      have hvt := numeralValue_lt ht'
      rw [numeralValue_cons, numeralValue_cons, hlen', List.cons_lt_cons_iff, ← hrest]
      rw [hlen'] at hvs
      rcases lt_trichotomy c d with hlt | rfl | hgt
      · have hstep : b ^ t.length * (digit c + 1) ≤ b ^ t.length * digit d :=
          Nat.mul_le_mul_left _ (hhead.1.2 hlt)
        rw [mul_add, mul_one] at hstep
        exact iff_of_true (by omega) (.inl hlt)
      · simp
      · have hstep : b ^ t.length * (digit d + 1) ≤ b ^ t.length * digit c :=
          Nat.mul_le_mul_left _ (hhead.2.2 hgt)
        rw [mul_add, mul_one] at hstep
        refine iff_of_false (by omega) ?_
        rintro (hlt | ⟨rfl, -⟩)
        · exact hgt.asymm hlt
        · exact hgt.false

/-- Numerals without leading zeros are compared by their lengths and then digit by digit. -/
theorem numeralValue_lt_iff (hs : ∀ c ∈ s, digit c < b) (ht : ∀ d ∈ t, digit d < b)
    (hmono : ∀ c ∈ s, ∀ d ∈ t, (digit c < digit d ↔ c < d) ∧ (digit d < digit c ↔ d < c))
    (hs' : t.length < s.length → b ^ (s.length - 1) ≤ numeralValue b digit s)
    (ht' : s.length < t.length → b ^ (t.length - 1) ≤ numeralValue b digit t) (hb : 0 < b) :
    numeralValue b digit s < numeralValue b digit t ↔
      s.length < t.length ∨ s.length = t.length ∧ s < t := by
  rcases lt_trichotomy s.length t.length with hlt | heq | hgt
  · have hpow : b ^ s.length ≤ b ^ (t.length - 1) := Nat.pow_le_pow_right hb (by omega)
    exact iff_of_true ((numeralValue_lt hs).trans_le (hpow.trans (ht' hlt))) (.inl hlt)
  · rw [numeralValue_lt_iff_of_length heq hs ht hmono]
    exact ⟨fun h => .inr ⟨heq, h⟩, fun h => h.elim (fun hne => absurd heq hne.ne) And.right⟩
  · have hpow : b ^ t.length ≤ b ^ (s.length - 1) := Nat.pow_le_pow_right hb (by omega)
    have hle := (numeralValue_lt ht).trans_le (hpow.trans (hs' hgt))
    refine iff_of_false hle.not_gt ?_
    rintro (hlt | ⟨heq, -⟩)
    · exact hgt.asymm hlt
    · exact hgt.ne heq.symm

end Kit
