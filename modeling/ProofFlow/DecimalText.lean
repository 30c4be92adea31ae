import ProofFlow.Models
import ProofFlow.Python.Literal
import ProofFlow.RoundTrip

/-!
# One text for each amount

`_decimal_text` writes a number in fixed-point notation and strips what a trailing exponent adds.
Two representations of a number are written alike, and the text is read back as the number.  Zero is
the exception: it keeps its sign.
-/

namespace ProofFlow

namespace Decimal

/-! ## Trailing zeros -/

section Shift

variable {n : Bool} {c : ℕ} {e : ℤ}

theorem decimalText_mul_ten (hc : c ≠ 0) : decimalText (10 * c) = decimalText c ++ ['0'] := by
  have hsplit : decimalText (10 * c) = decimalText (10 * c / 10) ++ [(10 * c % 10).digitChar] :=
    Nat.toDigits_of_base_le (by decide) (by omega)
  rw [hsplit, Nat.mul_div_cancel_left c (by decide), Nat.mul_mod_right]
  rfl

theorem digits_mul_ten (hc : c ≠ 0) : digits (10 * c) = digits c + 1 := by
  unfold digits
  rw [decimalText_mul_ten hc, List.length_append]
  rfl

theorem digits_pos : 0 < digits c := List.length_pos_iff.2 (decimalText_ne_nil c)

/-- The digits of a coefficient with enough zeros in front to have `places` of them after the
point. -/
def padded (c places : ℕ) : Str :=
  List.replicate (places + 1 - digits c) '0' ++ decimalText c

theorem padded_mul_ten (places : ℕ) : padded (10 * c) (places + 1) = padded c places ++ ['0'] := by
  unfold padded
  by_cases hc : c = 0
  · subst hc
    have hdigits : digits 0 = 1 := rfl
    have htext : decimalText 0 = ['0'] := rfl
    rw [Nat.mul_zero, hdigits, htext, Nat.add_sub_cancel, Nat.add_sub_cancel, List.replicate_succ']
  · rw [digits_mul_ten hc, decimalText_mul_ten hc, List.append_assoc, Nat.add_sub_add_right]

theorem length_padded (c places : ℕ) : places < (padded c places).length := by
  unfold padded
  rw [List.length_append, List.length_replicate]
  have hdigits : (decimalText c).length = digits c := rfl
  omega

/-- The digits before and after the point. -/
def whole (c places : ℕ) : Str := (padded c places).take ((padded c places).length - places)

def fraction (c places : ℕ) : Str := (padded c places).drop ((padded c places).length - places)

theorem whole_append_fraction (c places : ℕ) :
    whole c places ++ fraction c places = padded c places :=
  List.take_append_drop _ _

theorem length_fraction (c places : ℕ) : (fraction c places).length = places := by
  have h := length_padded c places
  unfold fraction
  rw [List.length_drop]
  omega

theorem whole_mul_ten (places : ℕ) : whole (10 * c) (places + 1) = whole c places := by
  have h := length_padded c places
  unfold whole
  rw [padded_mul_ten, List.length_append, List.length_singleton, Nat.add_sub_add_right,
    List.take_append_of_le_length (by omega)]

theorem fraction_mul_ten (places : ℕ) :
    fraction (10 * c) (places + 1) = fraction c places ++ ['0'] := by
  have h := length_padded c places
  unfold fraction
  rw [padded_mul_ten, List.length_append, List.length_singleton, Nat.add_sub_add_right,
    List.drop_append_of_le_length (by omega)]

/-- The fixed-point text of a number with places after the point. -/
theorem fixedText_neg {places : ℕ} (hplaces : 0 < places) : fixedText n c (-places) =
    signText n ++ (whole c places ++ '.' :: fraction c places) := by
  have hneg : ¬ (0 : ℤ) ≤ -places := by omega
  simp only [fixedText, if_neg hneg, neg_neg, Int.toNat_natCast]
  cases n <;> rfl

theorem fixedText_nonneg (he : 0 ≤ e) : fixedText n c e =
    signText n ++ if c = 0 then decimalText c
      else decimalText c ++ List.replicate e.toNat '0' := by
  simp only [fixedText, if_pos he]
  cases n <;> rfl

end Shift

/-! ## Stripping -/

section Strip

variable {a b : Char} {s t : Str}

theorem rstripChar_append_self (a : Char) (s : Str) : rstripChar a (s ++ [a]) = rstripChar a s := by
  unfold rstripChar
  rw [List.reverse_append, List.reverse_singleton, List.singleton_append,
    List.dropWhile_cons_of_pos (by simp)]

theorem rstripChar_append_of_ne (h : b ≠ a) (s : Str) : rstripChar a (s ++ [b]) = s ++ [b] := by
  unfold rstripChar
  rw [List.reverse_append, List.reverse_singleton, List.singleton_append,
    List.dropWhile_cons_of_neg (by simpa using h), List.reverse_cons, List.reverse_reverse]

theorem rstripChar_of_not_mem (h : a ∉ s) : rstripChar a s = s := by
  rcases List.eq_nil_or_concat s with rfl | ⟨init, last, rfl⟩
  · rfl
  · rw [List.concat_eq_append] at h ⊢
    refine rstripChar_append_of_ne ?_ init
    rintro rfl
    simp at h

/-- What the two strips leave of a fixed-point text. -/
def stripZeros (fixed : Str) : Str :=
  if '.' ∈ fixed then rstripChar '.' (rstripChar '0' fixed) else fixed

theorem text_eq (n : Bool) (c : ℕ) (e : ℤ) : text (.finite n c e) =
    some (if stripZeros (fixedText n c e) = [] then ['0'] else stripZeros (fixedText n c e)) := rfl

theorem stripZeros_of_not_mem (h : '.' ∉ s) : stripZeros s = s := if_neg h

/-- A zero at the end of the fraction is stripped. -/
theorem stripZeros_append_zero :
    stripZeros (s ++ '.' :: (t ++ ['0'])) = stripZeros (s ++ '.' :: t) := by
  have hassoc : s ++ '.' :: (t ++ ['0']) = (s ++ '.' :: t) ++ ['0'] := by simp
  unfold stripZeros
  rw [if_pos (by simp), if_pos (by simp), hassoc, rstripChar_append_self]

/-- A point that nothing follows is stripped. -/
theorem stripZeros_append_point (h : '.' ∉ s) : stripZeros (s ++ ['.']) = s := by
  unfold stripZeros
  rw [if_pos (by simp), rstripChar_append_of_ne (by decide), rstripChar_append_self,
    rstripChar_of_not_mem h]

/-- A fraction that ends with another digit is kept. -/
theorem stripZeros_append_digit (hzero : b ≠ '0') (hpoint : b ≠ '.') :
    stripZeros (s ++ '.' :: (t ++ [b])) = s ++ '.' :: (t ++ [b]) := by
  have hassoc : s ++ '.' :: (t ++ [b]) = (s ++ '.' :: t) ++ [b] := by simp
  unfold stripZeros
  rw [if_pos (by simp), hassoc, rstripChar_append_of_ne hzero, rstripChar_append_of_ne hpoint]

end Strip

section Text

variable {n : Bool} {c c' : ℕ} {e e' : ℤ}

theorem point_not_mem_numeral (n : Bool) (c : ℕ) : '.' ∉ signText n ++ decimalText c := by
  rw [List.mem_append, not_or]
  refine ⟨by cases n <;> decide, fun h => ?_⟩
  have hdigit := isDigit_of_mem_decimalText h
  revert hdigit
  decide

theorem decimalText_mul_pow {c : ℕ} (hc : c ≠ 0) (k : ℕ) :
    decimalText (c * 10 ^ k) = decimalText c ++ List.replicate k '0' := by
  induction k with
  | zero => simp
  | succ k ih =>
    have hpos : c * 10 ^ k ≠ 0 := Nat.mul_ne_zero hc (by positivity)
    rw [pow_succ, ← mul_assoc, mul_comm _ 10, decimalText_mul_ten hpos, ih, List.append_assoc,
      List.replicate_succ']

/-- An integer is written with its digits. -/
theorem text_of_nonneg (he : 0 ≤ e) :
    text (.finite n c e) = some (signText n ++ decimalText (c * 10 ^ e.toNat)) := by
  have hfixed : fixedText n c e = signText n ++ decimalText (c * 10 ^ e.toNat) := by
    rw [fixedText_nonneg he]
    split_ifs with hc
    · rw [hc, zero_mul]
    · rw [decimalText_mul_pow hc]
  have hne : signText n ++ decimalText (c * 10 ^ e.toNat) ≠ [] := by
    simp [decimalText_ne_nil]
  rw [text_eq, hfixed, stripZeros_of_not_mem (point_not_mem_numeral n _), if_neg hne]

/-- The last digit of a coefficient is the last one after the point. -/
theorem fraction_eq_append {places : ℕ} (hplaces : 0 < places) :
    ∃ init, fraction c places = init ++ [(c % 10).digitChar] := by
  have hlast : ∃ init, padded c places = init ++ [(c % 10).digitChar] := by
    unfold padded
    by_cases hc : c < 10
    · have htext : decimalText c = [c.digitChar] := Nat.toDigits_of_lt_base hc
      rw [htext, Nat.mod_eq_of_lt hc]
      exact ⟨_, rfl⟩
    · have htext : decimalText c = decimalText (c / 10) ++ [(c % 10).digitChar] :=
        Nat.toDigits_of_base_le (by decide) (by omega)
      rw [htext, ← List.append_assoc]
      exact ⟨_, rfl⟩
  obtain ⟨init, hinit⟩ := hlast
  have hlen := length_padded c places
  rw [hinit, List.length_append, List.length_singleton] at hlen
  unfold fraction
  rw [hinit, List.length_append, List.length_singleton, List.drop_append_of_le_length (by omega)]
  exact ⟨_, rfl⟩

theorem digitChar_ne {d : ℕ} (hd : d < 10) (hne : d ≠ 0) :
    d.digitChar ≠ '0' ∧ d.digitChar ≠ '.' := by
  have checked : ∀ k : Fin 10, k.val ≠ 0 → k.val.digitChar ≠ '0' ∧ k.val.digitChar ≠ '.' := by
    decide
  exact checked ⟨d, hd⟩ hne

/-- A number that needs all its places is written with all of them. -/
theorem text_of_neg {places : ℕ} (hplaces : 0 < places) (hc : c % 10 ≠ 0) :
    text (.finite n c (-places)) =
      some (signText n ++ (whole c places ++ '.' :: fraction c places)) := by
  obtain ⟨init, hinit⟩ := fraction_eq_append (c := c) hplaces
  obtain ⟨hzero, hpoint⟩ := digitChar_ne (Nat.mod_lt c (by decide)) hc
  have hstrip : stripZeros (fixedText n c (-places)) =
      signText n ++ (whole c places ++ '.' :: fraction c places) := by
    rw [fixedText_neg hplaces, hinit, ← List.append_assoc]
    exact stripZeros_append_digit hzero hpoint
  rw [text_eq, hstrip, if_neg (by simp)]

/-- Moving a factor of ten into the exponent does not change the text. -/
theorem text_shift (n : Bool) (c : ℕ) (e : ℤ) :
    text (.finite n (10 * c) (e - 1)) = text (.finite n c e) := by
  rcases lt_trichotomy e 0 with he | rfl | he
  · obtain ⟨places, rfl⟩ : ∃ places : ℕ, e = -places := ⟨(-e).toNat, by omega⟩
    have hplaces : 0 < places := by omega
    have hexp : (-places : ℤ) - 1 = -(places + 1 : ℕ) := by omega
    rw [text_eq, text_eq, hexp, fixedText_neg (by omega), fixedText_neg hplaces, whole_mul_ten,
      fraction_mul_ten, ← List.append_assoc, ← List.append_assoc, stripZeros_append_zero]
  · have hwhole : whole (10 * c) 1 = decimalText c := by
      have hpad : padded c 0 = decimalText c := by
        unfold padded
        rw [Nat.sub_eq_zero_of_le digits_pos]
        rfl
      rw [whole_mul_ten 0]
      unfold whole
      rw [hpad, Nat.sub_zero, List.take_length]
    have hfraction : fraction (10 * c) 1 = ['0'] := by
      rw [fraction_mul_ten 0, List.eq_nil_of_length_eq_zero (length_fraction c 0)]
      rfl
    have hfixed : fixedText n (10 * c) (0 - 1) =
        signText n ++ decimalText c ++ '.' :: ([] ++ ['0']) := by
      have hneg := fixedText_neg (n := n) (c := 10 * c) Nat.one_pos
      rw [hwhole, hfraction, ← List.append_assoc] at hneg
      exact hneg
    have hne : signText n ++ decimalText c ≠ [] := by simp [decimalText_ne_nil]
    rw [text_of_nonneg (le_refl 0), text_eq, hfixed, stripZeros_append_zero,
      stripZeros_append_point (point_not_mem_numeral n c), if_neg hne]
    simp
  · obtain ⟨k, rfl⟩ : ∃ k : ℕ, e = k + 1 := ⟨(e - 1).toNat, by omega⟩
    have hexp : ((k : ℤ) + 1).toNat = k + 1 := by omega
    have hprod : 10 * c * 10 ^ k = c * 10 ^ (k + 1) := by ring
    rw [text_of_nonneg (by omega), text_of_nonneg (by omega), hexp, add_sub_cancel_right,
      Int.toNat_natCast, hprod]

theorem text_shift_pow (n : Bool) (c : ℕ) (e : ℤ) (k : ℕ) :
    text (.finite n (c * 10 ^ k) (e - k)) = text (.finite n c e) := by
  induction k with
  | zero => simp
  | succ k ih =>
    have hprod : c * 10 ^ (k + 1) = 10 * (c * 10 ^ k) := by ring
    have hexp : e - ((k + 1 : ℕ) : ℤ) = e - k - 1 := by omega
    rw [hprod, hexp, text_shift, ih]

/-- Equal magnitudes are written alike. -/
theorem text_congr (n : Bool) (h : (c : ℚ) * 10 ^ e = c' * 10 ^ e') :
    text (.finite n c e) = text (.finite n c' e') := by
  wlog hle : e' ≤ e generalizing c c' e e'
  · exact (this h.symm (by omega)).symm
  obtain ⟨k, hk⟩ : ∃ k : ℕ, e = e' + k := ⟨(e - e').toNat, by omega⟩
  have hpow : (10 : ℚ) ^ e' ≠ 0 := by positivity
  have hcoefficient : c' = c * 10 ^ k := by
    rw [hk, zpow_add₀ (by norm_num), zpow_natCast, mul_comm ((10 : ℚ) ^ e'), ← mul_assoc] at h
    exact_mod_cast (mul_right_cancel₀ hpow h).symm
  have hexp : e' = e - k := by omega
  rw [hcoefficient, hexp, text_shift_pow]

/-! ## Normal forms -/

/-- A number without a superfluous place: an integer, or a fraction that ends in a digit other than
zero. -/
def Plain (c : ℕ) (e : ℤ) : Prop := 0 ≤ e ∨ c % 10 ≠ 0

theorem value_shift (n : Bool) (c : ℕ) (e : ℤ) :
    value (.finite n (10 * c) (e - 1)) = value (.finite n c e) := by
  have hpow : (10 : ℚ) ^ e = 10 ^ (e - 1) * 10 := by
    rw [← zpow_add_one₀ (by norm_num), sub_add_cancel]
  simp only [value, hpow]
  push_cast
  ring

theorem inRange_shift (he : e ≤ 0) (h : InRange (.finite n (10 * c) (e - 1))) :
    InRange (.finite n c e) := by
  obtain ⟨hlow, hhigh⟩ := h
  refine ⟨by omega, ?_⟩
  by_cases hc : c = 0
  · subst hc
    have hdigits : digits 0 = 1 := rfl
    omega
  · rw [digits_mul_ten hc] at hhigh
    omega

/-- Every number has a plain representation. -/
theorem exists_plain (n : Bool) (c : ℕ) (e : ℤ) : ∃ c' e', Plain c' e' ∧
    text (.finite n c' e') = text (.finite n c e) ∧
    value (.finite n c' e') = value (.finite n c e) ∧
    (InRange (.finite n c e) → InRange (.finite n c' e')) := by
  induction hk : (-e).toNat generalizing c e with
  | zero => exact ⟨c, e, .inl (by omega), rfl, rfl, id⟩
  | succ k ih =>
    by_cases hc : c % 10 = 0
    · obtain ⟨d, rfl⟩ : ∃ d, c = 10 * d := ⟨c / 10, by omega⟩
      obtain ⟨c', e', hplain, htext, hvalue, hrange⟩ := ih d (e + 1) (by omega)
      have hexp : e = e + 1 - 1 := by omega
      refine ⟨c', e', hplain, ?_, ?_, fun h => hrange ?_⟩
      · rw [htext, hexp, text_shift, ← hexp]
      · rw [hvalue, hexp, value_shift, ← hexp]
      · rw [hexp] at h
        exact inRange_shift (by omega) h
    · exact ⟨c, e, .inr hc, rfl, rfl, id⟩

end Text

/-! ## Reading the text back -/

section Reading

variable {n : Bool} {c : ℕ} {s t : Str}

theorem digit?_of_isDigit {c : Char} (h : isDigit c = true) : digit? c = some (c.toNat - 48) := by
  have hrange : 48 ≤ c.toNat ∧ c.toNat ≤ 57 := by
    simpa only [isDigit, Bool.and_eq_true, decide_eq_true_eq] using h
  have hfirst : (decide (0x30 ≤ c.toNat) && decide (c.toNat < 0x30 + 10)) = true := by
    simp only [Bool.and_eq_true, decide_eq_true_eq]
    omega
  have hfind :
      (unicodeZeros.find? fun start => start ≤ c.toNat && c.toNat < start + 10) = some 0x30 :=
    List.find?_cons_of_pos hfirst
  unfold digit?
  rw [hfind]
  rfl

theorem isDecimalDigit_of_isDigit {c : Char} (h : isDigit c = true) : isDecimalDigit c = true := by
  unfold isDecimalDigit
  rw [digit?_of_isDigit h]
  rfl

/-- A run of ASCII digits. -/
def IsRun (s : Str) : Prop := ∀ c ∈ s, isDigit c = true

theorem isRun_decimalText (m : ℕ) : IsRun (decimalText m) := fun _ h => isDigit_of_mem_decimalText h

theorem isRun_padded (c places : ℕ) : IsRun (padded c places) := by
  intro d hd
  rcases List.mem_append.1 hd with hd | hd
  · rw [List.eq_of_mem_replicate hd]
    rfl
  · exact isDigit_of_mem_decimalText hd

theorem IsRun.append_left (h : IsRun (s ++ t)) : IsRun s := fun c hc =>
  h c (List.mem_append_left _ hc)

theorem IsRun.append_right (h : IsRun (s ++ t)) : IsRun t := fun c hc =>
  h c (List.mem_append_right _ hc)

theorem runValue_of_isRun (h : IsRun s) : runValue s = digitsValue s := by
  unfold runValue digitsValue
  refine List.foldl_ext _ _ 0 fun m c hc => ?_
  rw [digit?_of_isDigit (h c hc)]
  rfl

theorem digitsValue_padded (c places : ℕ) : digitsValue (padded c places) = c := by
  have hzeros : ∀ k, digitsValue (List.replicate k '0' ++ decimalText c) = c := by
    intro k
    induction k with
    | zero => exact digitsValue_decimalText c
    | succ k ih => exact ih
  exact hzeros _

theorem takeWhile_run (h : IsRun s) (ht : ∀ c ∈ t.head?, isDecimalDigit c = false) :
    (s ++ t).takeWhile isDecimalDigit = s ∧ (s ++ t).dropWhile isDecimalDigit = t := by
  have hrun : ∀ c ∈ s, isDecimalDigit c = true := fun c hc => isDecimalDigit_of_isDigit (h c hc)
  rw [List.takeWhile_append_of_pos hrun, List.dropWhile_append_of_pos hrun]
  cases t with
  | nil => simp
  | cons c t => simp [ht c (by simp)]

theorem literalNumber_run (h : IsRun s) (hne : s ≠ []) :
    literalNumber s = some (digitsValue s, 0) := by
  obtain ⟨htake, hdrop⟩ := takeWhile_run (t := []) h (by simp)
  rw [List.append_nil] at htake hdrop
  simp only [literalNumber, htake, hdrop, literalExponent, hne, false_and, if_false,
    Option.map_some, List.append_nil, runValue_of_isRun h, List.length_nil, Nat.cast_zero, sub_zero]

theorem literalNumber_point (hs : IsRun s) (ht : IsRun t) (hne : s ≠ []) :
    literalNumber (s ++ '.' :: t) = some (digitsValue (s ++ t), -(t.length : ℤ)) := by
  have hrun : IsRun (s ++ t) := fun c hc => (List.mem_append.1 hc).elim (hs c) (ht c)
  obtain ⟨htake, hdrop⟩ := takeWhile_run (t := '.' :: t) hs (by simp; decide)
  obtain ⟨htake', hdrop'⟩ := takeWhile_run (t := []) ht (by simp)
  rw [List.append_nil] at htake' hdrop'
  simp only [literalNumber, htake, hdrop, htake', hdrop', literalExponent, hne, false_and, if_false,
    Option.map_some, runValue_of_isRun hrun, zero_sub]

/-- A character of a fixed-point text. -/
def IsFixed (c : Char) : Prop := isDigit c = true ∨ c = '.' ∨ c = '-'

theorem IsFixed.not_space {c : Char} (h : IsFixed c) : isSpace c = false ∧ c ≠ '_' := by
  rcases h with h | rfl | rfl
  · have hrange : 48 ≤ c.toNat ∧ c.toNat ≤ 57 := by
      simpa only [isDigit, Bool.and_eq_true, decide_eq_true_eq] using h
    constructor
    · simp only [isSpace, isWhitespace, Bool.or_eq_false_iff, Bool.and_eq_false_iff,
        decide_eq_false_iff_not, beq_eq_false_iff_ne]
      omega
    · rintro rfl
      exact absurd hrange.2 (by decide)
  · decide
  · decide

theorem literalSign_signText (hhead : ∀ c ∈ s.head?, isDigit c = true) (hne : s ≠ []) :
    literalSign (signText n ++ s) = (n, s) := by
  cases n with
  | true => rfl
  | false =>
    obtain ⟨d, s, rfl⟩ := List.exists_cons_of_ne_nil hne
    have hd : isDigit d = true := hhead d (by simp)
    show literalSign (d :: s) = (false, d :: s)
    unfold literalSign
    split
    · rename_i heq
      rw [(List.cons.inj heq).1] at hd
      exact absurd hd (by decide)
    · rename_i heq
      rw [(List.cons.inj heq).1] at hd
      exact absurd hd (by decide)
    · rfl

/-- A signed text of digits and points whose unsigned part is a number reads as that number. -/
theorem parse_signText {m : ℕ} {e : ℤ} (hfixed : ∀ c ∈ s, IsFixed c)
    (hhead : ∀ c ∈ s.head?, isDigit c = true) (hne : s ≠ [])
    (hnumber : literalNumber s = some (m, e)) :
    parse (signText n ++ s) = some (.finite n m e) := by
  have hall : ∀ c ∈ signText n ++ s, IsFixed c := by
    intro c hc
    rcases List.mem_append.1 hc with hc | hc
    · cases n with
      | false => cases hc
      | true => exact .inr (.inr (List.mem_singleton.1 hc))
    · exact hfixed c hc
  have hbody : literalBody (signText n ++ s) = signText n ++ s :=
    literalBody_eq_self fun c hc => (hall c hc).not_space
  unfold parse
  rw [hbody]
  simp only [literalSign_signText hhead hne, hnumber]

theorem isFixed_of_isRun (h : IsRun s) : ∀ c ∈ s, IsFixed c := fun c hc => .inl (h c hc)

theorem digits_mul_pow (hc : c ≠ 0) (k : ℕ) : digits (c * 10 ^ k) = digits c + k := by
  unfold digits
  rw [decimalText_mul_pow hc, List.length_append, List.length_replicate]

/-- What the text of a number reads as. -/
structure ReadsBack (x : Decimal) (t : Str) (d : Decimal) : Prop where
  text_eq : text x = some t
  parse_eq : parse t = some d
  value_eq : value d = value x
  inRange : InRange x → InRange d

theorem readsBack_integer {e : ℤ} (he : 0 ≤ e) : ReadsBack (.finite n c e)
    (signText n ++ decimalText (c * 10 ^ e.toNat)) (.finite n (c * 10 ^ e.toNat) 0) where
  text_eq := text_of_nonneg he
  parse_eq := by
    have hrun := isRun_decimalText (c * 10 ^ e.toNat)
    have hne := decimalText_ne_nil (c * 10 ^ e.toNat)
    refine parse_signText (isFixed_of_isRun hrun) (fun d hd => hrun d (List.mem_of_head? hd)) hne ?_
    rw [literalNumber_run hrun hne, digitsValue_decimalText]
  value_eq := by
    have hpow : (10 : ℚ) ^ e = 10 ^ e.toNat := by
      rw [← zpow_natCast, Int.toNat_of_nonneg he]
    simp only [value, hpow]
    push_cast
    ring
  inRange := by
    rintro ⟨hlow, hhigh⟩
    refine ⟨by omega, ?_⟩
    by_cases hc : c = 0
    · subst hc
      have hdigits : digits (0 * 10 ^ e.toNat) = 1 := by
        rw [zero_mul]
        rfl
      omega
    · rw [digits_mul_pow hc]
      omega

theorem readsBack_fraction {places : ℕ} (hplaces : 0 < places) (hc : c % 10 ≠ 0) :
    ReadsBack (.finite n c (-places))
      (signText n ++ (whole c places ++ '.' :: fraction c places)) (.finite n c (-places)) where
  text_eq := text_of_neg hplaces hc
  parse_eq := by
    have hrun := isRun_padded c places
    rw [← whole_append_fraction] at hrun
    have hne : whole c places ≠ [] := by
      have hlen := length_padded c places
      intro h
      have hwhole := congrArg List.length h
      unfold whole at hwhole
      rw [List.length_take, List.length_nil] at hwhole
      omega
    refine parse_signText ?_ ?_ (by simp) ?_
    · intro d hd
      rcases List.mem_append.1 hd with hd | hd
      · exact isFixed_of_isRun hrun.append_left d hd
      · rcases List.mem_cons.1 hd with rfl | hd
        · exact .inr (.inl rfl)
        · exact isFixed_of_isRun hrun.append_right d hd
    · intro d hd
      rw [List.head?_append_of_ne_nil _ hne] at hd
      exact hrun.append_left d (List.mem_of_head? hd)
    · rw [literalNumber_point hrun.append_left hrun.append_right hne, whole_append_fraction,
        digitsValue_padded, length_fraction]
  value_eq := rfl
  inRange := id

/-- The text of every number reads back as a representation of it. -/
theorem exists_readsBack (n : Bool) (c : ℕ) (e : ℤ) : ∃ t d, ReadsBack (.finite n c e) t d := by
  obtain ⟨c', e', hplain, htext, hvalue, hrange⟩ := exists_plain n c e
  have hback : ∃ t d, ReadsBack (.finite n c' e') t d := by
    by_cases he : 0 ≤ e'
    · exact ⟨_, _, readsBack_integer he⟩
    · obtain ⟨places, rfl⟩ : ∃ places : ℕ, e' = -places := ⟨(-e').toNat, by omega⟩
      exact ⟨_, _, readsBack_fraction (by omega) (hplain.resolve_left he)⟩
  obtain ⟨t, d, h⟩ := hback
  exact ⟨t, d, htext ▸ h.text_eq, h.parse_eq, h.value_eq.trans hvalue,
    fun hx => h.inRange (hrange hx)⟩

/-- The text determines the number. -/
theorem value_eq_of_text_eq {n' : Bool} {c' : ℕ} {e e' : ℤ}
    (h : text (.finite n c e) = text (.finite n' c' e')) :
    value (.finite n c e) = value (.finite n' c' e') := by
  obtain ⟨t, d, ht⟩ := exists_readsBack n c e
  obtain ⟨t', d', ht'⟩ := exists_readsBack n' c' e'
  obtain rfl : t = t' := by
    have hsome := h
    rw [ht.text_eq, ht'.text_eq] at hsome
    exact Option.some.inj hsome
  obtain rfl : d = d' := by
    have hsome := ht.parse_eq
    rw [ht'.parse_eq] at hsome
    exact (Option.some.inj hsome).symm
  rw [← ht.value_eq, ht'.value_eq]

theorem magnitude_nonneg (c : ℕ) (e : ℤ) : (0 : ℚ) ≤ c * 10 ^ e := by positivity

theorem magnitude_eq_zero {e : ℤ} (h : (c : ℚ) * 10 ^ e = 0) : c = 0 := by
  rcases mul_eq_zero.1 h with h | h
  · exact_mod_cast h
  · exact absurd h (by positivity)

/-- Equal numbers have equal signs and magnitudes, unless both are zero. -/
theorem eq_of_value_eq {n' : Bool} {c' : ℕ} {e e' : ℤ}
    (h : value (.finite n c e) = value (.finite n' c' e')) :
    (c : ℚ) * 10 ^ e = c' * 10 ^ e' ∧ (n = n' ∨ c = 0 ∧ c' = 0) := by
  have hc := magnitude_nonneg c e
  have hc' := magnitude_nonneg c' e'
  simp only [value, mul_assoc] at h
  cases n <;> cases n' <;>
    simp only [Bool.false_eq_true, if_false, if_true, one_mul, neg_one_mul, neg_inj] at h
  · exact ⟨h, .inl rfl⟩
  · have hzero : (c : ℚ) * 10 ^ e = 0 := by linarith
    have hzero' : (c' : ℚ) * 10 ^ e' = 0 := by linarith
    exact ⟨hzero.trans hzero'.symm, .inr ⟨magnitude_eq_zero hzero, magnitude_eq_zero hzero'⟩⟩
  · have hzero : (c : ℚ) * 10 ^ e = 0 := by linarith
    have hzero' : (c' : ℚ) * 10 ^ e' = 0 := by linarith
    exact ⟨hzero.trans hzero'.symm, .inr ⟨magnitude_eq_zero hzero, magnitude_eq_zero hzero'⟩⟩
  · exact ⟨h, .inl rfl⟩

theorem text_zero (n : Bool) (e : ℤ) : text (.finite n 0 e) = some (signText n ++ ['0']) := by
  have hzero : ((0 : ℕ) : ℚ) * 10 ^ e = ((0 : ℕ) : ℚ) * 10 ^ (0 : ℤ) := by simp
  rw [text_congr n hzero, text_of_nonneg (le_refl 0)]
  rfl

end Reading

end Decimal

/-! ## Seals -/

mutual

/-- The second value is the first one with `y` in the place of some occurrences of `x`. -/
def Value.Rewritten (x y : Decimal) : Value → Value → Prop
  | .decimal d, v => v = .decimal d ∨ (d = x ∧ v = .decimal y)
  | .arr items, v => ∃ items', v = .arr items' ∧ ItemsRewritten x y items items'
  | .obj members, v => ∃ members', v = .obj members' ∧ MembersRewritten x y members members'
  | u, v => v = u

def ItemsRewritten (x y : Decimal) : List Value → List Value → Prop
  | [], l => l = []
  | u :: l, l' => ∃ v rest, l' = v :: rest ∧ u.Rewritten x y v ∧ ItemsRewritten x y l rest

def MembersRewritten (x y : Decimal) : List (Str × Value) → List (Str × Value) → Prop
  | [], l => l = []
  | (k, u) :: l, l' => ∃ v rest, l' = (k, v) :: rest ∧ u.Rewritten x y v ∧
    MembersRewritten x y l rest

end

section Seals

variable {x y : Decimal}

mutual

/-- Numbers with one text are interchangeable in a canonical form. -/
theorem Value.Rewritten.canonicalize_eq (htext : x.text = y.text) (exclude : List Str) :
    (u v : Value) → u.Rewritten x y v → canonicalize exclude u = canonicalize exclude v
  | .decimal d, v, h => by
    rcases h with rfl | ⟨rfl, rfl⟩
    · rfl
    · simp only [canonicalize, htext]
  | .arr items, v, h => by
    obtain ⟨items', rfl, hitems⟩ := h
    simp only [canonicalize, ItemsRewritten.canonicalize_eq htext exclude items items' hitems]
  | .obj members, v, h => by
    obtain ⟨members', rfl, hmembers⟩ := h
    simp only [canonicalize,
      MembersRewritten.canonicalize_eq htext exclude members members' hmembers]
  | .null, v, h => congrArg (canonicalize exclude) h.symm
  | .bool _, v, h => congrArg (canonicalize exclude) h.symm
  | .int _, v, h => congrArg (canonicalize exclude) h.symm
  | .float, v, h => congrArg (canonicalize exclude) h.symm
  | .str _, v, h => congrArg (canonicalize exclude) h.symm
  | .unencodable, v, h => congrArg (canonicalize exclude) h.symm
  | .datetime _, v, h => congrArg (canonicalize exclude) h.symm
  | .date _, v, h => congrArg (canonicalize exclude) h.symm
  | .bytes _, v, h => congrArg (canonicalize exclude) h.symm

theorem ItemsRewritten.canonicalize_eq (htext : x.text = y.text) (exclude : List Str) :
    (l l' : List Value) → ItemsRewritten x y l l' →
      canonicalizeItems exclude l = canonicalizeItems exclude l'
  | [], l', h => congrArg (canonicalizeItems exclude) h.symm
  | u :: l, l', h => by
    obtain ⟨v, rest, rfl, hu, hl⟩ := h
    simp only [canonicalizeItems, Value.Rewritten.canonicalize_eq htext exclude u v hu,
      ItemsRewritten.canonicalize_eq htext exclude l rest hl]

theorem MembersRewritten.canonicalize_eq (htext : x.text = y.text) (exclude : List Str) :
    (l l' : List (Str × Value)) → MembersRewritten x y l l' →
      canonicalizeMembers exclude l = canonicalizeMembers exclude l'
  | [], l', h => congrArg (canonicalizeMembers exclude) h.symm
  | (k, u) :: l, l', h => by
    obtain ⟨v, rest, rfl, hu, hl⟩ := h
    simp only [canonicalizeMembers, Value.Rewritten.canonicalize_eq htext exclude u v hu,
      MembersRewritten.canonicalize_eq htext exclude l rest hl]

end

/-- Two numbers have one text exactly if they are equal, their texts read back as them, and
artifacts that differ only in which of the two equal numbers they hold have one seal. -/
structure OneText (x y : Decimal) : Prop where
  text_iff : x.text = y.text ↔ x.value = y.value
  reads_back : ∀ z ∈ [x, y], z.InRange → ∃ t d, z.text = some t ∧ Decimal.ofText t = some d ∧
    d.value = z.value
  seal_eq : x.value = y.value → ∀ (P : Platform) {α : Type} [Artifact α] (a b : α),
    (Artifact.dump a).Rewritten x y (Artifact.dump b) →
    Artifact.sealDigest P a = Artifact.sealDigest P b

/-- Amounts have one text, save the two zeros: they keep their signs. -/
theorem oneText_iff (n n' : Bool) (c c' : ℕ) (e e' : ℤ) :
    OneText (.finite n c e) (.finite n' c' e') ↔ ¬ (c = 0 ∧ c' = 0 ∧ n ≠ n') := by
  have hreads : ∀ n c e, (Decimal.finite n c e).InRange → ∃ t d,
      (Decimal.finite n c e).text = some t ∧ Decimal.ofText t = some d ∧
      d.value = (Decimal.finite n c e).value := by
    intro n c e hrange
    obtain ⟨t, d, h⟩ := Decimal.exists_readsBack n c e
    refine ⟨t, d, h.text_eq, ?_, h.value_eq⟩
    unfold Decimal.ofText
    rw [h.parse_eq, Option.filter_some, if_pos (decide_eq_true (h.inRange hrange))]
  constructor
  · rintro h ⟨rfl, rfl, hsign⟩
    have htext := h.text_iff.2 (by simp [Decimal.value])
    rw [Decimal.text_zero, Decimal.text_zero] at htext
    cases n <;> cases n' <;> first | exact hsign rfl | exact absurd htext (by decide)
  · intro hzero
    have htext : Decimal.value (.finite n c e) = Decimal.value (.finite n' c' e') →
        Decimal.text (.finite n c e) = Decimal.text (.finite n' c' e') := by
      intro hvalue
      obtain ⟨hmagnitude, hsign⟩ := Decimal.eq_of_value_eq hvalue
      obtain rfl : n = n' := by
        by_contra hne
        exact hzero ⟨(hsign.resolve_left hne).1, (hsign.resolve_left hne).2, hne⟩
      exact Decimal.text_congr n hmagnitude
    refine ⟨⟨Decimal.value_eq_of_text_eq, htext⟩, ?_, ?_⟩
    · intro z hz
      simp only [List.mem_cons, List.not_mem_nil, or_false] at hz
      rcases hz with rfl | rfl
      · exact hreads n c e
      · exact hreads n' c' e'
    · intro hvalue P α _ a b hab
      unfold Artifact.sealDigest sha256Digest
      rw [hab.canonicalize_eq (htext hvalue)]

/-- Both zeros are proportions, equal as numbers, and written in two ways. -/
theorem sample_zero_texts : Decimal.isProportion (.finite true 0 0) = true ∧
    Decimal.isProportion (.finite false 0 0) = true ∧
    Decimal.value (.finite true 0 0) = Decimal.value (.finite false 0 0) ∧
    Decimal.text (.finite true 0 0) ≠ Decimal.text (.finite false 0 0) := by
  refine ⟨by decide, by decide, ?_, by decide⟩
  simp [Decimal.value]

end Seals

end ProofFlow
