import ProofFlow.Kit.Numeral
import ProofFlow.RoundTrip
import ProofFlow.Server.Chunked

/-!
# The Content-Length header

The part of `_read_json_body` that reads the `Content-Length` of a request without chunks.  The
declared length may have any number of digits, and it is compared with the limit as a text, before
it is converted.  Both conversions between `int` and `str` raise on more than 4300 digits.
-/

namespace ProofFlow.Server

open Kit

/-! ## Conversions -/

/-- `sys.get_int_max_str_digits()`. -/
def maxStrDigits : ℕ := 4300

/-- `str(n)`. -/
def strOfNat (n : ℕ) : Except PyErr Str :=
  if (decimalText n).length ≤ maxStrDigits then .ok (decimalText n)
  else .error (.valueError "Exceeds the limit (4300 digits) for integer string conversion")

/-- `int(s)` of ASCII digits. -/
def natOfStr (s : Str) : Except PyErr ℕ :=
  if s.length ≤ maxStrDigits then .ok (digitsValue s)
  else .error (.valueError "Exceeds the limit (4300 digits) for integer string conversion")

/-! ## The header -/

/-- `_strict_http_ows_value`. -/
def strictHttpOwsValue (value : Str) : Option Str :=
  if value.any fun c => decide (0x7E < c.toNat) || decide (c.toNat = 0x7F) ||
      (decide (c.toNat < 0x20) && decide (c ≠ '\t')) then none
  else
    let isBlank := fun c : Char => c = ' ' || c = '\t'
    some ((value.dropWhile isBlank).reverse.dropWhile isBlank).reverse

def lengthRequired : BodyError :=
  .protocolError 411 "LENGTH_REQUIRED" "Content-Length or Transfer-Encoding: chunked is required"

def ambiguousContentLength : BodyError :=
  .protocolError 400 "AMBIGUOUS_CONTENT_LENGTH" "exactly one Content-Length is required"

def invalidContentLength : BodyError :=
  .protocolError 400 "INVALID_CONTENT_LENGTH"
    "Content-Length must be one non-negative decimal integer"

/-- `raw_length.isascii() and raw_length.isdigit()`. -/
def isAsciiDigits (rawLength : Str) : Bool := decide (rawLength ≠ []) && rawLength.all isDigit

/-- `raw_length.lstrip("0") or "0"`. -/
def normalizedLength (rawLength : Str) : Str :=
  let stripped := rawLength.dropWhile (· = '0')
  if stripped = [] then ['0'] else stripped

/-- `content_length_exceeds_limit`. -/
def contentLengthExceedsLimit (normalizedLength maxBodyLength : Str) : Bool :=
  decide (maxBodyLength.length < normalizedLength.length) ||
    (decide (normalizedLength.length = maxBodyLength.length) &&
      decide (maxBodyLength < normalizedLength))

/-- The declared length of the body, or the response to a length over the limit. -/
def declaredLength (maxBodyBytes : ℕ) (rawLength : Str) : Except PyErr (Except BodyError ℕ) := do
  let maxBodyLength ← strOfNat maxBodyBytes
  if contentLengthExceedsLimit (normalizedLength rawLength) maxBodyLength then
    return .error BodyError.tooLarge
  return .ok (← natOfStr (normalizedLength rawLength))

/-- The length of the body, from the values of all `Content-Length` headers. -/
def contentLength (maxBodyBytes : ℕ) : List Str → Except PyErr (Except BodyError ℕ)
  | [] => .ok (.error lengthRequired)
  | [value] =>
    if ',' ∈ value then .ok (.error ambiguousContentLength)
    else match strictHttpOwsValue value with
      | none => .ok (.error invalidContentLength)
      | some rawLength =>
        if isAsciiDigits rawLength then declaredLength maxBodyBytes rawLength
        else .ok (.error invalidContentLength)
  | _ => .ok (.error ambiguousContentLength)

/-! ## The comparison -/

variable {s t : Str} {n : ℕ} {c d : Char}

theorem digitsValue_eq_numeralValue (s : Str) :
    digitsValue s = numeralValue 10 (fun c : Char => c.toNat - 48) s := rfl

theorem digit_lt_ten (h : isDigit c = true) : c.toNat - 48 < 10 := by
  simp only [isDigit, Bool.and_eq_true, decide_eq_true_eq] at h
  omega

/-- Digits are ordered as their values are. -/
theorem digit_lt_iff (hc : isDigit c = true) (hd : isDigit d = true) :
    c.toNat - 48 < d.toNat - 48 ↔ c < d := by
  have hlt : c < d ↔ c.toNat < d.toNat := UInt32.lt_iff_toNat_lt
  simp only [isDigit, Bool.and_eq_true, decide_eq_true_eq] at hc hd
  rw [hlt]
  omega

theorem isDigit_of_mem_normalizedLength (hs : ∀ c ∈ s, isDigit c = true)
    (hc : c ∈ normalizedLength s) : isDigit c = true := by
  rw [normalizedLength] at hc
  split_ifs at hc
  · obtain rfl := List.mem_singleton.1 hc
    rfl
  · exact hs c ((List.dropWhile_suffix _).mem hc)

theorem length_normalizedLength_pos (s : Str) : 0 < (normalizedLength s).length := by
  rw [normalizedLength]
  split_ifs with hnil
  · exact Nat.one_pos
  · exact List.length_pos_iff.2 hnil

theorem digitsValue_normalizedLength (s : Str) :
    digitsValue (normalizedLength s) = digitsValue s := by
  have hdrop : digitsValue (s.dropWhile (· = '0')) = digitsValue s :=
    numeralValue_dropWhile _ fun c hc => by
      rw [of_decide_eq_true hc]
      rfl
  rw [normalizedLength, ← hdrop]
  split_ifs with hnil
  · rw [hnil]
    rfl
  · rfl

/-- A longer normalized length has no leading zero. -/
theorem pow_le_normalizedLength (h : 1 < (normalizedLength s).length)
    (hs : ∀ c ∈ s, isDigit c = true) :
    10 ^ ((normalizedLength s).length - 1) ≤ digitsValue (normalizedLength s) := by
  have hdigit := fun c => isDigit_of_mem_normalizedLength (c := c) hs
  rw [digitsValue_eq_numeralValue]
  rw [normalizedLength] at h hdigit ⊢
  by_cases hnil : s.dropWhile (· = '0') = []
  · rw [if_pos hnil] at h
    exact absurd h (by decide)
  rw [if_neg hnil] at h hdigit ⊢
  obtain ⟨c, rest, hcons⟩ := List.exists_cons_of_ne_nil hnil
  rw [hcons] at h hdigit ⊢
  have hc : c ≠ '0' := by
    have hnot := List.head?_dropWhile_not (fun c : Char => decide (c = '0')) s
    rw [hcons] at hnot
    simpa using hnot
  refine pow_le_numeralValue fun hzero => hc (Char.ext (UInt32.toNat_inj.1 ?_))
  have hrange := hdigit c List.mem_cons_self
  simp only [isDigit, Bool.and_eq_true, decide_eq_true_eq] at hrange
  change c.toNat = 48
  omega

/-- `str(n)` has no leading zero. -/
theorem pow_le_decimalText (h : 1 < (decimalText n).length) :
    10 ^ ((decimalText n).length - 1) ≤ n := by
  by_contra hlt
  have hle := (Nat.length_toDigits_le_iff (b := 10) (n := n) (k := (decimalText n).length - 1)
    (by decide) (by omega)).2 (not_le.1 hlt)
  have hlen : (decimalText n).length ≤ (decimalText n).length - 1 := hle
  omega

/-- The texts are compared as the numbers are. -/
theorem contentLengthExceedsLimit_iff (hs : ∀ c ∈ s, isDigit c = true) :
    contentLengthExceedsLimit (normalizedLength s) (decimalText n) = true ↔ n < digitsValue s := by
  have hdigit := fun c => isDigit_of_mem_normalizedLength (c := c) hs
  have hlimit : ∀ c ∈ decimalText n, isDigit c = true := fun _ => isDigit_of_mem_decimalText
  have hpos := List.length_pos_iff.2 (decimalText_ne_nil n)
  have hpos' := length_normalizedLength_pos s
  have hlt := numeralValue_lt_iff (b := 10) (s := decimalText n) (t := normalizedLength s)
    (fun c hc => digit_lt_ten (hlimit c hc)) (fun c hc => digit_lt_ten (hdigit c hc))
    (fun c hc d hd => ⟨digit_lt_iff (hlimit c hc) (hdigit d hd),
      digit_lt_iff (hdigit d hd) (hlimit c hc)⟩)
    (fun h => by
      rw [← digitsValue_eq_numeralValue, digitsValue_decimalText]
      exact pow_le_decimalText (by omega))
    (fun h => pow_le_normalizedLength (by omega) hs) (by decide)
  rw [← digitsValue_eq_numeralValue, ← digitsValue_eq_numeralValue, digitsValue_decimalText,
    digitsValue_normalizedLength] at hlt
  rw [hlt, contentLengthExceedsLimit, Bool.or_eq_true, Bool.and_eq_true, decide_eq_true_eq,
    decide_eq_true_eq, decide_eq_true_eq]
  exact or_congr_right (and_congr_left' eq_comm)

/-! ## The declared length -/

/-- A number with at most 4300 digits is printed. -/
theorem strOfNat_eq_ok : strOfNat n = .ok (decimalText n) ↔ n < 10 ^ maxStrDigits := by
  have hlen : (decimalText n).length ≤ maxStrDigits ↔ n < 10 ^ maxStrDigits :=
    Nat.length_toDigits_le_iff (by decide) (by decide)
  rw [strOfNat, ← hlen]
  split_ifs with h
  · exact iff_of_true rfl h
  · exact iff_of_false nofun h

/-- A normalized length within the limit has no more digits than the limit. -/
theorem length_normalizedLength_le
    (h : contentLengthExceedsLimit (normalizedLength s) t = false) :
    (normalizedLength s).length ≤ t.length := by
  rw [contentLengthExceedsLimit, Bool.or_eq_false_iff, decide_eq_false_iff_not] at h
  exact not_lt.1 h.1

/-- The declared length is read as a number, however long its text is. -/
theorem declaredLength_eq (hs : ∀ c ∈ s, isDigit c = true) (hn : n < 10 ^ maxStrDigits) :
    declaredLength n s =
      .ok (if n < digitsValue s then .error BodyError.tooLarge else .ok (digitsValue s)) := by
  have hstr := strOfNat_eq_ok.2 hn
  have hlimit : (decimalText n).length ≤ maxStrDigits :=
    (Nat.length_toDigits_le_iff (by decide) (by decide)).2 hn
  rw [declaredLength, hstr, ok_bind]
  by_cases hlt : n < digitsValue s
  · rw [if_pos ((contentLengthExceedsLimit_iff hs).2 hlt), if_pos hlt]
    rfl
  · have hwithin := Bool.eq_false_iff.2 (mt (contentLengthExceedsLimit_iff hs).1 hlt)
    have hnat : natOfStr (normalizedLength s) = .ok (digitsValue s) := by
      rw [natOfStr, if_pos ((length_normalizedLength_le hwithin).trans hlimit),
        digitsValue_normalizedLength]
    rw [hwithin, if_neg hlt, hnat]
    rfl

/-- A limit with more digits cannot be printed, whatever the request declares. -/
theorem declaredLength_raises (hn : 10 ^ maxStrDigits ≤ n) (s : Str) :
    ∃ e, declaredLength n s = .error e := by
  have hlen : ¬ (decimalText n).length ≤ maxStrDigits := fun h =>
    hn.not_gt ((Nat.length_toDigits_le_iff (by decide) (by decide)).1 h)
  rw [declaredLength, strOfNat, if_neg hlen]
  exact ⟨_, rfl⟩

theorem mem_dropWhile_of_not {p : Char → Bool} (hc : c ∈ s) (hp : p c = false) :
    c ∈ s.dropWhile p := by
  rw [← List.takeWhile_append_dropWhile (p := p) (l := s)] at hc
  refine (List.mem_append.1 hc).resolve_left fun htake => ?_
  rw [List.mem_takeWhile_imp htake] at hp
  cases hp

/-- A character of a header value that is not a blank is one of its stripped form. -/
theorem mem_of_strictHttpOwsValue (h : strictHttpOwsValue s = some t) (hc : c ∈ s)
    (hblank : (decide (c = ' ') || decide (c = '\t')) = false) : c ∈ t := by
  rw [strictHttpOwsValue] at h
  split_ifs at h
  obtain rfl := Option.some.inj h
  refine List.mem_reverse.2 (mem_dropWhile_of_not (List.mem_reverse.2 ?_) (by simpa using hblank))
  exact mem_dropWhile_of_not hc (by simpa using hblank)

/-- A single header with a number, blanks around it included, is answered by the comparison. -/
theorem contentLength_of_digits (h : strictHttpOwsValue s = some t) (ht : isAsciiDigits t = true) :
    contentLength n [s] = declaredLength n t := by
  have hdigits : ∀ c ∈ t, isDigit c = true := by
    rw [isAsciiDigits, Bool.and_eq_true] at ht
    exact List.all_eq_true.1 ht.2
  have hcomma : ',' ∉ s := fun hmem =>
    absurd (hdigits _ (mem_of_strictHttpOwsValue h hmem (by decide))) (by decide)
  rw [contentLength, if_neg hcomma, h]
  exact if_pos ht

/-- The comparison of texts decides the size, and within the limit the number is read. -/
theorem declared_length_exact (hs : isAsciiDigits s = true) (hn : n < 10 ^ maxStrDigits) :
    (declaredLength n s = .ok (.error BodyError.tooLarge) ↔ n < digitsValue s) ∧
      (¬ n < digitsValue s → declaredLength n s = .ok (.ok (digitsValue s))) := by
  have hdigits : ∀ c ∈ s, isDigit c = true := by
    rw [isAsciiDigits, Bool.and_eq_true] at hs
    exact List.all_eq_true.1 hs.2
  rw [declaredLength_eq hdigits hn]
  split_ifs with hlt
  · exact ⟨iff_of_true rfl hlt, fun hnot => absurd hlt hnot⟩
  · exact ⟨iff_of_false nofun hlt, fun _ => rfl⟩

/-- The limit itself is within the limit, with zeros in front of it. -/
theorem sample_declared_length_exact :
    (declaredLength 8 (lit "0008") = .ok (.error BodyError.tooLarge) ↔
      8 < digitsValue (lit "0008")) ∧
      (¬ 8 < digitsValue (lit "0008") →
        declaredLength 8 (lit "0008") = .ok (.ok (digitsValue (lit "0008")))) :=
  declared_length_exact (by decide)
    (Nat.lt_of_lt_of_le
      (by decide) (Nat.pow_le_pow_right (by decide) (by decide : 1 ≤ maxStrDigits)))

/-- With a limit of 4301 digits the request is not answered. -/
theorem sample_declared_length_raises :
    ¬ ∀ (n : ℕ) (s : Str), 0 < n → isAsciiDigits s = true →
      (declaredLength n s = .ok (.error BodyError.tooLarge) ↔ n < digitsValue s) ∧
        (¬ n < digitsValue s → declaredLength n s = .ok (.ok (digitsValue s))) := by
  intro h
  obtain ⟨-, hwithin⟩ := h (10 ^ maxStrDigits) ['1'] (Nat.pow_pos (by decide)) (by decide)
  obtain ⟨e, he⟩ := declaredLength_raises (le_refl (10 ^ maxStrDigits)) ['1']
  have hle : ¬ 10 ^ maxStrDigits < digitsValue ['1'] := not_lt.2 (Nat.one_le_pow _ _ (by decide))
  rw [hwithin hle] at he
  cases he

end ProofFlow.Server
