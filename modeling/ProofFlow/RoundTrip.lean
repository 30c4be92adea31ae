import ProofFlow.Canonical

/-!
# Reading canonical JSON back

`json.loads` inverts `canonical_json`: the bytes of a structure are read back as the same structure,
with the members of each object in the order of their keys.  The proof follows the layers of the
decoder (UTF-8, string literals, integers, values).
-/

namespace ProofFlow

/-- A character as a code point of a Python `str`. -/
def toCodePoint (c : Char) : CodePoint := ⟨c.toNat, by
  have h : c.toNat < 0xd800 ∨ 0xdfff < c.toNat ∧ c.toNat < 0x110000 := c.valid
  omega⟩

/-- A string of a validated model as a Python `str`. -/
def toPyStr (s : Str) : PyStr := s.map toCodePoint

@[simp] theorem toCodePoint_val (c : Char) : (toCodePoint c).val = c.toNat := rfl

@[simp] theorem toPyStr_nil : toPyStr [] = [] := rfl

@[simp] theorem toPyStr_cons (c : Char) (s : Str) : toPyStr (c :: s) = toCodePoint c :: toPyStr s :=
  rfl

@[simp] theorem toPyStr_append (s t : Str) : toPyStr (s ++ t) = toPyStr s ++ toPyStr t :=
  List.map_append

@[simp] theorem length_toPyStr (s : Str) : (toPyStr s).length = s.length := List.length_map _

theorem toCodePoint_injective : Function.Injective toCodePoint := by
  intro c d h
  have hval : c.toNat = d.toNat := by
    rw [← toCodePoint_val, h, toCodePoint_val]
  exact Char.ext (UInt32.toNat.inj hval)

theorem toPyStr_injective : Function.Injective toPyStr :=
  List.map_injective_iff.2 toCodePoint_injective

/-! ## UTF-8 -/

section Utf8

variable {acc : PyStr} {rest : Bytes}

/-- The last byte of a sequence. -/
theorem decodeUtf8_last {bits lo hi n : ℕ} (c : Char) (hlo : lo ≤ n) (hhi : n ≤ hi) (hn : n < 256)
    (hc : bits * 64 + (n - 0x80) = c.toNat) :
    decodeUtf8 ⟨1, bits, lo, hi⟩ acc (UInt8.ofNat n :: rest) =
      decodeUtf8 .start (toCodePoint c :: acc) rest := by
  have hb : (UInt8.ofNat n).toNat = n := UInt8.toNat_ofNat_of_lt' hn
  have hcode : codePoint? c.toNat = some (toCodePoint c) := dif_pos (toCodePoint c).isLt
  rw [decodeUtf8]
  simp [hb, utf8Continue, hlo, hhi, hc, hcode]

/-- A byte inside a sequence that is not its last. -/
theorem decodeUtf8_inner {missing bits lo hi n : ℕ} (hm : missing ≠ 0) (hlo : lo ≤ n) (hhi : n ≤ hi)
    (hn : n < 256) :
    decodeUtf8 ⟨missing + 1, bits, lo, hi⟩ acc (UInt8.ofNat n :: rest) =
      decodeUtf8 ⟨missing, bits * 64 + (n - 0x80), 0x80, 0xbf⟩ acc rest := by
  have hb : (UInt8.ofNat n).toNat = n := UInt8.toNat_ofNat_of_lt' hn
  rw [decodeUtf8]
  simp [hb, utf8Continue, hlo, hhi, hm]

/-- The first byte of a sequence of several bytes. -/
theorem decodeUtf8_lead {n : ℕ} {state : Utf8State} (hn : 0x80 ≤ n) (hn' : n < 256)
    (h : utf8Lead n = some state) :
    decodeUtf8 .start acc (UInt8.ofNat n :: rest) = decodeUtf8 state acc rest := by
  have hb : (UInt8.ofNat n).toNat = n := UInt8.toNat_ofNat_of_lt' hn'
  rw [decodeUtf8]
  simp [hb, Utf8State.start, Nat.not_lt.2 hn, h]

/-- The bytes of a character are read as that character. -/
theorem decodeUtf8_encodeChar (c : Char) :
    decodeUtf8 .start acc (String.utf8EncodeChar c ++ rest) =
      decodeUtf8 .start (toCodePoint c :: acc) rest := by
  have hc : c.toNat < 0xd800 ∨ 0xdfff < c.toNat ∧ c.toNat < 0x110000 := c.valid
  have hv : c.val.toNat = c.toNat := rfl
  unfold String.utf8EncodeChar
  simp only [hv]
  split_ifs with h₁ h₂ h₃
  · have hlt : c.toNat < UInt8.size := Nat.lt_of_le_of_lt h₁ (by decide)
    have hb : (UInt8.ofNat c.toNat).toNat = c.toNat := UInt8.toNat_ofNat_of_lt' hlt
    have hcode : Fin.ofNat 0x110000 c.toNat = toCodePoint c :=
      Fin.ext (Nat.mod_eq_of_lt (toCodePoint c).isLt)
    rw [List.singleton_append, decodeUtf8]
    simp only [Utf8State.start, ↓reduceIte, hb, hcode]
    rw [if_pos (by omega)]
  · have hlead : utf8Lead (c.toNat / 64 % 0x20 + 0xc0) =
        some ⟨1, c.toNat / 64 % 0x20, 0x80, 0xbf⟩ := by
      unfold utf8Lead
      rw [if_neg (by omega), if_pos (by omega), Nat.add_sub_cancel]
    simp only [List.cons_append, List.nil_append]
    rw [decodeUtf8_lead (by omega) (by omega) hlead,
      decodeUtf8_last c (by omega) (by omega) (by omega) (by omega)]
  · have hlead : utf8Lead (c.toNat / 4096 % 0x10 + 0xe0) = some ⟨2, c.toNat / 4096 % 0x10,
        if c.toNat / 4096 % 0x10 + 0xe0 = 0xe0 then 0xa0 else 0x80, 0xbf⟩ := by
      unfold utf8Lead
      rw [if_neg (by omega), if_neg (by omega), if_pos (by omega), Nat.add_sub_cancel]
    simp only [List.cons_append, List.nil_append]
    rw [decodeUtf8_lead (by omega) (by omega) hlead,
      decodeUtf8_inner (by omega) (by split_ifs <;> omega) (by omega) (by omega),
      decodeUtf8_last c (by omega) (by omega) (by omega) (by omega)]
  · have hlead : utf8Lead (c.toNat / 262144 % 0x08 + 0xf0) = some ⟨3, c.toNat / 262144 % 0x08,
        if c.toNat / 262144 % 0x08 + 0xf0 = 0xf0 then 0x90 else 0x80,
        if c.toNat / 262144 % 0x08 + 0xf0 = 0xf4 then 0x8f else 0xbf⟩ := by
      unfold utf8Lead
      rw [if_neg (by omega), if_neg (by omega), if_neg (by omega), if_pos (by omega),
        Nat.add_sub_cancel]
    simp only [List.cons_append, List.nil_append]
    rw [decodeUtf8_lead (by omega) (by omega) hlead,
      decodeUtf8_inner (by omega) (by split_ifs <;> omega) (by split_ifs <;> omega) (by omega),
      decodeUtf8_inner (by omega) (by omega) (by omega) (by omega),
      decodeUtf8_last c (by omega) (by omega) (by omega) (by omega)]

theorem decodeUtf8_encodeUtf8 (s : Str) :
    decodeUtf8 .start acc (encodeUtf8 s) = some (acc.reverse ++ toPyStr s) := by
  induction s generalizing acc with
  | nil => simp [encodeUtf8, decodeUtf8, Utf8State.start]
  | cons c s ih =>
    have hcons : encodeUtf8 (c :: s) = String.utf8EncodeChar c ++ encodeUtf8 s := rfl
    rw [hcons, decodeUtf8_encodeChar, ih]
    simp

theorem encodeChar_ascii {c : Char} (h : 0 < c.toNat ∧ c.toNat < 0x80) :
    ∃ x : UInt8, String.utf8EncodeChar c = [x] ∧ 0 < x.toNat ∧ x.toNat < 0x80 := by
  have hv : c.val.toNat = c.toNat := rfl
  have hlt : c.toNat < UInt8.size := Nat.lt_trans h.2 (by decide)
  refine ⟨UInt8.ofNat c.toNat, ?_, ?_⟩
  · unfold String.utf8EncodeChar
    rw [if_pos (by omega), hv]
  · rwa [UInt8.toNat_ofNat_of_lt' hlt]

/-- UTF-8 is detected when the text starts with two ASCII characters other than NUL. -/
theorem decodeDetected_encodeUtf8 {a b : Char} {s : Str} (ha : 0 < a.toNat ∧ a.toNat < 0x80)
    (hb : 0 < b.toNat ∧ b.toNat < 0x80) :
    decodeDetected (encodeUtf8 (a :: b :: s)) = some (toPyStr (a :: b :: s)) := by
  obtain ⟨x, hx, hx0, hx1⟩ := encodeChar_ascii ha
  obtain ⟨y, hy, hy0, hy1⟩ := encodeChar_ascii hb
  have hbytes : encodeUtf8 (a :: b :: s) = x :: y :: encodeUtf8 s := by
    simp [encodeUtf8, hx, hy]
  have hdecode : decodeUtf8 .start [] (x :: y :: encodeUtf8 s) = some (toPyStr (a :: b :: s)) := by
    rw [← hbytes, decodeUtf8_encodeUtf8]
    rfl
  rw [hbytes]
  generalize encodeUtf8 s = tail at hdecode
  have hx0' : x ≠ 0 := by
    rintro rfl
    exact absurd hx0 (by decide)
  have hy0' : y ≠ 0 := by
    rintro rfl
    exact absurd hy0 (by decide)
  have hbom {c : UInt8} {bom : Bytes} (hc : x ≠ c) :
      ¬ startsWith (x :: y :: tail) (c :: bom) = true := by
    simp only [startsWith, List.isPrefixOf, Bool.and_eq_true, beq_iff_eq]
    exact fun h => hc h.1.symm
  have hascii {c : UInt8} (hc : 0x80 ≤ c.toNat) : x ≠ c := by
    rintro rfl
    exact absurd hx1 (Nat.not_lt.2 hc)
  unfold decodeDetected
  rw [if_neg (hbom hx0'), if_neg (hbom (hascii (by decide))), if_neg (hbom (hascii (by decide))),
    if_neg (hbom (hascii (by decide))), if_neg (hbom (hascii (by decide)))]
  match tail with
  | [] =>
    simp only [if_neg hx0', if_neg hy0']
    exact hdecode
  | [b2] => exact hdecode
  | b2 :: b3 :: rest =>
    simp only [if_neg hx0', if_neg hy0']
    exact hdecode

end Utf8

/-! ## String literals -/

theorem hexValue_hexDigit {n : ℕ} (h : n < 16) : hexValue (toCodePoint (hexDigit n)) = some n := by
  have checked : ∀ k : Fin 16, hexValue (toCodePoint (hexDigit k)) = some k.val := by decide
  exact checked ⟨n, h⟩

/-- An escape with another letter is no `\u` escape. -/
theorem unicodeEscape_eq_none {b e : CodePoint} {rest : PyStr} (he : e.val ≠ 117) :
    unicodeEscape (b :: e :: rest) = none := by
  unfold unicodeEscape
  split <;> simp_all

theorem scanEscape_short (b : CodePoint) {e c : CodePoint} (rest : PyStr) (he : e.val ≠ 117)
    (hc : escapeValue e = some c) : scanEscape (b :: e :: rest) = some (c, rest) := by
  simp [scanEscape, unicodeEscape_eq_none he, hc]

/-- The escape of a control character. -/
theorem scanEscape_control {c : Char} (rest : PyStr) (hc : c.toNat < 32) :
    scanEscape (toPyStr ['\\', 'u', '0', '0', hexDigit (c.toNat / 16), hexDigit (c.toNat % 16)] ++
      rest) = some (toCodePoint c, rest) := by
  have hescape : unicodeEscape (toPyStr ['\\', 'u', '0', '0', hexDigit (c.toNat / 16),
      hexDigit (c.toNat % 16)] ++ rest) = some (toCodePoint c, rest) := by
    have h0 : hexValue (toCodePoint '0') = some 0 := by decide
    have hvalue : c.toNat / 16 * 16 + c.toNat % 16 = c.toNat := Nat.div_add_mod' _ _
    have hcode : codePoint? c.toNat = some (toCodePoint c) := dif_pos (toCodePoint c).isLt
    simp [unicodeEscape, hex4, h0, hexValue_hexDigit (n := c.toNat / 16) (by omega),
      hexValue_hexDigit (n := c.toNat % 16) (by omega), hvalue, hcode]
  have hhigh : isHighSurrogate c.toNat = false := by
    simp only [isHighSurrogate, Bool.and_eq_false_imp, decide_eq_true_eq]
    omega
  unfold scanEscape
  rw [hescape]
  simp only [toCodePoint_val, hhigh, Bool.false_and, Bool.false_eq_true, if_false]
  split <;> rfl

/-- The text of a character in a string literal is read as that character. -/
theorem scanString_escapeChar (c : Char) (fuel : ℕ) (acc rest : PyStr) :
    scanString (fuel + 1) acc (toPyStr (escapeChar c) ++ rest) =
      scanString fuel (toCodePoint c :: acc) rest := by
  have short {e : Char} {n : ℕ} (hn : c.toNat = n) (he : e.toNat ≠ 117)
      (hv : escapeValue (toCodePoint e) = codePoint? n) :
      scanString (fuel + 1) acc (toPyStr ['\\', e] ++ rest) =
        scanString fuel (toCodePoint c :: acc) rest := by
    have hcode : codePoint? n = some (toCodePoint c) := hn ▸ dif_pos (toCodePoint c).isLt
    have hscan := scanEscape_short (toCodePoint '\\') rest he (hv.trans hcode)
    simp only [toPyStr_cons, toPyStr_nil, List.cons_append, List.nil_append]
    rw [scanString]
    simp [hscan]
  unfold escapeChar
  split
  · next h => exact short h (by decide) (by decide)
  · next h => exact short h (by decide) (by decide)
  · next h => exact short h (by decide) (by decide)
  · next h => exact short h (by decide) (by decide)
  · next h => exact short h (by decide) (by decide)
  · next h => exact short h (by decide) (by decide)
  · next h => exact short h (by decide) (by decide)
  · next hquote hslash _ _ _ _ _ =>
    have hquote : c.toNat ≠ 34 := hquote
    have hslash : c.toNat ≠ 92 := hslash
    split_ifs with hlt
    · have hscan := scanEscape_control rest hlt
      simp only [toPyStr_cons, toPyStr_nil, List.cons_append, List.nil_append] at hscan ⊢
      rw [scanString]
      simp [hscan]
    · rw [toPyStr_cons, toPyStr_nil, List.singleton_append, scanString]
      simp [hquote, hslash, hlt]

theorem scanString_dumpString (s : Str) (fuel : ℕ) (acc rest : PyStr) (hfuel : s.length < fuel) :
    scanString fuel acc (toPyStr (s.flatMap escapeChar) ++ toCodePoint '"' :: rest) =
      some (acc.reverse ++ toPyStr s, rest) := by
  induction s generalizing fuel acc with
  | nil =>
    obtain ⟨fuel, rfl⟩ := Nat.exists_eq_succ_of_ne_zero (Nat.ne_of_gt hfuel)
    simp [scanString]
  | cons c s ih =>
    obtain ⟨fuel, rfl⟩ := Nat.exists_eq_succ_of_ne_zero (Nat.ne_of_gt (Nat.zero_lt_of_lt hfuel))
    rw [List.flatMap_cons, toPyStr_append, List.append_assoc, scanString_escapeChar,
      ih fuel _ (by simpa using hfuel)]
    simp

theorem length_escapeChar_pos (c : Char) : 0 < (escapeChar c).length := by
  unfold escapeChar
  split
  all_goals try split_ifs
  all_goals simp

theorem length_le_flatMap_escapeChar (s : Str) : s.length ≤ (s.flatMap escapeChar).length := by
  induction s with
  | nil => simp
  | cons c s ih =>
    have hc := length_escapeChar_pos c
    simp only [List.flatMap_cons, List.length_append, List.length_cons]
    omega

/-! ## Integers -/

/-- What follows a value does not continue a numeral. -/
def Stops (rest : PyStr) : Prop :=
  ∀ c ∈ rest.head?, c.val ≠ 46 ∧ c.val ≠ 101 ∧ c.val ≠ 69 ∧ ¬ (48 ≤ c.val ∧ c.val ≤ 57)

theorem scanDigits_append {ds : Str} {rest : PyStr} (hds : ∀ c ∈ ds, isDigit c = true)
    (hrest : Stops rest) : scanDigits (toPyStr ds ++ rest) = (ds, rest) := by
  induction ds with
  | nil =>
    cases rest with
    | nil => rfl
    | cons c rest =>
      have hc := (hrest c rfl).2.2.2
      simp [scanDigits, hc]
  | cons c ds ih =>
    obtain ⟨hc, hds⟩ := List.forall_mem_cons.1 hds
    have hc : 48 ≤ c.toNat ∧ c.toNat ≤ 57 := by simpa [isDigit] using hc
    simp [scanDigits, hc, ih hds]

theorem isDigit_of_mem_decimalText {n : ℕ} {c : Char} (h : c ∈ decimalText n) :
    isDigit c = true := by
  have hc := Nat.isDigit_of_mem_toDigits (by decide) (by decide) h
  simp only [Char.isDigit, Bool.and_eq_true, decide_eq_true_eq] at hc
  have hlo : 48 ≤ c.toNat := UInt32.le_iff_toNat_le.1 hc.1
  have hhi : c.toNat ≤ 57 := UInt32.le_iff_toNat_le.1 hc.2
  simp [isDigit, hlo, hhi]

theorem digitsValue_decimalText (n : ℕ) : digitsValue (decimalText n) = n := by
  have h := Nat.ofDigitChars_ten_toDigits (n := n)
  rw [Nat.ofDigitChars_eq_foldl] at h
  exact h

theorem decimalText_ne_nil (n : ℕ) : decimalText n ≠ [] := Nat.toDigits_ne_nil

/-- A positive number is not written with a leading zero. -/
theorem head_decimalText {n : ℕ} (hn : n ≠ 0) : ∀ c ∈ (decimalText n).head?, c.toNat ≠ 48 := by
  induction n using Nat.strong_induction_on with
  | _ n ih =>
    by_cases hlt : n < 10
    · have checked : ∀ k : Fin 10, k.val ≠ 0 →
          ((decimalText k).head?.all fun c => c.toNat != 48) = true := by
        decide
      intro c hc
      have hall := checked ⟨n, hlt⟩ hn
      rw [hc, Option.all_some] at hall
      simpa using hall
    · have hle : 10 ≤ n := Nat.not_lt.1 hlt
      have hsplit : decimalText n = decimalText (n / 10) ++ [(n % 10).digitChar] :=
        Nat.toDigits_of_base_le (by decide) hle
      rw [hsplit, List.head?_append_of_ne_nil _ (decimalText_ne_nil _)]
      exact ih (n / 10) (by omega) (by omega)

/-- The sign of a numeral. -/
def signText (negative : Bool) : Str := if negative then ['-'] else []

/-- The digits of a number are read whole: only zero starts with a zero. -/
theorem scanInteger_decimalText (negative : Bool) (n : ℕ) {rest : PyStr} (hrest : Stops rest) :
    scanInteger (toPyStr (signText negative ++ decimalText n) ++ rest) =
      some (negative, decimalText n, rest) := by
  by_cases hn : n = 0
  · subst hn
    cases negative <;> simp [scanInteger, decimalText, signText]
  · have hhead := head_decimalText hn
    have hscan := scanDigits_append (fun c => isDigit_of_mem_decimalText (n := n)) hrest
    cases htext : decimalText n with
    | nil => exact absurd htext (decimalText_ne_nil n)
    | cons d ds =>
      rw [htext] at hhead hscan
      have hd : isDigit d = true := isDigit_of_mem_decimalText (n := n) (by simp [htext])
      have hd : 48 ≤ d.toNat ∧ d.toNat ≤ 57 := by simpa [isDigit] using hd
      have hminus : d.toNat ≠ 45 := by omega
      have hzero : d.toNat ≠ 48 := hhead d rfl
      simp only [toPyStr_cons, List.cons_append] at hscan
      cases negative <;> simp [scanInteger, signText, hminus, hzero, hscan]

theorem scanFraction_of_stops {rest : PyStr} (hrest : Stops rest) :
    scanFraction rest = ([], rest) := by
  cases rest with
  | nil => rfl
  | cons c rest =>
    have hc : c.val ≠ 46 := (hrest c rfl).1
    simp only [scanFraction]
    split
    · next h _ => exact absurd h hc
    · rfl

theorem scanExponent_of_stops {rest : PyStr} (hrest : Stops rest) :
    scanExponent rest = ([], rest) := by
  cases rest with
  | nil => rfl
  | cons c rest =>
    obtain ⟨-, he, hE, -⟩ := hrest c rfl
    simp [scanExponent, he, hE]

theorem dumpInt_eq (n : ℤ) : dumpInt n = signText (decide (n < 0)) ++ decimalText n.natAbs := by
  by_cases hn : n < 0 <;> simp [dumpInt, signText, hn]

theorem scanNumber_dumpInt {n : ℤ} {rest : PyStr}
    (hn : (decimalText n.natAbs).length ≤ maxStrDigits)
    (hrest : Stops rest) : scanNumber (toPyStr (dumpInt n) ++ rest) = .ok (.int n, rest) := by
  have hvalue : (if decide (n < 0) = true then -(n.natAbs : ℤ) else n.natAbs) = n := by
    by_cases h : n < 0
    · simp only [h, decide_true, if_true]
      omega
    · simp only [h, decide_false, Bool.false_eq_true, if_false]
      omega
  unfold scanNumber
  rw [dumpInt_eq, scanInteger_decimalText _ _ hrest]
  simp only [scanFraction_of_stops hrest, scanExponent_of_stops hrest, digitsValue_decimalText,
    and_self, if_true, if_pos hn, hvalue]

/-- A text that starts otherwise is not the literal. -/
theorem eat_eq_none {c : CodePoint} {s : PyStr} {w : ℕ} {word : List ℕ} (h : c.val ≠ w) :
    eat (w :: word) (c :: s) = none := by
  unfold eat
  rw [if_neg]
  simp [h]

/-- `-` followed by a digit does not start `-Infinity`. -/
theorem eat_minusInfinity {m d : CodePoint} {s : PyStr} (h : d.val ≠ 73) :
    eat [45, 73, 110, 102, 105, 110, 105, 116, 121] (m :: d :: s) = none := by
  unfold eat
  rw [if_neg]
  simp [h]

theorem scanScalar_dumpInt {n : ℤ} {rest : PyStr}
    (hn : (decimalText n.natAbs).length ≤ maxStrDigits)
    (hrest : Stops rest) : scanScalar .none (toPyStr (dumpInt n) ++ rest) = .ok (.int n, rest) := by
  have hnumber := scanNumber_dumpInt hn hrest
  rw [dumpInt_eq] at hnumber ⊢
  cases htext : decimalText n.natAbs with
  | nil => exact absurd htext (decimalText_ne_nil _)
  | cons d ds =>
    have hd : isDigit d = true := isDigit_of_mem_decimalText (n := n.natAbs) (by simp [htext])
    have hd : 48 ≤ d.toNat ∧ d.toNat ≤ 57 := by simpa [isDigit] using hd
    rw [htext] at hnumber
    by_cases hneg : n < 0
    · simp only [hneg, decide_true, signText, if_true, List.cons_append, List.nil_append,
        toPyStr_cons] at hnumber ⊢
      unfold scanScalar
      rw [eat_eq_none (by decide), eat_eq_none (by decide), eat_eq_none (by decide),
        eat_eq_none (by decide), eat_eq_none (by decide), eat_minusInfinity (by simp; omega)]
      exact hnumber
    · simp only [hneg, decide_false, signText, Bool.false_eq_true, if_false, List.nil_append,
        toPyStr_cons, List.cons_append] at hnumber ⊢
      unfold scanScalar
      rw [eat_eq_none (by simp; omega), eat_eq_none (by simp; omega), eat_eq_none (by simp; omega),
        eat_eq_none (by simp; omega), eat_eq_none (by simp; omega), eat_eq_none (by simp; omega)]
      exact hnumber

/-! ## Values -/

mutual

/-- What `json.loads` makes of a structure: its objects list their members by key. -/
def Canon.loaded : Canon → Json PyStr
  | .null => .null
  | .bool b => .bool b
  | .int n => .int n
  | .str s => .str (toPyStr s)
  | .arr items => .arr (loadedItems items)
  | .obj members => .obj ((sortMembers (loadedMembers members)).map fun m => (toPyStr m.1, m.2))

def loadedItems : List Canon → List (Json PyStr)
  | [] => []
  | v :: l => v.loaded :: loadedItems l

def loadedMembers : List (Str × Canon) → List (Str × Json PyStr)
  | [] => []
  | (k, v) :: l => (k, v.loaded) :: loadedMembers l

end

mutual

/-- The structure nests at most `depth` deep and its integers are short enough to be read. -/
def Canon.readable (depth : ℕ) : Canon → Bool
  | .int n => decide ((decimalText n.natAbs).length ≤ maxStrDigits)
  | .arr items => 0 < depth && itemsReadable (depth - 1) items
  | .obj members => 0 < depth && membersReadable (depth - 1) members
  | _ => true

def itemsReadable (depth : ℕ) : List Canon → Bool
  | [] => true
  | v :: l => v.readable depth && itemsReadable depth l

def membersReadable (depth : ℕ) : List (Str × Canon) → Bool
  | [] => true
  | (_, v) :: l => v.readable depth && membersReadable depth l

end

theorem renderItems_eq (layout : Layout) (level : ℕ) (l : List Canon) :
    renderItems layout level l = l.map (Canon.render layout level) := by
  induction l with
  | nil => rfl
  | cons v l ih => simp [renderItems, ih]

theorem renderMembers_eq (layout : Layout) (level : ℕ) (l : List (Str × Canon)) :
    renderMembers layout level l = l.map fun m => (m.1, m.2.render layout level) := by
  induction l with
  | nil => rfl
  | cons m l ih => simp [renderMembers, ih]

theorem loadedItems_eq (l : List Canon) : loadedItems l = l.map Canon.loaded := by
  induction l with
  | nil => rfl
  | cons v l ih => simp [loadedItems, ih]

theorem loadedMembers_eq (l : List (Str × Canon)) :
    loadedMembers l = l.map fun m => (m.1, m.2.loaded) := by
  induction l with
  | nil => rfl
  | cons m l ih => simp [loadedMembers, ih]

theorem itemsReadable_iff {depth : ℕ} {l : List Canon} :
    itemsReadable depth l = true ↔ ∀ v ∈ l, v.readable depth = true := by
  induction l with
  | nil => simp [itemsReadable]
  | cons v l ih => simp [itemsReadable, ih]

theorem membersReadable_iff {depth : ℕ} {l : List (Str × Canon)} :
    membersReadable depth l = true ↔ ∀ m ∈ l, m.2.readable depth = true := by
  induction l with
  | nil => simp [membersReadable]
  | cons m l ih => simp [membersReadable, ih]

/-- Sorting by key commutes with a map of the values. -/
theorem sortMembers_map {α β : Type} (f : α → β) (l : List (Str × α)) :
    sortMembers (l.map fun m => (m.1, f m.2)) = (sortMembers l).map fun m => (m.1, f m.2) :=
  (List.map_insertionSort _ _ _ l (by simp)).symm

theorem mem_sortMembers {α : Type} {l : List (Str × α)} {m : Str × α} :
    m ∈ sortMembers l ↔ m ∈ l :=
  List.mem_insertionSort _

/-- JSON whitespace. -/
def IsBlank (s : Str) : Prop := ∀ c ∈ s, c.toNat = 32 ∨ c.toNat = 9 ∨ c.toNat = 10 ∨ c.toNat = 13

/-- A layout that puts whitespace only. -/
structure Layout.Blank (layout : Layout) : Prop where
  gap : ∀ level, IsBlank (layout.gap level)
  colon : IsBlank layout.colon

theorem skipWs_append {s : Str} (hs : IsBlank s) (rest : PyStr) :
    skipWs (toPyStr s ++ rest) = skipWs rest := by
  induction s with
  | nil => rfl
  | cons c s ih =>
    obtain ⟨hc, hs⟩ := List.forall_mem_cons.1 hs
    simp [skipWs, hc, ih hs]

theorem stops_append {s : Str} {rest : PyStr} (hs : IsBlank s) (hrest : Stops rest) :
    Stops (toPyStr s ++ rest) := by
  cases s with
  | nil => exact hrest
  | cons c s =>
    have hc := hs c (by simp)
    intro d hd
    obtain rfl : toCodePoint c = d := by simpa using hd
    simp only [toCodePoint_val]
    omega

/-- What follows a value in a container: a comma or the end of the container. -/
theorem stops_cons {c : Char} {rest : PyStr} (hc : c = ',' ∨ c = ']' ∨ c = '}') :
    Stops (toCodePoint c :: rest) := by
  intro d hd
  obtain rfl : toCodePoint c = d := by simpa using hd
  rcases hc with rfl | rfl | rfl <;> decide

/-- The text starts neither with whitespace nor with the end of a container. -/
def Starts (text : Str) : Prop := ∃ c s, text = c :: s ∧ c.toNat ∉ [32, 9, 10, 13, 93, 125]

theorem Starts.append {text : Str} (h : Starts text) (s : Str) : Starts (text ++ s) := by
  obtain ⟨c, t, rfl, hc⟩ := h
  exact ⟨c, t ++ s, rfl, hc⟩

theorem Starts.head_ne {text : Str} (h : Starts text) {rest : PyStr} {n : CodePoint}
    (hn : n.val ∈ [93, 125]) : (toPyStr text ++ rest).head? ≠ some n := by
  obtain ⟨c, t, rfl, hc⟩ := h
  intro hhead
  obtain rfl : toCodePoint c = n := by simpa using hhead
  simp only [toCodePoint_val, List.mem_cons, List.not_mem_nil, or_false, not_or] at hn hc
  omega

theorem Starts.skipWs {text : Str} (h : Starts text) (rest : PyStr) :
    skipWs (toPyStr text ++ rest) = toPyStr text ++ rest := by
  obtain ⟨c, t, rfl, hc⟩ := h
  have hc : ¬ (c.toNat = 32 ∨ c.toNat = 9 ∨ c.toNat = 10 ∨ c.toNat = 13) := by
    simp only [List.mem_cons, not_or] at hc
    omega
  simp [ProofFlow.skipWs, hc]

/-- The text of a value is read as the value, whatever follows it. -/
structure Reads (depth : ℕ) (text : Str) (value : Json PyStr) : Prop where
  starts : Starts text
  scans : ∀ fuel rest, text.length ≤ fuel → Stops rest →
    scanValue .none fuel depth (toPyStr text ++ rest) = .ok (value, rest)

theorem joinWith_cons_cons (gap s t : Str) (l : List Str) :
    joinWith gap (s :: t :: l) = s ++ ',' :: (gap ++ joinWith gap (t :: l)) := rfl

theorem starts_joinWith {gap : Str} {s : Str} {l : List Str} (h : Starts s) :
    Starts (joinWith gap (s :: l)) := by
  cases l with
  | nil => exact h
  | cons t l => exact h.append _

section Containers

variable {depth : ℕ} {gap last : Str}

/-- The items of an array, each text read as its value. -/
theorem scanItems_joinWith (hgap : IsBlank gap) (hlast : IsBlank last)
    (l : List (Str × Json PyStr)) (hne : l ≠ []) (h : ∀ p ∈ l, Reads depth p.1 p.2)
    (fuel : ℕ) (acc : List (Json PyStr)) (rest : PyStr)
    (hfuel : (joinWith gap (l.map Prod.fst)).length < fuel) :
    scanItems .none fuel depth acc (toPyStr (joinWith gap (l.map Prod.fst)) ++
        (toPyStr last ++ toCodePoint ']' :: rest)) =
      .ok (.arr (acc.reverse ++ l.map Prod.snd), rest) := by
  induction l generalizing fuel acc with
  | nil => exact absurd rfl hne
  | cons p l ih =>
    obtain ⟨hp, hl⟩ := List.forall_mem_cons.1 h
    obtain ⟨fuel, rfl⟩ := Nat.exists_eq_succ_of_ne_zero (Nat.ne_of_gt (Nat.zero_lt_of_lt hfuel))
    cases l with
    | nil =>
      have hscan := hp.scans fuel (toPyStr last ++ toCodePoint ']' :: rest)
        (by simpa [joinWith] using Nat.le_of_lt_succ hfuel)
        (stops_append hlast (stops_cons (by simp)))
      have hend : skipWs (toPyStr last ++ toCodePoint ']' :: rest) = toCodePoint ']' :: rest := by
        rw [skipWs_append hlast]
        simp [skipWs]
      have hclose : toCodePoint ']' = 93 := by decide
      simp only [List.map_cons, List.map_nil, joinWith, scanItems, hscan, hend]
      simp [hclose]
    | cons q l =>
      simp only [List.map_cons, joinWith_cons_cons] at hfuel ih ⊢
      have htail : skipWs (toPyStr gap ++ (toPyStr (joinWith gap (q.1 :: l.map Prod.fst)) ++
          (toPyStr last ++ toCodePoint ']' :: rest))) =
          toPyStr (joinWith gap (q.1 :: l.map Prod.fst)) ++
            (toPyStr last ++ toCodePoint ']' :: rest) := by
        rw [skipWs_append hgap, (starts_joinWith (hl q (by simp)).starts).skipWs]
      have hscan := hp.scans fuel (toCodePoint ',' :: (toPyStr gap ++
          (toPyStr (joinWith gap (q.1 :: l.map Prod.fst)) ++
            (toPyStr last ++ toCodePoint ']' :: rest))))
        (by simp only [List.length_append, List.length_cons] at hfuel; omega)
        (stops_cons (by simp))
      have hcomma : toCodePoint ',' = 44 := by decide
      have hrest := ih (by simp) hl fuel (p.2 :: acc)
        (by simp only [List.length_append, List.length_cons] at hfuel; omega)
      simp only [toPyStr_append, toPyStr_cons, List.append_assoc, List.cons_append, scanItems,
        hscan]
      simp only [skipWs, hcomma]
      simp [htail, hrest]

/-- The text of a member. -/
def memberText (colon : Str) (m : Str × Str) : Str := dumpString m.1 ++ ':' :: (colon ++ m.2)

theorem starts_dumpString (s : Str) : Starts (dumpString s) := ⟨'"', _, rfl, by decide⟩

theorem scanString_key (key : Str) (rest : PyStr) :
    scanString ((toPyStr (dumpString key) ++ rest).length + 1) []
      (toPyStr (dumpString key) ++ rest).tail = some (toPyStr key, rest) := by
  have hlen := length_le_flatMap_escapeChar key
  have htail : (toPyStr (dumpString key) ++ rest).tail =
      toPyStr (key.flatMap escapeChar) ++ toCodePoint '"' :: rest := by
    simp [dumpString]
  rw [htail, scanString_dumpString]
  · rfl
  · simp only [dumpString, List.cons_append, toPyStr_cons, List.length_cons, List.length_append,
      length_toPyStr]
    omega

/-- One member up to what follows its value. -/
theorem scanMembers_member {colon : Str} (hcolon : IsBlank colon) {key text : Str}
    {value : Json PyStr} (h : Reads depth text value) (fuel : ℕ) (acc : List (PyStr × Json PyStr))
    (rest : PyStr) (hfuel : text.length ≤ fuel) (hrest : Stops rest) :
    scanMembers .none (fuel + 1) depth acc (toPyStr (memberText colon (key, text)) ++ rest) =
      (let rest := skipWs rest
      if rest.head? = some 125 then .ok (.obj ((toPyStr key, value) :: acc).reverse, rest.tail)
      else if rest.head? = some 44 then
        scanMembers .none fuel depth ((toPyStr key, value) :: acc) (skipWs rest.tail)
      else .error .valueError) := by
  have hsplit : toPyStr (memberText colon (key, text)) ++ rest = toPyStr (dumpString key) ++
      toCodePoint ':' :: (toPyStr colon ++ (toPyStr text ++ rest)) := by
    simp [memberText]
  have hquote : (toPyStr (dumpString key) ++
      toCodePoint ':' :: (toPyStr colon ++ (toPyStr text ++ rest))).head? = some 34 := by
    simp only [dumpString, List.cons_append, toPyStr_cons, List.head?_cons]
    decide
  have hcolonChar : toCodePoint ':' = 58 := by decide
  have hskip : skipWs (toCodePoint ':' :: (toPyStr colon ++ (toPyStr text ++ rest))) =
      toCodePoint ':' :: (toPyStr colon ++ (toPyStr text ++ rest)) := by
    simp [skipWs]
  have hvalue : skipWs (toPyStr colon ++ (toPyStr text ++ rest)) = toPyStr text ++ rest := by
    rw [skipWs_append hcolon, h.starts.skipWs]
  rw [hsplit, scanMembers, if_pos hquote, scanString_key]
  simp only [hskip, List.head?_cons, List.tail_cons, hvalue, h.scans fuel rest hfuel hrest]
  rw [if_pos (congrArg some hcolonChar)]
  rfl

/-- The members of an object, each text read as its value. -/
theorem scanMembers_joinWith (hgap : IsBlank gap) (hlast : IsBlank last) {colon : Str}
    (hcolon : IsBlank colon) (l : List (Str × Str × Json PyStr)) (hne : l ≠ [])
    (h : ∀ p ∈ l, Reads depth p.2.1 p.2.2) (fuel : ℕ) (acc : List (PyStr × Json PyStr))
    (rest : PyStr)
    (hfuel : (joinWith gap (l.map fun p => memberText colon (p.1, p.2.1))).length < fuel) :
    scanMembers .none fuel depth acc (toPyStr (joinWith gap (l.map fun p =>
        memberText colon (p.1, p.2.1))) ++ (toPyStr last ++ toCodePoint '}' :: rest)) =
      .ok (.obj (acc.reverse ++ l.map fun p => (toPyStr p.1, p.2.2)), rest) := by
  induction l generalizing fuel acc with
  | nil => exact absurd rfl hne
  | cons p l ih =>
    obtain ⟨hp, hl⟩ := List.forall_mem_cons.1 h
    obtain ⟨fuel, rfl⟩ := Nat.exists_eq_succ_of_ne_zero (Nat.ne_of_gt (Nat.zero_lt_of_lt hfuel))
    have hlen : p.2.1.length ≤ (memberText colon (p.1, p.2.1)).length := by
      simp only [memberText, List.length_append, List.length_cons]
      omega
    cases l with
    | nil =>
      simp only [List.map_cons, List.map_nil, joinWith] at hfuel ⊢
      rw [scanMembers_member hcolon hp fuel acc _ (by omega)
        (stops_append hlast (stops_cons (by simp)))]
      have hend : skipWs (toPyStr last ++ toCodePoint '}' :: rest) =
          toCodePoint '}' :: rest := by
        rw [skipWs_append hlast]
        simp [skipWs]
      have hclose : toCodePoint '}' = 125 := by decide
      simp only [hend]
      simp [hclose]
    | cons q l =>
      simp only [List.map_cons, joinWith_cons_cons] at hfuel ih ⊢
      have hstarts : Starts (memberText colon (q.1, q.2.1)) := (starts_dumpString _).append _
      have hcomma : toCodePoint ',' = 44 := by decide
      have hrest := ih (by simp) hl fuel ((toPyStr p.1, p.2.2) :: acc)
        (by simp only [List.length_append, List.length_cons] at hfuel; omega)
      simp only [toPyStr_append, toPyStr_cons, List.append_assoc, List.cons_append]
      rw [scanMembers_member hcolon hp fuel acc _
        (by simp only [List.length_append] at hfuel; omega) (stops_cons (by simp))]
      simp only [skipWs, hcomma]
      simp [skipWs_append hgap, (starts_joinWith hstarts).skipWs, hrest]

end Containers

/-! ## Documents -/

theorem reads_scalar {depth : ℕ} {text : Str} {value : Json PyStr} {c : Char} {s : Str}
    (htext : text = c :: s) (hc : c.toNat ∉ [32, 9, 10, 13, 93, 125, 34, 123, 91])
    (h : ∀ rest, Stops rest → scanScalar .none (toPyStr text ++ rest) = .ok (value, rest)) :
    Reads depth text value where
  starts := ⟨c, s, htext, fun hmem => hc (by simp only [List.mem_cons] at hmem ⊢; tauto)⟩
  scans := by
    intro fuel rest hfuel hrest
    subst htext
    obtain ⟨fuel, rfl⟩ := Nat.exists_eq_succ_of_ne_zero
      (Nat.ne_of_gt (Nat.lt_of_lt_of_le (Nat.succ_pos _) hfuel))
    simp only [List.mem_cons, not_or] at hc
    have hscan := h rest hrest
    simp only [toPyStr_cons, List.cons_append] at hscan ⊢
    unfold scanValue
    simp [hc, hscan]

section Values

variable {depth : ℕ}

theorem reads_null : Reads depth (lit "null") .null :=
  reads_scalar (c := 'n') (s := ['u', 'l', 'l']) (by decide) (by decide) fun _ _ => rfl

theorem reads_true : Reads depth (lit "true") (.bool true) :=
  reads_scalar (c := 't') (s := ['r', 'u', 'e']) (by decide) (by decide) fun _ _ => rfl

theorem reads_false : Reads depth (lit "false") (.bool false) :=
  reads_scalar (c := 'f') (s := ['a', 'l', 's', 'e']) (by decide) (by decide) fun _ _ => rfl

theorem reads_dumpInt {n : ℤ} (hn : (decimalText n.natAbs).length ≤ maxStrDigits) :
    Reads depth (dumpInt n) (.int n) := by
  have hscan rest (hrest : Stops rest) := scanScalar_dumpInt (n := n) hn hrest
  rw [dumpInt_eq] at hscan ⊢
  cases htext : decimalText n.natAbs with
  | nil => exact absurd htext (decimalText_ne_nil _)
  | cons d ds =>
    have hd : isDigit d = true := isDigit_of_mem_decimalText (n := n.natAbs) (by simp [htext])
    have hd : 48 ≤ d.toNat ∧ d.toNat ≤ 57 := by simpa [isDigit] using hd
    rw [htext] at hscan
    by_cases hneg : n < 0
    · simp only [hneg, decide_true, signText, if_true] at hscan ⊢
      exact reads_scalar rfl (by decide) hscan
    · simp only [hneg, decide_false, signText, Bool.false_eq_true, if_false] at hscan ⊢
      exact reads_scalar (c := d) (s := ds) rfl (by simp; omega) hscan

theorem reads_dumpString (s : Str) : Reads depth (dumpString s) (.str (toPyStr s)) where
  starts := starts_dumpString s
  scans := by
    intro fuel rest hfuel _
    have hlen := length_le_flatMap_escapeChar s
    obtain ⟨fuel, rfl⟩ := Nat.exists_eq_succ_of_ne_zero
      (Nat.ne_of_gt (Nat.lt_of_lt_of_le (Nat.succ_pos _) hfuel))
    have hquote : (toCodePoint '"').val = 34 := rfl
    simp only [dumpString, List.cons_append, toPyStr_cons, toPyStr_append, toPyStr_nil,
      List.append_assoc, List.nil_append]
    unfold scanValue
    rw [if_pos hquote, scanString_dumpString]
    · rfl
    · simp only [List.length_append, length_toPyStr, List.length_cons]
      omega

variable {layout : Layout} {level : ℕ}

theorem reads_arr (hlayout : layout.Blank) {l : List Canon}
    (h : ∀ v ∈ l, Reads depth (v.render layout (level + 1)) v.loaded) :
    Reads (depth + 1) (Canon.render layout level (.arr l)) (Canon.loaded (.arr l)) where
  starts := by
    simp only [Canon.render, Layout.enclose]
    split_ifs
    · exact ⟨'[', _, rfl, by decide⟩
    · exact ⟨'[', _, rfl, by decide⟩
  scans := by
    intro fuel rest hfuel _
    have hopen : (toCodePoint '[').val = 91 := rfl
    cases l with
    | nil =>
      have hfuel : 2 ≤ fuel := hfuel
      obtain ⟨fuel, rfl⟩ := Nat.exists_eq_add_of_le' (Nat.le_of_lt hfuel)
      rfl
    | cons v l =>
      have hitems : ((v :: l).map fun v => (v.render layout (level + 1), v.loaded)).map Prod.fst =
          (v :: l).map (Canon.render layout (level + 1)) := by simp
      have hvalues : ((v :: l).map fun v => (v.render layout (level + 1), v.loaded)).map Prod.snd =
          (v :: l).map Canon.loaded := by simp
      have hstarts : Starts (joinWith (layout.gap (level + 1))
          ((v :: l).map (Canon.render layout (level + 1)))) :=
        starts_joinWith (h v (by simp)).starts
      simp only [Canon.render, renderItems_eq, Canon.loaded, loadedItems_eq, Layout.enclose,
        List.map_eq_nil_iff, reduceCtorEq, if_false, List.length_cons, List.length_append]
          at hfuel ⊢
      obtain ⟨fuel, rfl⟩ := Nat.exists_eq_add_of_le' (Nat.le_trans (Nat.le_add_left 1 _) hfuel)
      have hscan := scanItems_joinWith (hlayout.gap (level + 1)) (hlayout.gap level)
        ((v :: l).map fun v => (v.render layout (level + 1), v.loaded)) (by simp)
        (by simpa using h) fuel [] rest (by rw [hitems]; omega)
      rw [hitems, hvalues] at hscan
      simp only [toPyStr_cons, toPyStr_append, toPyStr_nil, List.cons_append, List.append_assoc,
        List.nil_append]
      unfold scanValue
      rw [if_neg (by decide), if_neg (by decide), if_pos hopen]
      simp only [skipWs_append (hlayout.gap (level + 1)), hstarts.skipWs]
      rw [if_neg (hstarts.head_ne (by decide))]
      exact hscan

theorem reads_obj (hlayout : layout.Blank) {l : List (Str × Canon)}
    (h : ∀ m ∈ l, Reads depth (m.2.render layout (level + 1)) m.2.loaded) :
    Reads (depth + 1) (Canon.render layout level (.obj l)) (Canon.loaded (.obj l)) where
  starts := by
    simp only [Canon.render, Layout.enclose]
    split_ifs
    · exact ⟨'{', _, rfl, by decide⟩
    · exact ⟨'{', _, rfl, by decide⟩
  scans := by
    intro fuel rest hfuel _
    have hopen : (toCodePoint '{').val = 123 := rfl
    have hsorted : ∀ m ∈ sortMembers l, Reads depth (m.2.render layout (level + 1)) m.2.loaded :=
      fun m hm => h m (mem_sortMembers.1 hm)
    simp only [Canon.render, renderMembers_eq, Canon.loaded, loadedMembers_eq, sortMembers_map,
      List.map_map] at hfuel ⊢
    generalize sortMembers l = l at hsorted hfuel ⊢
    cases l with
    | nil =>
      have hfuel : 2 ≤ fuel := hfuel
      obtain ⟨fuel, rfl⟩ := Nat.exists_eq_add_of_le' (Nat.le_of_lt hfuel)
      rfl
    | cons m l =>
      have hstarts : Starts (joinWith (layout.gap (level + 1)) ((m :: l).map fun m =>
          memberText layout.colon (m.1, m.2.render layout (level + 1)))) :=
        starts_joinWith ((starts_dumpString _).append _)
      have hscan := scanMembers_joinWith (hlayout.gap (level + 1)) (hlayout.gap level) hlayout.colon
        ((m :: l).map fun m => (m.1, m.2.render layout (level + 1), m.2.loaded)) (by simp)
        (List.forall_mem_map.2 hsorted)
      simp only [Function.comp_def, Layout.enclose, List.map_eq_nil_iff, reduceCtorEq, if_false,
        List.length_cons, List.length_append] at hfuel ⊢
      obtain ⟨fuel, rfl⟩ := Nat.exists_eq_add_of_le' (Nat.le_trans (Nat.le_add_left 1 _) hfuel)
      simp only [List.map_map, Function.comp_def] at hscan
      replace hscan := hscan fuel [] rest (by simp only [memberText]; omega)
      simp only [toPyStr_cons, toPyStr_append, toPyStr_nil, List.cons_append, List.append_assoc,
        List.nil_append]
      unfold scanValue
      rw [if_neg (by decide), if_pos hopen]
      simp only [memberText] at hstarts hscan
      simp only [skipWs_append (hlayout.gap (level + 1)), hstarts.skipWs]
      rw [if_neg (hstarts.head_ne (by decide))]
      exact hscan

/-- The text of a structure is read as what `json.loads` makes of it. -/
theorem Canon.reads_render (hlayout : layout.Blank) :
    (v : Canon) → (depth level : ℕ) → v.readable depth = true →
      Reads depth (v.render layout level) v.loaded
  | .null, _, _, _ => reads_null
  | .bool true, _, _, _ => reads_true
  | .bool false, _, _, _ => reads_false
  | .int _, _, _, h => reads_dumpInt (by simpa [Canon.readable] using h)
  | .str s, _, _, _ => reads_dumpString s
  | .arr l, depth, level, h => by
    simp only [Canon.readable, Bool.and_eq_true, decide_eq_true_eq, itemsReadable_iff] at h
    obtain ⟨depth, rfl⟩ := Nat.exists_eq_add_of_le' h.1
    exact reads_arr hlayout fun v hv => v.reads_render hlayout depth (level + 1) (h.2 v hv)
  | .obj l, depth, level, h => by
    simp only [Canon.readable, Bool.and_eq_true, decide_eq_true_eq, membersReadable_iff] at h
    obtain ⟨depth, rfl⟩ := Nat.exists_eq_add_of_le' h.1
    exact reads_obj hlayout fun m hm => m.2.reads_render hlayout depth (level + 1) (h.2 m hm)

end Values

theorem Layout.blank_compact : Layout.compact.Blank where
  gap := by
    intro level c hc
    cases hc
  colon := by
    intro c hc
    cases hc

/-- A text with whitespace at its end is decoded to its value. -/
theorem jsonLoads_of_reads {limit : ℕ} {text last : Str} {value : Json PyStr} {b : Bytes}
    (hb : decodeDetected b = some (toPyStr (text ++ last))) (h : Reads limit text value)
    (hlast : IsBlank last) : jsonLoads limit b = .ok value := by
  have hend : skipWs (toPyStr last) = [] := by
    simpa [skipWs] using skipWs_append hlast []
  have hnil : Stops [] := by simp [Stops]
  have hscan := h.scans (2 * (toPyStr (text ++ last)).length + 2) (toPyStr last)
    (by simp only [length_toPyStr, List.length_append]; omega)
    (by simpa using stops_append hlast hnil)
  unfold jsonLoads jsonLoadsWith
  rw [hb]
  simp only [scanDocument, toPyStr_append] at hscan ⊢
  rw [h.starts.skipWs, hscan]
  simp [hend]

/-- An object is written with two ASCII characters first. -/
theorem dumps_obj (members : List (Str × Canon)) :
    ∃ c s, (Canon.obj members).dumps = '{' :: c :: s ∧ (c = '"' ∨ c = '}') := by
  simp only [Canon.dumps, Canon.render, renderMembers_eq, sortMembers_map, List.map_map]
  generalize sortMembers members = l
  cases l with
  | nil => exact ⟨'}', [], rfl, .inr rfl⟩
  | cons m l =>
    cases l with
    | nil => exact ⟨'"', _, rfl, .inl rfl⟩
    | cons m' l => exact ⟨'"', _, rfl, .inl rfl⟩

theorem head_canonicalJson (members : List (Str × Canon)) :
    (canonicalJson (.obj members)).head? = some 0x7b := by
  obtain ⟨c, s, hdumps, -⟩ := dumps_obj members
  rw [canonicalJson, hdumps]
  rfl

/-- `json.loads` inverts `canonical_json` on objects. -/
theorem jsonLoads_canonicalJson {limit : ℕ} {members : List (Str × Canon)}
    (h : (Canon.obj members).readable limit = true) :
    jsonLoads limit (canonicalJson (.obj members)) = .ok (Canon.obj members).loaded := by
  have hreads := Canon.reads_render Layout.blank_compact (.obj members) limit 0 h
  obtain ⟨c, s, htext, hc⟩ := dumps_obj members
  have hb : decodeDetected (canonicalJson (.obj members)) =
      some (toPyStr ((Canon.obj members).dumps ++ [])) := by
    rw [List.append_nil, canonicalJson, htext]
    exact decodeDetected_encodeUtf8 (by decide) (by rcases hc with rfl | rfl <;> decide)
  exact jsonLoads_of_reads hb hreads (by simp [IsBlank])

/-! ## Canonical JSON tells objects apart -/

/-- Pairs with distinct keys, in one order of the keys, are told apart by their set. -/
theorem eq_of_perm_of_keys {α β : Type} {l l' : List (α × β)} (h : l.Perm l')
    (hkeys : l.map Prod.fst = l'.map Prod.fst) (hnodup : (l.map Prod.fst).Nodup) : l = l' := by
  induction l generalizing l' with
  | nil => exact h.nil_eq
  | cons m l ih =>
    cases l' with
    | nil => cases hkeys
    | cons m' l' =>
      simp only [List.map_cons, List.cons.injEq] at hkeys
      obtain ⟨hkey, hkeys⟩ := hkeys
      obtain ⟨hfresh, hnodup⟩ := List.nodup_cons.1 hnodup
      have hm : m = m' := by
        rcases List.mem_cons.1 (h.mem_iff.1 List.mem_cons_self) with heq | hmem
        · exact heq
        · exact absurd (hkeys ▸ List.mem_map_of_mem hmem) hfresh
      subst hm
      rw [ih h.cons_inv hkeys hnodup]

/-- Members with distinct keys, in one order of the keys, are told apart by their sorted list. -/
theorem eq_of_sortMembers_eq {α : Type} {l l' : List (Str × α)} (h : sortMembers l = sortMembers l')
    (hkeys : l.map Prod.fst = l'.map Prod.fst) (hnodup : (l.map Prod.fst).Nodup) : l = l' := by
  refine eq_of_perm_of_keys ?_ hkeys hnodup
  calc l.Perm (sortMembers l) := (List.perm_insertionSort _ _).symm
    _ = sortMembers l' := h
    (sortMembers l').Perm l' := List.perm_insertionSort _ _

theorem map_fst_loadedMembers (l : List (Str × Canon)) :
    (loadedMembers l).map Prod.fst = l.map Prod.fst := by
  induction l with
  | nil => rfl
  | cons m l ih =>
    obtain ⟨k, v⟩ := m
    simp [loadedMembers, ih]

/-- Objects with the same keys that are read alike have the same members. -/
theorem loadedMembers_inj (keys : List String) {l l' : List (Str × Canon)}
    (h : (Canon.obj l).loaded = (Canon.obj l').loaded) (hkeys : l.map Prod.fst = keys.map lit)
    (hkeys' : l'.map Prod.fst = keys.map lit) (hnodup : (keys.map lit).Nodup) :
    loadedMembers l = loadedMembers l' := by
  simp only [Canon.loaded, Json.obj.injEq] at h
  have hinj : Function.Injective fun m : Str × Json PyStr => (toPyStr m.1, m.2) := by
    intro m m' hm
    exact Prod.ext (toPyStr_injective (congrArg Prod.fst hm)) (congrArg Prod.snd hm :)
  have hsorted := List.map_injective_iff.2 hinj h
  apply eq_of_sortMembers_eq hsorted
  · rw [map_fst_loadedMembers, map_fst_loadedMembers, hkeys, hkeys']
  · rw [map_fst_loadedMembers, hkeys]
    exact hnodup

/-- Canonical JSON tells objects apart. -/
theorem loaded_eq_of_canonicalJson_eq {limit : ℕ} {l l' : List (Str × Canon)}
    (hread : (Canon.obj l).readable limit = true) (hread' : (Canon.obj l').readable limit = true)
    (h : canonicalJson (.obj l) = canonicalJson (.obj l')) :
    (Canon.obj l).loaded = (Canon.obj l').loaded := by
  have hloads := jsonLoads_canonicalJson hread
  rw [h, jsonLoads_canonicalJson hread'] at hloads
  exact (Except.ok.inj hloads).symm

/-! ## Validation of canonical JSON -/

/-- A string without surrogates. -/
def scalars (s : PyStr) : Option Str :=
  s.mapM fun c => if Nat.isValidChar c.val then some (Char.ofNat c.val) else none

mutual

/-- A decoded value as `model_validate_json` sees it, if its strings have no surrogates. -/
def jiterValue : Json PyStr → Option (Json Str)
  | .null => some .null
  | .bool b => some (.bool b)
  | .int n => some (.int n)
  | .float numeral => some (.float numeral)
  | .constant name => some (.constant name)
  | .str s => (scalars s).map .str
  | .arr items => (jiterItems items).map .arr
  | .obj members => (jiterMembers members).map .obj

def jiterItems : List (Json PyStr) → Option (List (Json Str))
  | [] => some []
  | v :: l => do return (← jiterValue v) :: (← jiterItems l)

def jiterMembers : List (PyStr × Json PyStr) → Option (List (Str × Json Str))
  | [] => some []
  | (k, v) :: l => do return (← scalars k, ← jiterValue v) :: (← jiterMembers l)

end

mutual

/-- A structure as `model_validate_json` sees it. -/
def Canon.parsed : Canon → Json Str
  | .null => .null
  | .bool b => .bool b
  | .int n => .int n
  | .str s => .str s
  | .arr items => .arr (parsedItems items)
  | .obj members => .obj (sortMembers (parsedMembers members))

def parsedItems : List Canon → List (Json Str)
  | [] => []
  | v :: l => v.parsed :: parsedItems l

def parsedMembers : List (Str × Canon) → List (Str × Json Str)
  | [] => []
  | (k, v) :: l => (k, v.parsed) :: parsedMembers l

end

theorem parsedItems_eq (l : List Canon) : parsedItems l = l.map Canon.parsed := by
  induction l with
  | nil => rfl
  | cons v l ih => simp [parsedItems, ih]

theorem parsedMembers_eq (l : List (Str × Canon)) :
    parsedMembers l = l.map fun m => (m.1, m.2.parsed) := by
  induction l with
  | nil => rfl
  | cons m l ih => simp [parsedMembers, ih]

theorem scalars_toPyStr (s : Str) : scalars (toPyStr s) = some s := by
  induction s with
  | nil => rfl
  | cons c s ih =>
    have hc : Nat.isValidChar (toCodePoint c).val := c.valid
    simp only [scalars, toPyStr_cons, List.mapM_cons, if_pos hc] at ih ⊢
    simp [ih]

theorem jiterItems_eq {l : List Canon} (h : ∀ v ∈ l, jiterValue v.loaded = some v.parsed) :
    jiterItems (l.map Canon.loaded) = some (l.map Canon.parsed) := by
  induction l with
  | nil => rfl
  | cons v l ih =>
    obtain ⟨hv, hl⟩ := List.forall_mem_cons.1 h
    simp [jiterItems, hv, ih hl]

theorem jiterMembers_eq {l : List (Str × Canon)}
    (h : ∀ m ∈ l, jiterValue m.2.loaded = some m.2.parsed) :
    jiterMembers (l.map fun m => (toPyStr m.1, m.2.loaded)) =
      some (l.map fun m => (m.1, m.2.parsed)) := by
  induction l with
  | nil => rfl
  | cons m l ih =>
    obtain ⟨hm, hl⟩ := List.forall_mem_cons.1 h
    simp [jiterMembers, scalars_toPyStr, hm, ih hl]

theorem sizeOf_snd_lt {l : List (Str × Canon)} {m : Str × Canon} (hm : m ∈ l) :
    sizeOf m.2 < 1 + sizeOf l := by
  have hlt := List.sizeOf_lt_of_mem hm
  have hpair : sizeOf m = 1 + sizeOf m.1 + sizeOf m.2 := rfl
  omega

/-- What is read back is what `model_validate_json` sees. -/
theorem Canon.jiterValue_loaded : (v : Canon) → jiterValue v.loaded = some v.parsed
  | .null => rfl
  | .bool _ => rfl
  | .int _ => rfl
  | .str s => by simp [Canon.loaded, Canon.parsed, jiterValue, scalars_toPyStr]
  | .arr l => by
    have hl : ∀ v ∈ l, jiterValue v.loaded = some v.parsed := fun v _ => v.jiterValue_loaded
    simp [Canon.loaded, Canon.parsed, jiterValue, loadedItems_eq, parsedItems_eq, jiterItems_eq hl]
  | .obj l => by
    have hl : ∀ m ∈ l, jiterValue m.2.loaded = some m.2.parsed :=
      fun m _ => m.2.jiterValue_loaded
    have hsorted : ∀ m ∈ sortMembers l, jiterValue m.2.loaded = some m.2.parsed :=
      fun m hm => hl m (mem_sortMembers.1 hm)
    simp only [Canon.loaded, Canon.parsed, loadedMembers_eq, parsedMembers_eq, sortMembers_map,
      List.map_map, jiterValue]
    exact congrArg _ (jiterMembers_eq hsorted)
decreasing_by
  · have hlt := List.sizeOf_lt_of_mem ‹_ ∈ l›
    simp only [Canon.arr.sizeOf_spec]
    omega
  · simpa using sizeOf_snd_lt ‹_ ∈ l›

end ProofFlow
