import ProofFlow.Python.Text

/-!
# Chunk extensions

`_valid_chunk_extensions` and its helpers walk the bytes behind a chunk size by index.  Every read
is guarded by the comparison with the length that the source makes before it.  The grammar is stated
over lists of bytes; one lemma for each helper says which bytes lie between the index it is called
with and the index it returns.
-/

namespace ProofFlow.Server

/-- The bytes of an ASCII literal. -/
def ascii (s : String) : Bytes := s.toByteArray.data.toList

/-- `_HTTP_TOKEN_CHARACTERS`. -/
def httpTokenCharacters : Bytes :=
  ascii "!#$%&'*+-.^_`|~0123456789ABCDEFGHIJKLMNOPQRSTUVWXYZabcdefghijklmnopqrstuvwxyz"

def isTokenByte (b : UInt8) : Bool := httpTokenCharacters.contains b

/-- SP or HTAB. -/
def isBlankByte (b : UInt8) : Bool := b = 32 || b = 9

/-- HTAB or printable ASCII. -/
def isTextByte (b : UInt8) : Bool := b = 9 || (0x20 ≤ b && b ≤ 0x7e)

/-! ## Helpers that pass an index -/

/-- `index < len(value) and value[index] == byte`. -/
def hasByteAt (value : Bytes) (index : ℕ) (byte : UInt8) : Bool :=
  if h : index < value.length then value[index] = byte else false

/-- The first index from `index` on where the value ends or has another byte. -/
def skipWhile (p : UInt8 → Bool) (value : Bytes) (index : ℕ) : ℕ :=
  if h : index < value.length then
    if p value[index] then skipWhile p value (index + 1) else index
  else index
termination_by value.length - index

/-- `_skip_optional_whitespace`. -/
def skipOptionalWhitespace (value : Bytes) (index : ℕ) : ℕ := skipWhile isBlankByte value index

/-- `_consume_token`. -/
def consumeToken (value : Bytes) (index : ℕ) : ℕ := skipWhile isTokenByte value index

/-- The loop of `_consume_quoted_string`; `none` is its sentinel `-1`. -/
def quotedStringFrom (value : Bytes) (index : ℕ) : Option ℕ :=
  if h : index < value.length then
    if value[index] = 34 then some (index + 1)
    else if value[index] = 92 then
      if h' : index + 1 < value.length then
        if isTextByte value[index + 1] then quotedStringFrom value (index + 2) else none
      else none
    else if value[index] = 9 || (0x20 ≤ value[index] && value[index] ≤ 0x21) ||
        (0x23 ≤ value[index] && value[index] ≤ 0x5b) ||
        (0x5d ≤ value[index] && value[index] ≤ 0x7e) then
      quotedStringFrom value (index + 1)
    else none
  else none
termination_by value.length - index

/-- `_consume_quoted_string`. -/
def consumeQuotedString (value : Bytes) (index : ℕ) : Option ℕ := quotedStringFrom value (index + 1)

/-- The value of an extension, if there is one: the index behind it, or `none` where the source
returns false. -/
def consumeValue (extensions : Bytes) (index : ℕ) : Option ℕ :=
  if hasByteAt extensions index 61 then
    let start := skipOptionalWhitespace extensions (index + 1)
    if start ≥ extensions.length then none
    else if hasByteAt extensions start 34 then consumeQuotedString extensions start
    else if consumeToken extensions start = start then none
    else some (consumeToken extensions start)
  else some index

/-- The body of the loop of `_valid_chunk_extensions`: the index behind one extension, or `none`
where the source returns false. -/
def consumeExtension (extensions : Bytes) (index : ℕ) : Option ℕ :=
  let separator := skipOptionalWhitespace extensions index
  if hasByteAt extensions separator 59 then
    let name := skipOptionalWhitespace extensions (separator + 1)
    let nameEnd := consumeToken extensions name
    if nameEnd = name then none
    else match consumeValue extensions (skipOptionalWhitespace extensions nameEnd) with
      | none => none
      | some valueEnd =>
        let next := skipOptionalWhitespace extensions valueEnd
        if next < extensions.length ∧ hasByteAt extensions next 59 = false then none else some next
  else none

/-! ## What the helpers read -/

/-- The bytes of `value` from index `i` to index `j`. -/
def Spans (value : Bytes) (i : ℕ) (text : Bytes) (j : ℕ) : Prop :=
  j = i + text.length ∧ value.drop i = text ++ value.drop j

section Spans

variable {value s t : Bytes} {i j k : ℕ}

theorem Spans.refl : Spans value i [] i := ⟨rfl, rfl⟩

theorem Spans.trans (h : Spans value i s j) (h' : Spans value j t k) :
    Spans value i (s ++ t) k := by
  refine ⟨?_, by rw [h.2, h'.2, List.append_assoc]⟩
  rw [h'.1, h.1, List.length_append, Nat.add_assoc]

theorem spans_of_drop {rest : Bytes} (h : value.drop i = s ++ rest) :
    Spans value i s (i + s.length) ∧ value.drop (i + s.length) = rest := by
  have hrest : value.drop (i + s.length) = rest := by
    rw [← List.drop_drop, h, List.drop_left]
  exact ⟨⟨rfl, by rw [hrest, h]⟩, hrest⟩

theorem spans_byte {byte : UInt8} {rest : Bytes} (h : value.drop i = byte :: rest) :
    Spans value i [byte] (i + 1) ∧ value.drop (i + 1) = rest :=
  spans_of_drop (s := [byte]) h

theorem drop_eq_cons (h : i < value.length) : value.drop i = value[i] :: value.drop (i + 1) :=
  List.drop_eq_getElem_cons h

theorem drop_eq_nil_iff : value.drop i = [] ↔ ¬ i < value.length := by
  rw [List.drop_eq_nil_iff, Nat.not_lt]

theorem hasByteAt_iff {byte : UInt8} :
    hasByteAt value i byte = true ↔ (value.drop i).head? = some byte := by
  unfold hasByteAt
  split_ifs with h
  · rw [drop_eq_cons h, decide_eq_true_iff, List.head?_cons, Option.some.injEq]
  · simp [drop_eq_nil_iff.2 h]

end Spans

/-- The text does not go on with a byte of the class. -/
def Stops (p : UInt8 → Bool) (rest : Bytes) : Prop := ∀ b ∈ rest.head?, p b = false

section SkipWhile

variable {p : UInt8 → Bool} {value s rest : Bytes} {i : ℕ}

theorem skipWhile_eq (p : UInt8 → Bool) (value : Bytes) (i : ℕ) :
    skipWhile p value i = i + ((value.drop i).takeWhile p).length := by
  fun_induction skipWhile p value i with
  | case1 i h hp ih =>
    rw [ih, drop_eq_cons h, List.takeWhile_cons_of_pos hp, List.length_cons]
    omega
  | case2 i h hp =>
    rw [drop_eq_cons h, List.takeWhile_cons_of_neg hp]
    rfl
  | case3 i h =>
    rw [drop_eq_nil_iff.2 h]
    rfl

/-- The run of bytes of the class is skipped. -/
theorem spans_skipWhile (p : UInt8 → Bool) (value : Bytes) (i : ℕ) :
    ∃ s, (∀ b ∈ s, p b = true) ∧ Spans value i s (skipWhile p value i) := by
  refine ⟨(value.drop i).takeWhile p, fun b hb => List.mem_takeWhile_imp hb, ?_⟩
  rw [skipWhile_eq]
  exact (spans_of_drop (List.takeWhile_append_dropWhile).symm).1

theorem skipWhile_of_drop (h : value.drop i = s ++ rest) (hs : ∀ b ∈ s, p b = true)
    (hrest : Stops p rest) :
    ∃ j, skipWhile p value i = j ∧ j = i + s.length ∧ value.drop j = rest := by
  have htake : rest.takeWhile p = [] := by
    cases rest with
    | nil => rfl
    | cons b rest => exact List.takeWhile_cons_of_neg (by simp [hrest b (by simp)])
  refine ⟨i + s.length, ?_, rfl, (spans_of_drop h).2⟩
  rw [skipWhile_eq, h, List.takeWhile_append_of_pos hs, htake, List.append_nil]

end SkipWhile

/-! ## The grammar -/

/-- Any run of SP and HTAB. -/
def IsOws (s : Bytes) : Prop := ∀ b ∈ s, isBlankByte b = true

/-- A non-empty run of token characters. -/
def IsToken (s : Bytes) : Prop := s ≠ [] ∧ ∀ b ∈ s, isTokenByte b = true

/-- What stands between the quotes of a quoted string. -/
inductive QuotedText : Bytes → Prop where
  | nil : QuotedText []
  | text {b : UInt8} {s : Bytes} (hb : isTextByte b = true) (hquote : b ≠ 34)
      (hbackslash : b ≠ 92) (h : QuotedText s) : QuotedText (b :: s)
  | escaped {b : UInt8} {s : Bytes} (hb : isTextByte b = true) (h : QuotedText s) :
      QuotedText (92 :: b :: s)

/-- A token or a quoted string. -/
inductive IsValue : Bytes → Prop where
  | token {s : Bytes} (h : IsToken s) : IsValue s
  | quoted {s : Bytes} (h : QuotedText s) : IsValue (34 :: (s ++ [34]))

/-- `[ '=' OWS (token | quoted-string) OWS ]`. -/
inductive IsAssignment : Bytes → Prop where
  | absent : IsAssignment []
  | value {d w e : Bytes} (hd : IsOws d) (hw : IsValue w) (he : IsOws e) :
      IsAssignment (61 :: (d ++ (w ++ e)))

/-- `OWS ';' OWS token OWS [ '=' OWS (token | quoted-string) OWS ]`. -/
inductive IsExtension : Bytes → Prop where
  | mk {a b name c rest : Bytes} (ha : IsOws a) (hb : IsOws b) (hname : IsToken name)
      (hc : IsOws c) (hrest : IsAssignment rest) :
      IsExtension (a ++ 59 :: (b ++ (name ++ (c ++ rest))))

/-- One extension or more. -/
inductive IsExtensions : Bytes → Prop where
  | single {s : Bytes} (h : IsExtension s) : IsExtensions s
  | append {s t : Bytes} (h : IsExtension s) (ht : IsExtensions t) : IsExtensions (s ++ t)

theorem IsOws.append {s t : Bytes} (hs : IsOws s) (ht : IsOws t) : IsOws (s ++ t) := fun b hb =>
  (List.mem_append.1 hb).elim (hs b) (ht b)

/-! ## Soundness -/

section Soundness

variable {value s t : Bytes} {i j : ℕ}

/-- The ranges of the source are the printable characters other than quote and backslash. -/
theorem isTextByte_of_ranges {b : UInt8}
    (h : (b = 9 || (0x20 ≤ b && b ≤ 0x21) || (0x23 ≤ b && b ≤ 0x5b) || (0x5d ≤ b && b ≤ 0x7e)) =
      true) : isTextByte b = true := by
  simp only [isTextByte, Bool.or_eq_true, Bool.and_eq_true, decide_eq_true_eq,
    UInt8.le_iff_toNat_le, ← UInt8.toNat_inj] at h ⊢
  simp at h ⊢
  omega

theorem quotedStringFrom_spans (h : quotedStringFrom value i = some j) :
    ∃ body, QuotedText body ∧ Spans value i (body ++ [34]) j := by
  fun_induction quotedStringFrom value i with
  | case1 i hi hquote =>
    obtain rfl := Option.some.inj h
    exact ⟨[], .nil, (spans_byte (hquote ▸ drop_eq_cons hi)).1⟩
  | case2 i hi hquote hbackslash hi' htext ih =>
    obtain ⟨body, hbody, hspans⟩ := ih h
    have hdrop : value.drop i = [92, value[i + 1]] ++ value.drop (i + 2) := by
      rw [drop_eq_cons hi, drop_eq_cons hi', hbackslash]
      rfl
    exact ⟨92 :: value[i + 1] :: body, .escaped htext hbody, (spans_of_drop hdrop).1.trans hspans⟩
  | case3 | case4 => cases h
  | case5 i hi hquote hbackslash htext ih =>
    obtain ⟨body, hbody, hspans⟩ := ih h
    exact ⟨value[i] :: body, .text (isTextByte_of_ranges htext) hquote hbackslash hbody,
      (spans_byte (drop_eq_cons hi)).1.trans hspans⟩
  | case6 | case7 => cases h

theorem spans_of_hasByteAt {byte : UInt8} (h : hasByteAt value i byte = true) :
    Spans value i [byte] (i + 1) := by
  obtain ⟨rest, hrest⟩ := List.head?_eq_some_iff.1 (hasByteAt_iff.1 h)
  exact (spans_byte hrest).1

theorem spans_ows (value : Bytes) (i : ℕ) :
    ∃ s, IsOws s ∧ Spans value i s (skipOptionalWhitespace value i) :=
  spans_skipWhile isBlankByte value i

theorem spans_token (h : consumeToken value i ≠ i) :
    ∃ s, IsToken s ∧ Spans value i s (consumeToken value i) := by
  obtain ⟨s, hs, hspans⟩ := spans_skipWhile isTokenByte value i
  refine ⟨s, ⟨?_, hs⟩, hspans⟩
  rintro rfl
  exact h hspans.1

theorem consumeValue_spans (h : consumeValue value i = some j) :
    j = i ∨ ∃ d w, IsOws d ∧ IsValue w ∧ Spans value i (61 :: (d ++ w)) j := by
  obtain ⟨d, hd, hspans⟩ := spans_ows value (i + 1)
  unfold consumeValue at h
  simp only at h
  split_ifs at h with hequals hend hquote htoken
  · obtain ⟨body, hbody, hquoted⟩ := quotedStringFrom_spans h
    exact .inr ⟨d, _, hd, .quoted hbody, (spans_of_hasByteAt hequals).trans
      (hspans.trans ((spans_of_hasByteAt hquote).trans hquoted))⟩
  · obtain ⟨w, hw, htext⟩ := spans_token htoken
    obtain rfl := Option.some.inj h
    exact .inr ⟨d, w, hd, .token hw, (spans_of_hasByteAt hequals).trans (hspans.trans htext)⟩
  · exact .inl (Option.some.inj h).symm

/-- The bytes that one pass of the loop consumes are an extension. -/
theorem consumeExtension_spans (h : consumeExtension value i = some j) :
    ∃ s, IsExtension s ∧ Spans value i s j := by
  unfold consumeExtension at h
  simp only at h
  split_ifs at h with hseparator hname
  split at h
  · cases h
  · rename_i valueEnd hvalue
    obtain ⟨a, ha, hspansa⟩ := spans_ows value i
    obtain ⟨b, hb, hspansb⟩ := spans_ows value (skipOptionalWhitespace value i + 1)
    obtain ⟨name, hname, hspansName⟩ := spans_token hname
    obtain ⟨c, hc, hspansc⟩ := spans_ows value
      (consumeToken value (skipOptionalWhitespace value (skipOptionalWhitespace value i + 1)))
    obtain ⟨e, he, hspanse⟩ := spans_ows value valueEnd
    have hupto := hspansa.trans ((spans_of_hasByteAt hseparator).trans
      (hspansb.trans (hspansName.trans hspansc)))
    split_ifs at h
    obtain rfl := Option.some.inj h
    rcases consumeValue_spans hvalue with rfl | ⟨d, w, hd, hw, hspansw⟩
    · refine ⟨_, .mk ha hb hname (hc.append he) .absent, ?_⟩
      simpa using hupto.trans hspanse
    · refine ⟨_, .mk ha hb hname hc (.value hd hw he), ?_⟩
      simpa using hupto.trans (hspansw.trans hspanse)

theorem lt_of_consumeExtension (h : consumeExtension value i = some j) : i < j := by
  obtain ⟨s, hs, hspans⟩ := consumeExtension_spans h
  have hpos : 0 < s.length := by
    cases hs
    simp
  exact hspans.1 ▸ Nat.lt_add_of_pos_right hpos

end Soundness

/-- `_valid_chunk_extensions` from the start of a pass of its loop. -/
def validChunkExtensionsFrom (extensions : Bytes) (index : ℕ) : Bool :=
  if index < extensions.length then
    match _h : consumeExtension extensions index with
    | none => false
    | some next => validChunkExtensionsFrom extensions next
  else true
termination_by extensions.length - index
decreasing_by
  have hlt := lt_of_consumeExtension _h
  omega

/-- `_valid_chunk_extensions`. -/
def validChunkExtensions (extensions : Bytes) : Bool := validChunkExtensionsFrom extensions 0

theorem isExtensions_of_valid {value : Bytes} {i : ℕ}
    (h : validChunkExtensionsFrom value i = true) :
    value.drop i = [] ∨ IsExtensions (value.drop i) := by
  fun_induction validChunkExtensionsFrom value i with
  | case1 => cases h
  | case2 i hi next hnext ih =>
    obtain ⟨s, hs, hspans⟩ := consumeExtension_spans hnext
    rw [hspans.2]
    rcases ih h with hnil | hrest
    · rw [hnil, List.append_nil]
      exact .inr (.single hs)
    · exact .inr (.append hs hrest)
  | case3 i hi => exact .inl (drop_eq_nil_iff.2 hi)

/-! ## Completeness -/

section Completeness

variable {value s t rest : Bytes} {i j : ℕ}

theorem isBlankByte_of_isTokenByte {b : UInt8} (h : isTokenByte b = true) :
    isBlankByte b = false := by
  have checked : ∀ c ∈ httpTokenCharacters, isBlankByte c = false := by decide +kernel
  exact checked b (by simpa [isTokenByte] using h)

theorem isTokenByte_of_isBlankByte {b : UInt8} (h : isBlankByte b = true) :
    isTokenByte b = false := by
  by_contra htoken
  rw [Bool.not_eq_false] at htoken
  rw [isBlankByte_of_isTokenByte htoken] at h
  cases h

theorem stops_cons {p : UInt8 → Bool} {b : UInt8} (hb : p b = false) : Stops p (b :: rest) := by
  intro c hc
  obtain rfl := Option.some.inj hc
  exact hb

theorem stops_append {p : UInt8 → Bool} (hs : ∀ b ∈ s, p b = false) (hrest : Stops p rest) :
    Stops p (s ++ rest) := by
  cases s with
  | nil => exact hrest
  | cons b s => exact stops_cons (hs b (by simp))

theorem getElem_of_drop {b : UInt8} (h : value.drop i = b :: rest) :
    ∃ hi : i < value.length, value[i] = b := by
  have hi : i < value.length := by
    by_contra hi
    rw [drop_eq_nil_iff.2 hi] at h
    cases h
  rw [drop_eq_cons hi] at h
  exact ⟨hi, (List.cons.inj h).1⟩

theorem ranges_of_isTextByte {b : UInt8} (h : isTextByte b = true) (hquote : b ≠ 34)
    (hbackslash : b ≠ 92) :
    (b = 9 || (0x20 ≤ b && b ≤ 0x21) || (0x23 ≤ b && b ≤ 0x5b) || (0x5d ≤ b && b ≤ 0x7e)) =
      true := by
  simp only [isTextByte, Bool.or_eq_true, Bool.and_eq_true, decide_eq_true_eq, ne_eq,
    UInt8.le_iff_toNat_le, ← UInt8.toNat_inj] at h hquote hbackslash ⊢
  simp at h hquote hbackslash ⊢
  omega

theorem quotedStringFrom_of_drop (hs : QuotedText s) (h : value.drop i = s ++ 34 :: rest) :
    quotedStringFrom value i = some (i + s.length + 1) := by
  induction hs generalizing i with
  | nil =>
    obtain ⟨hi, hb⟩ := getElem_of_drop h
    rw [quotedStringFrom, dif_pos hi, if_pos hb]
    rfl
  | @text b s hb hquote hbackslash _ ih =>
    obtain ⟨hi, hbyte⟩ := getElem_of_drop h
    rw [quotedStringFrom, dif_pos hi, hbyte, if_neg hquote, if_neg hbackslash,
      if_pos (ranges_of_isTextByte hb hquote hbackslash), ih (spans_byte h).2, List.length_cons]
    congr 1
    omega
  | @escaped b s hb _ ih =>
    obtain ⟨hi, hbyte⟩ := getElem_of_drop h
    obtain ⟨hi', hbyte'⟩ := getElem_of_drop (spans_byte h).2
    rw [quotedStringFrom, dif_pos hi, hbyte, if_neg (by decide), if_pos rfl, dif_pos hi', hbyte',
      if_pos hb, ih (spans_byte (spans_byte h).2).2, List.length_cons, List.length_cons]
    congr 1
    omega

theorem consumeValue_absent (h : (value.drop i).head? ≠ some 61) :
    consumeValue value i = some i := if_neg (mt hasByteAt_iff.1 h)

theorem skipOptionalWhitespace_of_drop (h : value.drop i = s ++ rest) (hs : IsOws s)
    (hrest : Stops isBlankByte rest) :
    ∃ j, skipOptionalWhitespace value i = j ∧ value.drop j = rest := by
  obtain ⟨j, hj, -, hdrop⟩ := skipWhile_of_drop h hs hrest
  exact ⟨j, hj, hdrop⟩

theorem consumeToken_of_drop (h : value.drop i = s ++ rest) (hs : IsToken s)
    (hrest : Stops isTokenByte rest) :
    ∃ j, consumeToken value i = j ∧ j ≠ i ∧ value.drop j = rest := by
  obtain ⟨j, hj, hlength, hdrop⟩ := skipWhile_of_drop h hs.2 hrest
  have hpos := List.length_pos_iff.2 hs.1
  exact ⟨j, hj, by omega, hdrop⟩

theorem IsToken.stops (hs : IsToken s) : Stops isBlankByte (s ++ rest) := by
  obtain ⟨b, t, rfl⟩ := List.exists_cons_of_ne_nil hs.1
  exact stops_cons (isBlankByte_of_isTokenByte (hs.2 b (by simp)))

theorem IsToken.head_ne_quote (hs : IsToken s) : (s ++ rest).head? ≠ some 34 := by
  obtain ⟨b, t, rfl⟩ := List.exists_cons_of_ne_nil hs.1
  intro h
  obtain rfl := Option.some.inj h
  exact absurd (hs.2 34 (by simp)) (by decide)

theorem lt_length_of_drop (h : value.drop i = s ++ rest) (hs : s ≠ []) : i < value.length := by
  by_contra hi
  rw [drop_eq_nil_iff.2 hi] at h
  exact hs (List.append_eq_nil_iff.1 h.symm).1

theorem consumeValue_of_drop {d w : Bytes} (hd : IsOws d) (hw : IsValue w)
    (h : value.drop i = 61 :: (d ++ (w ++ rest))) (hrest : Stops isTokenByte rest) :
    ∃ j, consumeValue value i = some j ∧ value.drop j = rest := by
  have hequals : hasByteAt value i 61 = true := hasByteAt_iff.2 (by rw [h]; rfl)
  have hvalue := (spans_byte h).2
  unfold consumeValue
  rw [if_pos hequals]
  cases hw with
  | token hw =>
    obtain ⟨start, hstart, hdrop⟩ := skipOptionalWhitespace_of_drop hvalue hd hw.stops
    obtain ⟨j, hj, hne, hrest⟩ := consumeToken_of_drop hdrop hw hrest
    have hlt := lt_length_of_drop hdrop hw.1
    have hquote : hasByteAt value start 34 = false := by
      rw [← Bool.not_eq_true, hasByteAt_iff, hdrop]
      exact hw.head_ne_quote
    refine ⟨j, ?_, hrest⟩
    simp only [hstart, hj, ge_iff_le, Nat.not_le.2 hlt, hquote, hne, if_false, Bool.false_eq_true]
  | @quoted s hs =>
    obtain ⟨start, hstart, hdrop⟩ := skipOptionalWhitespace_of_drop hvalue hd
      (stops_cons (by decide))
    have hlt := lt_length_of_drop hdrop (by simp)
    have hquote : hasByteAt value start 34 = true := hasByteAt_iff.2 (by rw [hdrop]; rfl)
    have hinside : value.drop (start + 1) = s ++ 34 :: rest := by simpa using (spans_byte hdrop).2
    refine ⟨start + 1 + s.length + 1, ?_, ?_⟩
    · simp only [hstart, ge_iff_le, Nat.not_le.2 hlt, hquote, if_false, if_true]
      exact quotedStringFrom_of_drop hs hinside
    · exact (spans_byte (spans_of_drop hinside).2).2

/-- An extension that is followed by whitespace and then by nothing or by a semicolon is consumed
together with that whitespace. -/
theorem consumeExtension_of_drop (hs : IsExtension s) (ht : IsOws t)
    (hrest : rest = [] ∨ rest.head? = some 59) (h : value.drop i = s ++ (t ++ rest)) :
    ∃ j, consumeExtension value i = some j ∧ value.drop j = rest := by
  have hstops {p : UInt8 → Bool} (hp : p 59 = false) : Stops p rest := by
    rcases hrest with rfl | hrest
    · exact nofun
    · intro b hb
      obtain rfl := Option.some.inj (hrest.symm.trans hb)
      exact hp
  have hfollow {l : Bytes} (hl : IsOws l) {r : Bytes} (hr : Stops isTokenByte r) :
      Stops isTokenByte (l ++ r) :=
        stops_append (fun b hb => isTokenByte_of_isBlankByte (hl b hb)) hr
  obtain ⟨ha, hb, hname, hc, hassign⟩ := hs
  rename_i a b name c assign
  have hassignStops : Stops isTokenByte (assign ++ (t ++ rest)) := by
    cases hassign with
    | absent => exact hfollow ht (hstops (by decide))
    | value => exact stops_cons (by decide)
  simp only [List.append_assoc, List.cons_append] at h
  obtain ⟨separator, hseparator, h⟩ := skipOptionalWhitespace_of_drop h ha (stops_cons (by decide))
  have hbyte : hasByteAt value separator 59 = true := hasByteAt_iff.2 (by rw [h]; rfl)
  obtain ⟨nameStart, hnameStart, h⟩ :=
    skipOptionalWhitespace_of_drop (spans_byte h).2 hb hname.stops
  obtain ⟨nameEnd, hnameEnd, hne, h⟩ := consumeToken_of_drop h hname (hfollow hc hassignStops)
  have hvalue : ∃ valueEnd next, consumeValue value (skipOptionalWhitespace value nameEnd) =
      some valueEnd ∧ skipOptionalWhitespace value valueEnd = next ∧ value.drop next = rest := by
    have hblank : Stops isBlankByte rest := hstops (by decide)
    cases hassign with
    | absent =>
      rw [List.nil_append, ← List.append_assoc] at h
      obtain ⟨j, hj, h⟩ := skipOptionalWhitespace_of_drop h (hc.append ht) hblank
      have habsent : (value.drop j).head? ≠ some 61 := by
        rw [h]
        rcases hrest with rfl | hrest
        · simp
        · rw [hrest]
          decide
      obtain ⟨next, hnext, h'⟩ := skipOptionalWhitespace_of_drop (s := []) h nofun hblank
      exact ⟨j, next, by rw [hj, consumeValue_absent habsent], hnext, h'⟩
    | @value d w e hd hw he =>
      simp only [List.append_assoc, List.cons_append] at h
      obtain ⟨start, hstart, h⟩ := skipOptionalWhitespace_of_drop h hc (stops_cons (by decide))
      obtain ⟨valueEnd, hvalueEnd, h⟩ := consumeValue_of_drop hd hw h
        (hfollow he (hfollow ht (hstops (by decide))))
      rw [← List.append_assoc] at h
      obtain ⟨next, hnext, h⟩ := skipOptionalWhitespace_of_drop h (he.append ht) hblank
      exact ⟨valueEnd, next, by rw [hstart, hvalueEnd], hnext, h⟩
  obtain ⟨valueEnd, next, hvalueEnd, hnext, hdrop⟩ := hvalue
  have hend : ¬ (next < value.length ∧ hasByteAt value next 59 = false) := by
    rintro ⟨hlt, hfalse⟩
    rw [← Bool.not_eq_true, hasByteAt_iff, hdrop] at hfalse
    rcases hrest with rfl | hrest
    · exact drop_eq_nil_iff.1 hdrop hlt
    · exact hfalse hrest
  refine ⟨next, ?_, hdrop⟩
  unfold consumeExtension
  simp only [hseparator, hbyte, hnameStart, hnameEnd, hne, hvalueEnd, hnext, hend, if_true,
    if_false]

theorem IsExtensions.first (h : IsExtensions s) :
    ∃ e t, IsExtension e ∧ (t = [] ∨ IsExtensions t) ∧ s = e ++ t := by
  cases h with
  | single h => exact ⟨s, [], h, .inl rfl, (List.append_nil s).symm⟩
  | append h ht => exact ⟨_, _, h, .inr ht, rfl⟩

/-- Without their leading whitespace, extensions are still extensions. -/
theorem IsExtensions.trim (h : IsExtensions s) :
    ∃ a r, IsOws a ∧ s = a ++ r ∧ r.head? = some 59 ∧ IsExtensions r := by
  obtain ⟨e, t, he, ht, rfl⟩ := h.first
  obtain ⟨ha, hb, hname, hc, hassign⟩ := he
  rename_i a b name c assign
  have he := IsExtension.mk (a := []) nofun hb hname hc hassign
  refine ⟨a, _, ha, List.append_assoc _ _ _, rfl, ?_⟩
  rcases ht with rfl | ht
  · rw [List.append_nil]
    exact .single he
  · exact .append he ht

/-- A pass of the loop at the start of extensions ends at its end or at the next extension. -/
theorem consumeExtension_of_isExtensions {value : Bytes} {i : ℕ}
    (h : IsExtensions (value.drop i)) : ∃ j, consumeExtension value i = some j ∧
      (value.drop j = [] ∨ IsExtensions (value.drop j)) := by
  obtain ⟨e, t, he, ht, hdrop⟩ := h.first
  obtain ⟨a, r, ha, hr, hhead, hrest⟩ : ∃ a r, IsOws a ∧ t = a ++ r ∧
      (r = [] ∨ r.head? = some 59) ∧ (r = [] ∨ IsExtensions r) := by
    rcases ht with rfl | ht
    · exact ⟨[], [], nofun, rfl, .inl rfl, .inl rfl⟩
    · obtain ⟨a, r, ha, hr, hhead, hrest⟩ := ht.trim
      exact ⟨a, r, ha, hr, .inr hhead, .inr hrest⟩
  obtain ⟨j, hj, hjdrop⟩ := consumeExtension_of_drop he ha hhead (hr ▸ hdrop)
  exact ⟨j, hj, hjdrop ▸ hrest⟩

theorem valid_of_isExtensions {value : Bytes} {i : ℕ}
    (h : value.drop i = [] ∨ IsExtensions (value.drop i)) :
    validChunkExtensionsFrom value i = true := by
  fun_induction validChunkExtensionsFrom value i with
  | case1 i hi hnone =>
    rcases h with h | h
    · exact absurd hi (drop_eq_nil_iff.1 h)
    · obtain ⟨j, hj, -⟩ := consumeExtension_of_isExtensions h
      rw [hnone] at hj
      cases hj
  | case2 i hi next hnext ih =>
    rcases h with h | h
    · exact absurd hi (drop_eq_nil_iff.1 h)
    · obtain ⟨j, hj, hrest⟩ := consumeExtension_of_isExtensions h
      obtain rfl := Option.some.inj (hj.symm.trans hnext)
      exact ih hrest
  | case3 => rfl

end Completeness

/-! ## Acceptance -/

theorem isTextByte_of_isTokenByte {b : UInt8} (h : isTokenByte b = true) : isTextByte b = true := by
  have checked : ∀ c ∈ httpTokenCharacters, isTextByte c = true := by decide +kernel
  exact checked b (by simpa [isTokenByte] using h)

theorem IsOws.printable {s : Bytes} (h : IsOws s) : ∀ b ∈ s, isTextByte b = true := by
  intro b hb
  have hblank := h b hb
  simp only [isBlankByte, Bool.or_eq_true, decide_eq_true_eq] at hblank
  rcases hblank with rfl | rfl <;> decide

theorem IsToken.printable {s : Bytes} (h : IsToken s) : ∀ b ∈ s, isTextByte b = true :=
  fun b hb => isTextByte_of_isTokenByte (h.2 b hb)

theorem QuotedText.printable {s : Bytes} (h : QuotedText s) : ∀ b ∈ s, isTextByte b = true := by
  induction h with
  | nil => simp
  | text hb _ _ _ ih => exact List.forall_mem_cons.2 ⟨hb, ih⟩
  | escaped hb _ ih => exact List.forall_mem_cons.2 ⟨by decide, List.forall_mem_cons.2 ⟨hb, ih⟩⟩

theorem IsValue.printable {s : Bytes} (h : IsValue s) : ∀ b ∈ s, isTextByte b = true := by
  cases h with
  | token h => exact h.printable
  | quoted h =>
    refine List.forall_mem_cons.2 ⟨by decide, List.forall_mem_append.2 ⟨h.printable, ?_⟩⟩
    simp [isTextByte]

theorem IsAssignment.printable {s : Bytes} (h : IsAssignment s) : ∀ b ∈ s, isTextByte b = true := by
  cases h with
  | absent => simp
  | value hd hw he =>
    exact List.forall_mem_cons.2 ⟨by decide, List.forall_mem_append.2 ⟨hd.printable,
      List.forall_mem_append.2 ⟨hw.printable, he.printable⟩⟩⟩

theorem IsExtension.printable {s : Bytes} (h : IsExtension s) : ∀ b ∈ s, isTextByte b = true := by
  obtain ⟨ha, hb, hname, hc, hassign⟩ := h
  exact List.forall_mem_append.2 ⟨ha.printable, List.forall_mem_cons.2 ⟨by decide,
    List.forall_mem_append.2 ⟨hb.printable, List.forall_mem_append.2 ⟨hname.printable,
      List.forall_mem_append.2 ⟨hc.printable, hassign.printable⟩⟩⟩⟩⟩

theorem IsExtensions.printable {s : Bytes} (h : IsExtensions s) :
    ∀ b ∈ s, isTextByte b = true := by
  induction h with
  | single h => exact h.printable
  | append h _ ih => exact List.forall_mem_append.2 ⟨h.printable, ih⟩

theorem validChunkExtensions_eq_true (extensions : Bytes) :
    validChunkExtensions extensions = true ↔ extensions = [] ∨ IsExtensions extensions := by
  have hdrop : extensions.drop 0 = extensions := rfl
  rw [← hdrop]
  exact ⟨isExtensions_of_valid, valid_of_isExtensions⟩

/-- Exactly the texts of the grammar are accepted, and the empty one; an accepted text has no byte
other than HTAB and printable ASCII. -/
theorem validChunkExtensions_iff (extensions : Bytes) :
    (validChunkExtensions extensions = true ↔ extensions = [] ∨ IsExtensions extensions) ∧
      (validChunkExtensions extensions = true →
        ∀ b ∈ extensions, b = 9 ∨ 0x20 ≤ b ∧ b ≤ 0x7e) := by
  have hvalid := validChunkExtensions_eq_true extensions
  refine ⟨hvalid, fun h b hb => ?_⟩
  rcases hvalid.1 h with rfl | h
  · cases hb
  · simpa [isTextByte] using h.printable b hb

end ProofFlow.Server
