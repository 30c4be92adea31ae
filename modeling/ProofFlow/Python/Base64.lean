import ProofFlow.Python.Text

/-!
# Canonical base64

`decode_canonical_base64` decodes strictly and then re-encodes: a string is accepted only when it is
the padded standard encoding of the decoded bytes or, where the caller allows it, the padded
URL-safe one.
-/

namespace ProofFlow

/-- The value of a byte of the standard alphabet. -/
def base64Value (b : UInt8) : Option ℕ :=
  let n := b.toNat
  if 65 ≤ n ∧ n ≤ 90 then some (n - 65)
  else if 97 ≤ n ∧ n ≤ 122 then some (n - 71)
  else if 48 ≤ n ∧ n ≤ 57 then some (n + 4)
  else if n = 43 then some 62
  else if n = 47 then some 63
  else none

/-- The character of a sextet, in the standard or the URL-safe alphabet. -/
def base64Char (urlsafe : Bool) (n : ℕ) : Char :=
  if n < 26 then Char.ofNat (n + 65)
  else if n < 52 then Char.ofNat (n + 71)
  else if n < 62 then Char.ofNat (n - 4)
  else if n = 62 then (if urlsafe then '-' else '+')
  else (if urlsafe then '_' else '/')

/-- The three bytes of four sextets, most significant first. -/
def sextetBytes (a b c d : ℕ) : Bytes :=
  [UInt8.ofNat (a * 4 + b / 16), UInt8.ofNat (b % 16 * 16 + c / 4), UInt8.ofNat (c % 4 * 64 + d)]

/-- `base64.b64decode(s, validate=True)`: groups of four characters of the alphabet, padding only at
the very end.  Left-over bits of a padded group are dropped. -/
def b64decode (acc : Bytes) : Bytes → Option Bytes
  | [] => some acc.reverse
  | [a, b, 61, 61] => do
    let a ← base64Value a
    let b ← base64Value b
    return (acc.reverse ++ (sextetBytes a b 0 0).take 1)
  | [a, b, c, 61] => do
    let a ← base64Value a
    let b ← base64Value b
    let c ← base64Value c
    return (acc.reverse ++ (sextetBytes a b c 0).take 2)
  | a :: b :: c :: d :: rest =>
    match base64Value a, base64Value b, base64Value c, base64Value d with
    | some a, some b, some c, some d => b64decode ((sextetBytes a b c d).reverse ++ acc) rest
    | _, _, _, _ => none
  | _ => none

/-- `base64.b64encode`, or `base64.urlsafe_b64encode`. -/
def b64encode (urlsafe : Bool) (acc : Str) : Bytes → Str
  | [] => acc.reverse
  | [x] =>
    acc.reverse ++
      [base64Char urlsafe (x.toNat / 4), base64Char urlsafe (x.toNat % 4 * 16), '=', '=']
  | [x, y] =>
    acc.reverse ++ [base64Char urlsafe (x.toNat / 4),
      base64Char urlsafe (x.toNat % 4 * 16 + y.toNat / 16),
      base64Char urlsafe (y.toNat % 16 * 4), '=']
  | x :: y :: z :: rest =>
    b64encode urlsafe (base64Char urlsafe (z.toNat % 64) ::
      base64Char urlsafe (y.toNat % 16 * 4 + z.toNat / 64) ::
      base64Char urlsafe (x.toNat % 4 * 16 + y.toNat / 16) ::
      base64Char urlsafe (x.toNat / 4) :: acc) rest

/-- `bytes.translate(bytes.maketrans(b"-_", b"+/"))`. -/
def urlsafeToStandard (b : UInt8) : UInt8 := if b = 45 then 43 else if b = 95 then 47 else b

/-- `decode_canonical_base64`. -/
def decodeCanonicalBase64 (value : Str) (label : String) (expectedBytes : Option ℕ)
    (allowUrlsafe : Bool) : Except PyErr Bytes :=
  match (encodeAscii value).bind fun encoded =>
      b64decode [] (if allowUrlsafe then encoded.map urlsafeToStandard else encoded) with
  | none => .error (.valueError (label ++ " must be canonical base64"))
  | some decoded =>
    if value = b64encode false [] decoded ∨
        (allowUrlsafe = true ∧ value = b64encode true [] decoded) then
      match expectedBytes with
      | none => .ok decoded
      | some n =>
        if decoded.length = n then .ok decoded
        else .error (.valueError (label ++ " must decode to exactly " ++ toString n ++ " bytes"))
    else .error (.valueError (label ++ " must be canonical padded base64"))

/-- The label is for the message only. -/
theorem decodeCanonicalBase64_label {value : Str} {label label' : String} {n : Option ℕ}
    {urlsafe : Bool} {b : Bytes} (h : decodeCanonicalBase64 value label n urlsafe = .ok b) :
    decodeCanonicalBase64 value label' n urlsafe = .ok b := by
  unfold decodeCanonicalBase64 at h ⊢
  split at h
  · cases h
  · split_ifs at h ⊢
    split at h
    · exact h
    · split_ifs at h ⊢
      exact h

/-! ## Round trip -/

section RoundTrip

/-- The byte of an ASCII character. -/
def asciiByte (c : Char) : UInt8 := UInt8.ofNat c.toNat

theorem base64Char_ascii (urlsafe : Bool) {n : ℕ} (h : n < 64) :
    (base64Char urlsafe n).toNat < 128 := by
  have checked : ∀ u : Bool, ∀ k : Fin 64, (base64Char u k).toNat < 128 := by decide
  exact checked urlsafe ⟨n, h⟩

/-- Decoding a sextet's character gives the sextet back, whichever alphabet it is from. -/
theorem base64Value_base64Char {n : ℕ} (h : n < 64) :
    base64Value (asciiByte (base64Char false n)) = some n ∧
      base64Value (urlsafeToStandard (asciiByte (base64Char false n))) = some n ∧
      base64Value (urlsafeToStandard (asciiByte (base64Char true n))) = some n := by
  have checked : ∀ k : Fin 64, base64Value (asciiByte (base64Char false k)) = some k.val ∧
      base64Value (urlsafeToStandard (asciiByte (base64Char false k))) = some k.val ∧
      base64Value (urlsafeToStandard (asciiByte (base64Char true k))) = some k.val := by decide
  exact checked ⟨n, h⟩

/-- The bytes that are decoded for a character of the text. -/
def normalizedByte (allowUrlsafe : Bool) (c : Char) : UInt8 :=
  if allowUrlsafe then urlsafeToStandard (asciiByte c) else asciiByte c

variable {urlsafe allowUrlsafe : Bool}

theorem base64Value_normalizedByte (hu : urlsafe = true → allowUrlsafe = true) {n : ℕ}
    (h : n < 64) : base64Value (normalizedByte allowUrlsafe (base64Char urlsafe n)) = some n := by
  obtain ⟨h₁, h₂, h₃⟩ := base64Value_base64Char h
  unfold normalizedByte
  cases urlsafe with
  | true => simpa [hu rfl] using h₃
  | false => cases allowUrlsafe <;> simpa

theorem normalizedByte_pad : normalizedByte allowUrlsafe '=' = 61 := by
  cases allowUrlsafe <;> decide

/-- The accumulator is what was encoded before. -/
theorem b64encode_acc (acc : Str) : ∀ b : Bytes,
    b64encode urlsafe acc b = acc.reverse ++ b64encode urlsafe [] b
  | [] => by simp [b64encode]
  | [x] => by simp [b64encode]
  | [x, y] => by simp [b64encode]
  | x :: y :: z :: rest => by
    rw [b64encode, b64encode_acc _ rest, b64encode, b64encode_acc [_, _, _, _] rest]
    simp

/-- A group whose last character is no padding. -/
theorem b64decode_group (acc : Bytes) {a b c d : UInt8} {w x y z : ℕ} (rest : Bytes)
    (ha : base64Value a = some w) (hb : base64Value b = some x) (hc : base64Value c = some y)
    (hd : base64Value d = some z) :
    b64decode acc (a :: b :: c :: d :: rest) = b64decode
      ((sextetBytes w x y z).reverse ++ acc) rest := by
  have hpad : d ≠ 61 := by
    rintro rfl
    cases hd
  rw [b64decode]
  · simp [ha, hb, hc, hd]
  · exact fun _ h _ => hpad h
  · exact fun h _ => hpad h

/-- The three bytes of a group come back from its sextets. -/
theorem sextetBytes_split (x y z : UInt8) :
    sextetBytes (x.toNat / 4) (x.toNat % 4 * 16 + y.toNat / 16)
      (y.toNat % 16 * 4 + z.toNat / 64) (z.toNat % 64) = [x, y, z] := by
  have hx := x.toNat_lt
  have hy := y.toNat_lt
  have hz := z.toNat_lt
  simp only [sextetBytes, List.cons.injEq, ← UInt8.toNat_inj, UInt8.toNat_ofNat', and_true]
  omega

theorem b64decode_b64encode (hu : urlsafe = true → allowUrlsafe = true) (acc : Bytes) :
    ∀ b : Bytes, b64decode acc ((b64encode urlsafe [] b).map (normalizedByte allowUrlsafe)) =
      some (acc.reverse ++ b)
  | [] => by simp [b64encode, b64decode]
  | [x] => by
    have hx := x.toNat_lt
    have h₁ := base64Value_normalizedByte hu (by omega : x.toNat / 4 < 64)
    have h₂ := base64Value_normalizedByte hu (by omega : x.toNat % 4 * 16 < 64)
    simp only [b64encode, List.reverse_nil, List.nil_append, List.map_cons, List.map_nil,
      normalizedByte_pad, b64decode, h₁, h₂]
    have hgroup := sextetBytes_split x 0 0
    simp at hgroup
    simp [hgroup]
  | [x, y] => by
    have hx := x.toNat_lt
    have hy := y.toNat_lt
    have h₁ := base64Value_normalizedByte hu (by omega : x.toNat / 4 < 64)
    have h₂ := base64Value_normalizedByte hu (by omega : x.toNat % 4 * 16 + y.toNat / 16 < 64)
    have h₃ := base64Value_normalizedByte hu (by omega : y.toNat % 16 * 4 < 64)
    simp only [b64encode, List.reverse_nil, List.nil_append, List.map_cons, List.map_nil,
      normalizedByte_pad]
    rw [b64decode]
    · simp only [h₁, h₂, h₃]
      have hgroup := sextetBytes_split x y 0
      simp at hgroup
      simp [hgroup]
    · intro hc
      rw [hc] at h₃
      cases h₃
  | x :: y :: z :: rest => by
    have hx := x.toNat_lt
    have hy := y.toNat_lt
    have hz := z.toNat_lt
    rw [b64encode, b64encode_acc]
    simp only [List.reverse_cons, List.reverse_nil, List.nil_append, List.cons_append,
      List.map_cons]
    rw [b64decode_group acc _ (base64Value_normalizedByte hu (by omega))
      (base64Value_normalizedByte hu (by omega)) (base64Value_normalizedByte hu (by omega))
      (base64Value_normalizedByte hu (by omega)), b64decode_b64encode hu _ rest, sextetBytes_split]
    simp

/-- The characters of an encoding are those of its alphabet and the padding. -/
theorem mem_b64encode : ∀ (b : Bytes) {c : Char}, c ∈ b64encode urlsafe [] b →
    (∃ n < 64, c = base64Char urlsafe n) ∨ c = '='
  | [], c, hc => by simp [b64encode] at hc
  | [x], c, hc => by
    have hx := x.toNat_lt
    simp only [b64encode, List.reverse_nil, List.nil_append, List.mem_cons, List.not_mem_nil,
      or_false] at hc
    rcases hc with rfl | rfl | rfl | rfl
    · exact .inl ⟨_, by omega, rfl⟩
    · exact .inl ⟨_, by omega, rfl⟩
    · exact .inr rfl
    · exact .inr rfl
  | [x, y], c, hc => by
    have hx := x.toNat_lt
    have hy := y.toNat_lt
    simp only [b64encode, List.reverse_nil, List.nil_append, List.mem_cons, List.not_mem_nil,
      or_false] at hc
    rcases hc with rfl | rfl | rfl | rfl
    · exact .inl ⟨_, by omega, rfl⟩
    · exact .inl ⟨_, by omega, rfl⟩
    · exact .inl ⟨_, by omega, rfl⟩
    · exact .inr rfl
  | x :: y :: z :: rest, c, hc => by
    have hx := x.toNat_lt
    have hy := y.toNat_lt
    have hz := z.toNat_lt
    rw [b64encode, b64encode_acc] at hc
    simp only [List.reverse_cons, List.reverse_nil, List.nil_append, List.cons_append,
      List.mem_cons] at hc
    rcases hc with rfl | rfl | rfl | rfl | hc
    · exact .inl ⟨_, by omega, rfl⟩
    · exact .inl ⟨_, by omega, rfl⟩
    · exact .inl ⟨_, by omega, rfl⟩
    · exact .inl ⟨_, by omega, rfl⟩
    · exact mem_b64encode rest hc

theorem b64encode_ascii {b : Bytes} {c : Char} (hc : c ∈ b64encode urlsafe [] b) :
    c.toNat < 128 := by
  rcases mem_b64encode b hc with ⟨n, hn, rfl⟩ | rfl
  · exact base64Char_ascii urlsafe hn
  · decide

theorem length_b64encode : ∀ b : Bytes,
    (b64encode urlsafe [] b).length = (b.length + 2) / 3 * 4
  | [] => by simp [b64encode]
  | [x] => by simp [b64encode]
  | [x, y] => by simp [b64encode]
  | x :: y :: z :: rest => by
    rw [b64encode, b64encode_acc]
    simp only [List.length_append, List.length_reverse, List.length_cons, List.length_nil,
      length_b64encode rest]
    omega

/-- An encoding has no whitespace to strip. -/
theorem strip_b64encode (b : Bytes) : strip (b64encode urlsafe [] b) = b64encode urlsafe [] b := by
  have checked : ∀ u : Bool, ∀ k : Fin 64, isWhitespace (base64Char u k) = false := by decide
  refine strip_eq_self fun c hc => ?_
  rcases mem_b64encode b hc with ⟨n, hn, rfl⟩ | rfl
  · exact checked urlsafe ⟨n, hn⟩
  · decide

/-- The standard encoding of any bytes, and the URL-safe one where it is allowed, is canonical. -/
theorem decodeCanonicalBase64_b64encode (hu : urlsafe = true → allowUrlsafe = true)
    (label : String) {expectedBytes : Option ℕ} {b : Bytes}
    (hlen : ∀ n ∈ expectedBytes, b.length = n) :
    decodeCanonicalBase64 (b64encode urlsafe [] b) label expectedBytes allowUrlsafe = .ok b := by
  have hascii : encodeAscii (b64encode urlsafe [] b) =
      some ((b64encode urlsafe [] b).map asciiByte) := by
    unfold encodeAscii
    rw [if_pos (List.all_eq_true.2 fun c hc => decide_eq_true (b64encode_ascii hc))]
    rfl
  have hnormal : (if allowUrlsafe then ((b64encode urlsafe [] b).map asciiByte).map
      urlsafeToStandard else (b64encode urlsafe [] b).map asciiByte) =
      (b64encode urlsafe [] b).map (normalizedByte allowUrlsafe) := by
    cases allowUrlsafe <;> simp [normalizedByte]
  have hcanonical : b64encode urlsafe [] b = b64encode false [] b ∨
      (allowUrlsafe = true ∧ b64encode urlsafe [] b = b64encode true [] b) := by
    cases urlsafe with
    | false => exact .inl rfl
    | true => exact .inr ⟨hu rfl, rfl⟩
  have hdecode : b64decode [] ((b64encode urlsafe [] b).map (normalizedByte allowUrlsafe)) =
      some b := b64decode_b64encode hu [] b
  unfold decodeCanonicalBase64
  rw [hascii, Option.bind_some, hnormal, hdecode]
  refine (if_pos hcanonical).trans ?_
  cases expectedBytes with
  | none => rfl
  | some n => exact if_pos (hlen n rfl)

/-- An accepted text is an encoding of the bytes it decodes to. -/
theorem decodeCanonicalBase64_eq_ok {value : Str} {label : String} {b : Bytes} :
    decodeCanonicalBase64 value label none allowUrlsafe = .ok b ↔
      value = b64encode false [] b ∨ (allowUrlsafe = true ∧ value = b64encode true [] b) := by
  constructor
  · intro h
    unfold decodeCanonicalBase64 at h
    split at h
    · cases h
    · split_ifs at h with hcanonical
      obtain rfl := Except.ok.inj h
      exact hcanonical
  · rintro (rfl | ⟨rfl, rfl⟩)
    · exact decodeCanonicalBase64_b64encode (by simp) label (by simp)
    · exact decodeCanonicalBase64_b64encode (by simp) label (by simp)

/-- A character outside the alphabet. -/
theorem not_mem_b64encode {c : Char} (hpad : c ≠ '=')
    (halphabet : ∀ k : Fin 64, base64Char urlsafe k ≠ c) (b : Bytes) :
    c ∉ b64encode urlsafe [] b := by
  intro h
  rcases mem_b64encode b h with ⟨n, hn, hc⟩ | hc
  · exact halphabet ⟨n, hn⟩ hc.symm
  · exact hpad hc

/-- Acceptance is exact: a text decodes to `b` if it is the padded standard encoding of `b` or,
where the caller allows it, the padded URL-safe one.  The two alphabets never mix. -/
theorem decodeCanonicalBase64_exact (value : Str) (label : String) (b : Bytes) :
    (decodeCanonicalBase64 value label none false = .ok b ↔ value = b64encode false [] b) ∧
      (decodeCanonicalBase64 value label none true = .ok b ↔
        (value = b64encode false [] b ∧ '-' ∉ value ∧ '_' ∉ value) ∨
          (value = b64encode true [] b ∧ '+' ∉ value ∧ '/' ∉ value)) := by
  rw [decodeCanonicalBase64_eq_ok, decodeCanonicalBase64_eq_ok]
  refine ⟨by simp, ?_⟩
  constructor
  · rintro (rfl | ⟨-, rfl⟩)
    · exact .inl ⟨rfl, not_mem_b64encode (by decide) (by decide) b,
        not_mem_b64encode (by decide) (by decide) b⟩
    · exact .inr ⟨rfl, not_mem_b64encode (by decide) (by decide) b,
        not_mem_b64encode (by decide) (by decide) b⟩
  · rintro (⟨h, -⟩ | ⟨h, -⟩)
    · exact .inl h
    · exact .inr ⟨rfl, h⟩

end RoundTrip

/-- A base64 string of a validated model, with the bytes it decodes to. -/
structure Base64Text (expectedBytes : Option ℕ) (allowUrlsafe : Bool) where
  text : Str
  bytes : Bytes
  decodes : decodeCanonicalBase64 text "" expectedBytes allowUrlsafe = .ok bytes

namespace Base64Text

variable {n : Option ℕ} {urlsafe : Bool}

theorem ext_text {a b : Base64Text n urlsafe} (h : a.text = b.text) : a = b := by
  obtain ⟨text, bytes, ha⟩ := a
  obtain ⟨text', bytes', hb⟩ := b
  obtain rfl : text = text' := h
  obtain rfl : bytes = bytes' := Except.ok.inj (ha.symm.trans hb)
  rfl

instance : DecidableEq (Base64Text n urlsafe) := fun a b =>
  decidable_of_iff (a.text = b.text) ⟨ext_text, fun h => h ▸ rfl⟩

/-- A validated text decodes without an error. -/
theorem decode_eq (t : Base64Text n urlsafe) (label : String) :
    decodeCanonicalBase64 t.text label n urlsafe = .ok t.bytes :=
  decodeCanonicalBase64_label t.decodes

/-- The standard encoding of some bytes. -/
def ofBytes (b : Bytes) (hlen : ∀ k ∈ n, b.length = k) : Base64Text n urlsafe where
  text := b64encode false [] b
  bytes := b
  decodes := decodeCanonicalBase64_b64encode (by simp) "" hlen

end Base64Text

example : decodeCanonicalBase64 (lit "QUI=") "x" none false = .ok [65, 66] := by decide +kernel

end ProofFlow
