import ProofFlow.Python.JsonText
import ProofFlow.Python.Utf8

/-!
# The nesting guard

`_json_nesting_exceeds` scans the bytes of a body with a depth and two flags.  On the texts of a
JSON value it finds exactly the depth of the value: a text that is read from outside a string leaves
the scanner outside a string, at the depth it came with, unless the limit is exceeded on the way.
-/

namespace ProofFlow.Server

/-- The loop of `_json_nesting_exceeds`. -/
def nestingExceedsFrom (limit depth : ℕ) (inString escaped : Bool) : Bytes → Bool
  | [] => false
  | character :: payload =>
    if inString then
      if escaped then nestingExceedsFrom limit depth inString false payload
      else if character = 92 then nestingExceedsFrom limit depth inString true payload
      else if character = 34 then nestingExceedsFrom limit depth false escaped payload
      else nestingExceedsFrom limit depth inString escaped payload
    else if character = 34 then nestingExceedsFrom limit depth true escaped payload
    else if character = 91 ∨ character = 123 then
      if depth + 1 > limit then true
      else nestingExceedsFrom limit (depth + 1) inString escaped payload
    else if character = 93 ∨ character = 125 then
      nestingExceedsFrom limit (max 0 (depth - 1)) inString escaped payload
    else nestingExceedsFrom limit depth inString escaped payload

/-- `_json_nesting_exceeds`. -/
def jsonNestingExceeds (payload : Bytes) (limit : ℕ) : Bool :=
  nestingExceedsFrom limit 0 false false payload

/-! ## Characters -/

section Characters

variable {limit depth : ℕ} {s : Str} {bs rest : Bytes}

/-- The characters that end a string or begin an escape. -/
def isStringMark (n : ℕ) : Bool := n = 34 || n = 92

/-- The characters that are special outside a string. -/
def isStructureMark (n : ℕ) : Bool := n = 34 || n = 91 || n = 123 || n = 93 || n = 125

/-- A text without characters of an ASCII class is encoded without bytes of it. -/
theorem encodeUtf8_avoids {p : ℕ → Bool} (hascii : ∀ n, p n = true → n < 0x80)
    (hs : ∀ c ∈ s, p c.toNat = false) : ∀ b ∈ encodeUtf8 s, p b.toNat = false := by
  intro b hb
  obtain ⟨c, hc, hb⟩ := List.mem_flatMap.1 hb
  by_cases hlt : c.toNat < 0x80
  · rw [encodeChar_of_lt hlt, List.mem_singleton] at hb
    rw [hb, UInt8.toNat_ofNat_of_lt' (Nat.lt_trans hlt (by decide))]
    exact hs c hc
  · by_contra hp
    have hle := le_of_mem_encodeChar (Nat.not_lt.1 hlt) hb
    have hb := hascii _ (Bool.not_eq_false _ ▸ hp)
    omega

theorem skip_inside (hs : ∀ c ∈ s, isStringMark c.toNat = false) :
    nestingExceedsFrom limit depth true false (encodeUtf8 s ++ rest) =
      nestingExceedsFrom limit depth true false rest := by
  have hbytes := encodeUtf8_avoids (p := isStringMark) (by simp [isStringMark]) hs
  generalize encodeUtf8 s = bs at hbytes
  induction bs with
  | nil => rfl
  | cons b bs ih =>
    obtain ⟨hb, hbs⟩ := List.forall_mem_cons.1 hbytes
    simp only [isStringMark, Bool.or_eq_false_iff, decide_eq_false_iff_not] at hb
    have h₁ : b ≠ 92 := fun h => hb.2 (h ▸ rfl)
    have h₂ : b ≠ 34 := fun h => hb.1 (h ▸ rfl)
    rw [List.cons_append, nestingExceedsFrom]
    simp only [if_true, Bool.false_eq_true, if_false, h₁, h₂]
    exact ih hbs

theorem skip_outside (hs : ∀ c ∈ s, isStructureMark c.toNat = false) :
    nestingExceedsFrom limit depth false false (encodeUtf8 s ++ rest) =
      nestingExceedsFrom limit depth false false rest := by
  have hbytes := encodeUtf8_avoids (p := isStructureMark) (by simp [isStructureMark]; omega) hs
  generalize encodeUtf8 s = bs at hbytes
  induction bs with
  | nil => rfl
  | cons b bs ih =>
    obtain ⟨hb, hbs⟩ := List.forall_mem_cons.1 hbytes
    simp only [isStructureMark, Bool.or_eq_false_iff, decide_eq_false_iff_not] at hb
    obtain ⟨⟨⟨⟨hquote, h₁⟩, h₂⟩, h₃⟩, h₄⟩ := hb
    have hne (n : UInt8) (h : b.toNat ≠ n.toNat) : b ≠ n := fun hb => h (hb ▸ rfl)
    rw [List.cons_append, nestingExceedsFrom]
    simp only [Bool.false_eq_true, if_false, hne 34 hquote, hne 91 h₁, hne 123 h₂, hne 93 h₃,
      hne 125 h₄, or_self]
    exact ih hbs

/-- The first byte of an ASCII character and the rest of the text. -/
theorem encodeUtf8_ascii {c : Char} (hc : c.toNat < 0x80) :
    encodeUtf8 (c :: s) ++ rest = UInt8.ofNat c.toNat :: (encodeUtf8 s ++ rest) := by
  rw [encodeUtf8_cons, encodeChar_of_lt hc]
  rfl

/-- An escaped character is passed over, whatever it is. -/
theorem skip_escape {e : Char} (he : e.toNat < 0x80) :
    nestingExceedsFrom limit depth true false (encodeUtf8 ('\\' :: e :: s) ++ rest) =
      nestingExceedsFrom limit depth true false (encodeUtf8 s ++ rest) := by
  rw [encodeUtf8_ascii (by decide), encodeUtf8_ascii he, nestingExceedsFrom, nestingExceedsFrom]
  rfl

end Characters

/-! ## Strings -/

section Strings

variable {limit depth : ℕ} {s : Str} {rest : Bytes}

theorem toNat_of_hexValue {c : Char} {n : ℕ} (h : hexValue (toCodePoint c) = some n) :
    isStringMark c.toNat = false := by
  rw [← Bool.not_eq_true]
  intro hmark
  simp only [isStringMark, Bool.or_eq_true, decide_eq_true_eq] at hmark
  rcases hmark with hmark | hmark <;> simp [hexValue, hmark] at h

theorem hex4_marks {h₁ h₂ h₃ h₄ : Char} {n : ℕ}
    (h : hex4 (toCodePoint h₁) (toCodePoint h₂) (toCodePoint h₃) (toCodePoint h₄) = some n) :
    ∀ c ∈ [h₁, h₂, h₃, h₄], isStringMark c.toNat = false := by
  simp only [hex4, Option.bind_eq_bind, Option.bind_eq_some_iff] at h
  obtain ⟨n₁, hn₁, n₂, hn₂, n₃, hn₃, n₄, hn₄, -⟩ := h
  simp [toNat_of_hexValue hn₁, toNat_of_hexValue hn₂, toNat_of_hexValue hn₃,
    toNat_of_hexValue hn₄]

theorem toNat_of_escapeValue {e : Char} {c : CodePoint} (h : escapeValue (toCodePoint e) = some c) :
    e.toNat < 0x80 := by
  have hval : (toCodePoint e).val = e.toNat := rfl
  unfold escapeValue at h
  by_contra hle
  split at h
  all_goals first | omega | cases h

theorem skip_char {c : CodePoint} (h : SpellsChar c s) :
    nestingExceedsFrom limit depth true false (encodeUtf8 s ++ rest) =
      nestingExceedsFrom limit depth true false rest := by
  cases h with
  | @plain c hcontrol hquote hbackslash =>
    apply skip_inside
    have hne {d : Char} (h : c ≠ d) : c.toNat ≠ d.toNat := fun heq => h (Char.toNat_inj.1 heq)
    simpa [isStringMark] using ⟨hne hquote, hne hbackslash⟩
  | letter he => exact skip_escape (toNat_of_escapeValue he)
  | unit h => rw [skip_escape (by decide), skip_inside (hex4_marks h)]
  | @pair h₁ h₂ h₃ h₄ l₁ l₂ l₃ l₄ hi lo c hhi hlo =>
    have hsplit : ['\\', 'u', h₁, h₂, h₃, h₄, '\\', 'u', l₁, l₂, l₃, l₄] =
        '\\' :: 'u' :: ([h₁, h₂, h₃, h₄] ++ ['\\', 'u', l₁, l₂, l₃, l₄]) := rfl
    rw [hsplit, skip_escape (by decide), encodeUtf8_append, List.append_assoc,
      skip_inside (hex4_marks hhi), skip_escape (by decide), skip_inside (hex4_marks hlo)]

theorem skip_chars {v : PyStr} (h : SpellsChars v s) :
    nestingExceedsFrom limit depth true false (encodeUtf8 s ++ rest) =
      nestingExceedsFrom limit depth true false rest := by
  induction h with
  | nil => rfl
  | cons hc _ ih => rw [encodeUtf8_append, List.append_assoc, skip_char hc, ih]

end Strings

/-! ## Values -/

/-- From outside a string, the scanner finds the text nested `k` deep and goes on behind it. -/
def Nests (limit : ℕ) (s : Str) (k : ℕ) : Prop :=
  ∀ depth ≤ limit, ∀ rest, nestingExceedsFrom limit depth false false (encodeUtf8 s ++ rest) =
    (decide (limit < depth + k) || nestingExceedsFrom limit depth false false rest)

section Nests

variable {limit k m : ℕ} {s t : Str}

theorem Nests.append (hs : Nests limit s k) (ht : Nests limit t m) :
    Nests limit (s ++ t) (max k m) := by
  intro depth hdepth rest
  rw [encodeUtf8_append, List.append_assoc, hs depth hdepth, ht depth hdepth, ← Bool.or_assoc,
    ← Bool.decide_or]
  congr 2
  rw [← lt_max_iff, max_add_add_left]

theorem nests_neutral (hs : ∀ c ∈ s, isStructureMark c.toNat = false) : Nests limit s 0 := by
  intro depth hdepth rest
  rw [skip_outside hs, Nat.add_zero, decide_eq_false (Nat.not_lt.2 hdepth), Bool.false_or]

theorem nests_string {v : PyStr} (h : SpellsString v s) : Nests limit s 0 := by
  obtain ⟨u, hu, rfl⟩ := h
  intro depth hdepth rest
  rw [Nat.add_zero, decide_eq_false (Nat.not_lt.2 hdepth), Bool.false_or,
    encodeUtf8_ascii (by decide), nestingExceedsFrom]
  simp only [Bool.false_eq_true, if_false]
  rw [if_pos (by decide), encodeUtf8_append, List.append_assoc, skip_chars hu,
    encodeUtf8_ascii (by decide), nestingExceedsFrom]
  rfl

/-- Brackets nest one deeper. -/
theorem Nests.bracket (h : Nests limit s k) {opening closing : Char}
    (hb : opening = '[' ∧ closing = ']' ∨ opening = '\x7b' ∧ closing = '\x7d') :
    Nests limit (opening :: (s ++ [closing])) (k + 1) := by
  intro depth hdepth rest
  have hopen : nestingExceedsFrom limit depth false false
      (encodeUtf8 (opening :: (s ++ [closing])) ++ rest) =
      if depth + 1 > limit then true else nestingExceedsFrom limit (depth + 1) false false
        (encodeUtf8 s ++ (encodeUtf8 [closing] ++ rest)) := by
    rw [← List.append_assoc, ← encodeUtf8_append]
    rcases hb with ⟨rfl, rfl⟩ | ⟨rfl, rfl⟩
    · rw [encodeUtf8_ascii (by decide), nestingExceedsFrom]
      rfl
    · rw [encodeUtf8_ascii (by decide), nestingExceedsFrom]
      rfl
  have hclose : nestingExceedsFrom limit (depth + 1) false false (encodeUtf8 [closing] ++ rest) =
      nestingExceedsFrom limit depth false false rest := by
    rcases hb with ⟨rfl, rfl⟩ | ⟨rfl, rfl⟩
    · rw [encodeUtf8_ascii (by decide), nestingExceedsFrom]
      exact congrArg (nestingExceedsFrom limit · false false rest) (by simp)
    · rw [encodeUtf8_ascii (by decide), nestingExceedsFrom]
      exact congrArg (nestingExceedsFrom limit · false false rest) (by simp)
  rw [hopen]
  split_ifs with hdeep
  · rw [decide_eq_true (by omega), Bool.true_or]
  · rw [h (depth + 1) (by omega), hclose, Nat.add_right_comm, Nat.add_assoc]

theorem nests_neutral_cons {c : Char} (hc : isStructureMark c.toNat = false)
    (h : Nests limit s k) : Nests limit (c :: s) k := by
  have hchar : Nests limit [c] 0 := nests_neutral (by simpa using hc)
  simpa using hchar.append h

end Nests

/-! ## Neutral texts -/

section Neutral

variable {s : Str}

def Neutral (s : Str) : Prop := ∀ c ∈ s, isStructureMark c.toNat = false

theorem Neutral.append {t : Str} (hs : Neutral s) (ht : Neutral t) : Neutral (s ++ t) :=
  List.forall_mem_append.2 ⟨hs, ht⟩

theorem neutral_blank (h : IsBlank s) : Neutral s := by
  intro c hc
  have hblank := h c hc
  simp only [isStructureMark, Bool.or_eq_false_iff, decide_eq_false_iff_not]
  omega

theorem neutral_digits (h : ∀ c ∈ s, isDigit c = true) : Neutral s := by
  intro c hc
  have hdigit := h c hc
  simp only [isDigit, Bool.and_eq_true, decide_eq_true_eq] at hdigit
  simp only [isStructureMark, Bool.or_eq_false_iff, decide_eq_false_iff_not]
  omega

theorem neutral_signText (negative : Bool) : Neutral (signText negative) := by
  cases negative <;> simp [signText, Neutral, isStructureMark]

theorem neutral_whole (h : IsWhole s) : Neutral s := by
  cases h with
  | zero => exact neutral_digits (by simp [isDigit])
  | nonzero hc _ hs => exact neutral_digits (List.forall_mem_cons.2 ⟨hc, hs⟩)

theorem neutral_fraction (h : IsFraction s) : Neutral s := by
  cases h with
  | absent => exact nofun
  | digits _ hs => exact List.forall_mem_cons.2 ⟨by simp [isStructureMark], neutral_digits hs⟩

theorem neutral_exponent (h : IsExponent s) : Neutral s := by
  cases h with
  | absent => exact nofun
  | digits he hsign _ hs =>
    refine List.forall_mem_cons.2 ⟨?_, Neutral.append ?_ (neutral_digits hs)⟩
    · rcases he with rfl | rfl <;> simp [isStructureMark]
    · rcases hsign with rfl | rfl | rfl <;> simp [Neutral, isStructureMark]

end Neutral

theorem nests_blank {limit : ℕ} {w : Str} (h : IsBlank w) : Nests limit w 0 :=
  nests_neutral (neutral_blank h)

/-- A text with whitespace around it. -/
theorem Nests.padded {limit k : ℕ} {w₁ s w₂ : Str} (hs : Nests limit s k) (h₁ : IsBlank w₁)
    (h₂ : IsBlank w₂) : Nests limit (w₁ ++ (s ++ w₂)) k := by
  simpa using (nests_blank h₁).append (hs.append (nests_blank h₂))

/-- A text with whitespace around it, a comma or a colon, and what follows. -/
theorem Nests.separated {limit k m : ℕ} {w₁ s w₂ t : Str} {c : Char} (hs : Nests limit s k)
    (hc : c = ',' ∨ c = ':') (h₁ : IsBlank w₁) (h₂ : IsBlank w₂) (ht : Nests limit t m) :
    Nests limit (w₁ ++ (s ++ (w₂ ++ c :: t))) (max k m) := by
  have hmark : isStructureMark c.toNat = false := by
    rcases hc with rfl | rfl <;> simp [isStructureMark]
  have hrest := (nests_blank h₂).append (nests_neutral_cons hmark ht)
  simpa using (nests_blank h₁).append (hs.append hrest)

/-! ## The scanner and the grammar -/

mutual

/-- The texts of a value are nested as deep as the value. -/
theorem nests_value {limit : ℕ} {v : Json PyStr} {s : Str} (h : Spells v s) :
    Nests limit s v.depth := by
  cases h with
  | null => exact nests_neutral (by simp [isStructureMark])
  | true => exact nests_neutral (by simp [isStructureMark])
  | false => exact nests_neutral (by simp [isStructureMark])
  | int hs => exact nests_neutral ((neutral_signText _).append (neutral_whole hs))
  | float hs hfraction hexponent =>
    exact nests_neutral ((neutral_signText _).append ((neutral_whole hs).append
      ((neutral_fraction hfraction).append (neutral_exponent hexponent))))
  | str h => exact nests_string h
  | emptyArr hw => exact (nests_blank hw).bracket (.inl ⟨rfl, rfl⟩)
  | arr h => exact (nests_items h).bracket (.inl ⟨rfl, rfl⟩)
  | emptyObj hw => exact (nests_blank hw).bracket (.inr ⟨rfl, rfl⟩)
  | obj h => exact (nests_members h).bracket (.inr ⟨rfl, rfl⟩)

theorem nests_items {limit : ℕ} {l : List (Json PyStr)} {s : Str} (h : SpellsItems l s) :
    Nests limit s (depthItems l) := by
  cases h with
  | last h₁ hv h₂ => simpa [depthItems] using (nests_value hv).padded h₁ h₂
  | cons h₁ hv h₂ hl => exact (nests_value hv).separated (.inl rfl) h₁ h₂ (nests_items hl)

theorem nests_members {limit : ℕ} {l : List (PyStr × Json PyStr)} {s : Str}
    (h : SpellsMembers l s) : Nests limit s (depthMembers l) := by
  cases h with
  | last h₁ hk h₂ h₃ hv h₄ =>
    simpa [depthMembers] using
      (nests_string hk).separated (.inr rfl) h₁ h₂ ((nests_value hv).padded h₃ h₄)
  | cons h₁ hk h₂ h₃ hv h₄ hl =>
    have hrest : Nests limit _ _ :=
      (nests_value hv).separated (.inl rfl) h₃ h₄ (nests_members hl)
    simpa [depthMembers] using (nests_string hk).separated (.inr rfl) h₁ h₂ hrest

end

/-- The guard is exact: on every text of a value it finds the limit exceeded if and only if the
value is nested deeper. -/
theorem jsonNestingExceeds_iff (limit : ℕ) (v : Json PyStr) (text : Str) (h : IsJsonText v text) :
    jsonNestingExceeds (encodeUtf8 text) limit = true ↔ limit < v.depth := by
  obtain ⟨w₁, s, w₂, h₁, hv, h₂, rfl⟩ := h
  have hnests : Nests limit (w₁ ++ (s ++ w₂)) v.depth := (nests_value hv).padded h₁ h₂
  have hscan := hnests 0 (Nat.zero_le limit) []
  rw [List.append_nil] at hscan
  rw [jsonNestingExceeds, hscan]
  simp [nestingExceedsFrom]

namespace Sample

/-- The text `[[],"]"]`. -/
def nestedText : Str := ['[', '[', ']', ',', '"', ']', '"', ']']

def nestedValue : Json PyStr := .arr [.arr [], .str [toCodePoint ']']]

theorem spells_nestedText : IsJsonText nestedValue nestedText := by
  have hblank : IsBlank [] := nofun
  have hbracket : SpellsString [toCodePoint ']'] ['"', ']', '"'] :=
    ⟨[']'], .cons (s := [']']) (t := []) (.plain (by decide) (by decide) (by decide)) .nil, rfl⟩
  have hempty : Spells (.arr []) ['[', ']'] := .emptyArr hblank
  have hitems := SpellsItems.cons hblank hempty hblank
    (.last hblank (.str hbracket) hblank)
  exact ⟨[], nestedText, [], hblank, .arr hitems, hblank, rfl⟩

end Sample

/-- A bracket inside a string does not count: the limit 1 is exceeded, the limit 2 is not. -/
theorem sample_jsonNestingExceeds_iff :
    (jsonNestingExceeds (encodeUtf8 Sample.nestedText) 1 = true ↔ 1 < Sample.nestedValue.depth) ∧
      (jsonNestingExceeds (encodeUtf8 Sample.nestedText) 2 = true ↔
        2 < Sample.nestedValue.depth) :=
  ⟨jsonNestingExceeds_iff 1 _ _ Sample.spells_nestedText,
    jsonNestingExceeds_iff 2 _ _ Sample.spells_nestedText⟩

end ProofFlow.Server
