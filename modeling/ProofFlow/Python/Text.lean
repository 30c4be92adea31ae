import Mathlib

/-!
# Text, bytes and exceptions

The wire contracts are strict pydantic models, so every string that reaches the verifiers is a
sequence of Unicode scalar values (`Str`); a Python `str` of the standard library's JSON decoder may
also hold surrogates (`PyStr`).  This file has the character classes behind the contracts'
patterns and the few string operations the validators use.
-/

namespace ProofFlow

/-- The exceptions that can leave the modelled functions. -/
inductive PyErr where
  | valueError (message : String)
  /-- pydantic's `ValidationError`, a subclass of `ValueError`. -/
  | validationError
  | overflowError
  deriving DecidableEq

/-- The exceptions that `except ValueError` catches. -/
def PyErr.isValueError : PyErr → Bool
  | .valueError _ => true
  | .validationError => true
  | .overflowError => false

/-- A Python `bytes`. -/
abbrev Bytes := List UInt8

/-- A string of a validated model: pydantic admits no surrogates. -/
abbrev Str := List Char

instance : LawfulBEq Str := inferInstance

/-- A code point of a Python `str`, surrogates included. -/
abbrev CodePoint := Fin 0x110000

instance codePoint_neZero : NeZero 0x110000 := ⟨by decide⟩

/-- A Python `str`. -/
abbrev PyStr := List CodePoint

instance : LawfulBEq PyStr := inferInstance

/-- The characters of an ASCII literal. -/
def lit (s : String) : Str := s.toByteArray.data.toList.map fun b => Char.ofNat b.toNat

/-- `sorted` on strings, which Python compares by code point. -/
def sortedStr (l : List Str) : List Str := l.insertionSort (· ≤ ·)

theorem sortedStr_perm (l : List Str) : (sortedStr l).Perm l := List.perm_insertionSort _ l

@[simp] theorem length_sortedStr (l : List Str) : (sortedStr l).length = l.length :=
  (sortedStr_perm l).length_eq

@[simp] theorem mem_sortedStr {l : List Str} {s : Str} : s ∈ sortedStr l ↔ s ∈ l :=
  (sortedStr_perm l).mem_iff

@[simp] theorem sortedStr_sortedStr (l : List Str) : sortedStr (sortedStr l) = sortedStr l :=
  (List.pairwise_insertionSort _ l).insertionSort_eq

/-! ## Character classes -/

def isDigit (c : Char) : Bool := 48 ≤ c.toNat && c.toNat ≤ 57

def isUpper (c : Char) : Bool := 65 ≤ c.toNat && c.toNat ≤ 90

def isLower (c : Char) : Bool := 97 ≤ c.toNat && c.toNat ≤ 122

/-- `[0-9a-f]`. -/
def isLowerHex (c : Char) : Bool := isDigit c || (97 ≤ c.toNat && c.toNat ≤ 102)

/-- `[A-Za-z0-9]`. -/
def isAlnum (c : Char) : Bool := isUpper c || isLower c || isDigit c

/-- `[A-Za-z0-9._:@-]`. -/
def isIdentifierChar (c : Char) : Bool :=
  isAlnum c || c == '.' || c == '_' || c == ':' || c == '@' || c == '-'

/-- The White_Space code points that pydantic's `str_strip_whitespace` removes at both ends. -/
def isWhitespace (c : Char) : Bool :=
  let n := c.toNat
  (9 ≤ n && n ≤ 13) || n == 32 || n == 0x85 || n == 0xa0 || n == 0x1680 ||
    (0x2000 ≤ n && n ≤ 0x200a) || n == 0x2028 || n == 0x2029 || n == 0x202f || n == 0x205f ||
    n == 0x3000

/-- Strip whitespace at both ends. -/
def strip (s : Str) : Str := ((s.dropWhile isWhitespace).reverse.dropWhile isWhitespace).reverse

theorem dropWhile_eq_self {s : Str} (h : ∀ c ∈ s.head?, isWhitespace c = false) :
    s.dropWhile isWhitespace = s := by
  cases s with
  | nil => rfl
  | cons c s => simp [h c (by simp)]

/-- A text that neither starts nor ends with whitespace is its own stripped form. -/
theorem strip_of_ends {s : Str} (h : ∀ c ∈ s.head?, isWhitespace c = false)
    (h' : ∀ c ∈ s.getLast?, isWhitespace c = false) : strip s = s := by
  unfold strip
  rw [dropWhile_eq_self h, dropWhile_eq_self (by simpa using h'), List.reverse_reverse]

theorem strip_eq_self {s : Str} (h : ∀ c ∈ s, isWhitespace c = false) : strip s = s :=
  strip_of_ends (fun c hc => h c (List.mem_of_head? hc)) fun c hc => h c (List.mem_of_getLast? hc)

theorem head_dropWhile (s : Str) :
    ∀ c ∈ (s.dropWhile isWhitespace).head?, isWhitespace c = false := by
  intro c hc
  have hnot := List.head?_dropWhile_not isWhitespace s
  rw [Option.mem_def.1 hc] at hnot
  simpa using hnot

/-- Stripping is idempotent. -/
@[simp] theorem strip_strip (s : Str) : strip (strip s) = strip s := by
  refine strip_of_ends ?_ ?_
  · intro c hc
    obtain ⟨rest, hrest⟩ : strip s <+: s.dropWhile isWhitespace := List.rdropWhile_prefix _ _
    refine head_dropWhile s c ?_
    rw [← hrest]
    cases hs : strip s with
    | nil => simp [hs] at hc
    | cons d t => simpa [hs] using hc
  · intro c hc
    unfold strip at hc
    rw [List.getLast?_reverse] at hc
    exact head_dropWhile _ c hc

/-! ## Patterns -/

/-- `IDENTIFIER_PATTERN`: `^[A-Za-z0-9][A-Za-z0-9._:@-]{0,127}$`. -/
def isIdentifier : Str → Bool
  | [] => false
  | c :: s => isAlnum c && decide (s.length ≤ 127) && s.all isIdentifierChar

/-- `^[0-9a-f]{n}$`. -/
def isHexOfLength (n : ℕ) (s : Str) : Bool := decide (s.length = n) && s.all isLowerHex

/-- `SHA256_PATTERN`: `^sha256:[0-9a-f]{64}$`. -/
def isSha256 (s : Str) : Bool := (lit "sha256:").isPrefixOf s && isHexOfLength 64 (s.drop 7)

/-- `str.casefold`, as far as it can produce a character of `://`, `file:`, `data:` or `urn:`:
ASCII letters and the ligature U+FB01, which folds to `fi`. -/
def casefold (s : Str) : Str :=
  s.flatMap fun c =>
    if isUpper c then [Char.ofNat (c.toNat + 32)]
    else if c.toNat = 0xfb01 then ['f', 'i']
    else [c]

/-- `_reject_remote_reference`: no scheme separator and no `file:`, `data:` or `urn:`. -/
def isLocalLabel (s : Str) : Bool :=
  let lowered := casefold s
  !(decide (lit "://" <:+: lowered) || (lit "file:").isPrefixOf lowered ||
    (lit "data:").isPrefixOf lowered || (lit "urn:").isPrefixOf lowered)

/-- `_reject_remote_reference` as the validators call it. -/
def rejectRemoteReference (s : Str) (label : String) : Except PyErr Unit :=
  if isLocalLabel s then .ok ()
  else .error (.valueError (label ++ " must not be a remote or indirect reference"))

/-- `str(n)` of a non-negative integer. -/
def decimalText (n : ℕ) : Str := Nat.toDigits 10 n

/-- Read a run of ASCII digits. -/
def digitsValue (s : Str) : ℕ := s.foldl (fun n c => 10 * n + (c.toNat - 48)) 0

/-- The bytes of an ASCII string (`str.encode("ascii")`), or `none` on a `UnicodeEncodeError`. -/
def encodeAscii (s : Str) : Option Bytes :=
  if s.all (fun c => c.toNat < 128) then some (s.map fun c => UInt8.ofNat c.toNat) else none

/-- `str.encode("utf-8")`, total on strings without surrogates. -/
def encodeUtf8 (s : Str) : Bytes := s.flatMap String.utf8EncodeChar

theorem encodeUtf8_append (s t : Str) : encodeUtf8 (s ++ t) = encodeUtf8 s ++ encodeUtf8 t :=
  List.flatMap_append

theorem length_encodeUtf8 {s : Str} (h : ∀ c ∈ s, c.toNat < 0x80) :
    (encodeUtf8 s).length = s.length := by
  induction s with
  | nil => rfl
  | cons c s ih =>
    obtain ⟨hc, hs⟩ := List.forall_mem_cons.1 h
    have hv : c.val.toNat = c.toNat := rfl
    have hchar : (String.utf8EncodeChar c).length = 1 := by
      unfold String.utf8EncodeChar
      rw [if_pos (by omega)]
      rfl
    have hcons : encodeUtf8 (c :: s) = String.utf8EncodeChar c ++ encodeUtf8 s := rfl
    rw [hcons, List.length_append, hchar, ih hs, List.length_cons]
    omega

end ProofFlow
