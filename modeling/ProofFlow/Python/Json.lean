import ProofFlow.Python.Text

/-!
# JSON

`json.loads` on bytes, as the standard library reads it: the encoding is guessed from the first
bytes, the text is decoded (surrogates pass), and the decoder accepts the RFC 8259 grammar together
with the constants `NaN`, `Infinity` and `-Infinity`.  Objects are kept as lists of pairs, the form
in which an `object_pairs_hook` sees them.
-/

namespace ProofFlow

/-- A decoded JSON value with strings in `σ`; numbers with a fraction or an exponent keep their
numeral. -/
inductive Json (σ : Type) where
  | null
  | bool (b : Bool)
  | int (n : ℤ)
  | float (numeral : Str)
  | constant (name : Str)
  | str (s : σ)
  | arr (items : List (Json σ))
  | obj (members : List (σ × Json σ))

/-- What `json.loads` raises: a `ValueError` (of which `UnicodeDecodeError` and `JSONDecodeError`
are subclasses) or a `RecursionError`. -/
inductive JsonError where
  | valueError
  | recursionError
  deriving DecidableEq

/-! ## Encodings -/

/-- The code point `n`, if there is one. -/
def codePoint? (n : ℕ) : Option CodePoint := if h : n < 0x110000 then some ⟨n, h⟩ else none

/-- Inside a UTF-8 sequence: how many bytes are missing, the bits so far, and the range of the next
byte. -/
structure Utf8State where
  missing : ℕ
  bits : ℕ
  lo : ℕ
  hi : ℕ

/-- Between two sequences. -/
def Utf8State.start : Utf8State := ⟨0, 0, 0x80, 0xbf⟩

/-- The first byte of a sequence of several bytes. -/
def utf8Lead (n : ℕ) : Option Utf8State :=
  if n < 0xc2 then none
  else if n < 0xe0 then some ⟨1, n - 0xc0, 0x80, 0xbf⟩
  else if n < 0xf0 then some ⟨2, n - 0xe0, if n = 0xe0 then 0xa0 else 0x80, 0xbf⟩
  else if n < 0xf5 then
    some ⟨3, n - 0xf0, if n = 0xf0 then 0x90 else 0x80, if n = 0xf4 then 0x8f else 0xbf⟩
  else none

/-- A further byte of a sequence: the code point when it is the last one. -/
def utf8Continue (state : Utf8State) (n : ℕ) : Option (Utf8State × Option CodePoint) :=
  if state.lo ≤ n ∧ n ≤ state.hi then
    let bits := state.bits * 64 + (n - 0x80)
    if state.missing = 1 then (codePoint? bits).map fun c => (.start, some c)
    else some (⟨state.missing - 1, bits, 0x80, 0xbf⟩, none)
  else none

/-- UTF-8 with the `surrogatepass` error handler. -/
def decodeUtf8 (state : Utf8State) (acc : PyStr) : Bytes → Option PyStr
  | [] => if state.missing = 0 then some acc.reverse else none
  | b :: rest =>
    if state.missing = 0 then
      if b.toNat < 0x80 then decodeUtf8 state (Fin.ofNat _ b.toNat :: acc) rest
      else match utf8Lead b.toNat with
        | some state => decodeUtf8 state acc rest
        | none => none
    else match utf8Continue state b.toNat with
      | some (state, some c) => decodeUtf8 state (c :: acc) rest
      | some (state, none) => decodeUtf8 state acc rest
      | none => none

/-- The code units of a two-byte encoding. -/
def units16 (bigEndian : Bool) : Bytes → Option (List ℕ)
  | [] => some []
  | a :: b :: rest =>
    (units16 bigEndian rest).map
      ((if bigEndian then a.toNat * 256 + b.toNat else b.toNat * 256 + a.toNat) :: ·)
  | [_] => none

def isHighSurrogate (n : ℕ) : Bool := 0xd800 ≤ n && n < 0xdc00

def isLowSurrogate (n : ℕ) : Bool := 0xdc00 ≤ n && n < 0xe000

def joinSurrogates (hi lo : ℕ) : ℕ := 0x10000 + (hi - 0xd800) * 0x400 + (lo - 0xdc00)

/-- UTF-16 code units to code points; unpaired surrogates pass. -/
def decodeUnits16 : List ℕ → List ℕ
  | [] => []
  | [u] => [u]
  | u :: v :: rest =>
    if isHighSurrogate u && isLowSurrogate v then joinSurrogates u v :: decodeUnits16 rest
    else u :: decodeUnits16 (v :: rest)

def decodeUtf16 (bigEndian : Bool) (b : Bytes) : Option PyStr :=
  (units16 bigEndian b).bind fun units => (decodeUnits16 units).mapM codePoint?

def decodeUtf32 (bigEndian : Bool) : Bytes → Option PyStr
  | [] => some []
  | a :: b :: c :: d :: rest =>
    let n := if bigEndian then ((a.toNat * 256 + b.toNat) * 256 + c.toNat) * 256 + d.toNat
      else ((d.toNat * 256 + c.toNat) * 256 + b.toNat) * 256 + a.toNat
    (codePoint? n).bind fun c => (decodeUtf32 bigEndian rest).map (c :: ·)
  | _ => none

/-- `b.startswith(bom)`. -/
def startsWith (b bom : Bytes) : Bool := bom.isPrefixOf b

/-- `b.decode(json.detect_encoding(b), "surrogatepass")`. -/
def decodeDetected (b : Bytes) : Option PyStr :=
  if startsWith b [0x00, 0x00, 0xfe, 0xff] then decodeUtf32 true (b.drop 4)
  else if startsWith b [0xff, 0xfe, 0x00, 0x00] then decodeUtf32 false (b.drop 4)
  else if startsWith b [0xfe, 0xff] then decodeUtf16 true (b.drop 2)
  else if startsWith b [0xff, 0xfe] then decodeUtf16 false (b.drop 2)
  else if startsWith b [0xef, 0xbb, 0xbf] then decodeUtf8 .start [] (b.drop 3)
  else
    match b with
    | b0 :: b1 :: b2 :: b3 :: _ =>
      if b0 = 0 then (if b1 = 0 then decodeUtf32 true b else decodeUtf16 true b)
      else if b1 = 0 then
        (if b2 = 0 ∧ b3 = 0 then decodeUtf32 false b else decodeUtf16 false b)
      else decodeUtf8 .start [] b
    | [b0, b1] =>
      if b0 = 0 then decodeUtf16 true b
      else if b1 = 0 then decodeUtf16 false b
      else decodeUtf8 .start [] b
    | _ => decodeUtf8 .start [] b

/-! ## The decoder -/

/-- Skip JSON whitespace. -/
def skipWs : PyStr → PyStr
  | [] => []
  | c :: s => if c.val = 32 ∨ c.val = 9 ∨ c.val = 10 ∨ c.val = 13 then skipWs s else c :: s

/-- Drop a literal from the front. -/
def eat (word : List ℕ) (s : PyStr) : Option PyStr :=
  if (s.take word.length).map Fin.val = word then some (s.drop word.length) else none

def hexValue (c : CodePoint) : Option ℕ :=
  let n := c.val
  if 48 ≤ n ∧ n ≤ 57 then some (n - 48)
  else if 65 ≤ n ∧ n ≤ 70 then some (n - 55)
  else if 97 ≤ n ∧ n ≤ 102 then some (n - 87)
  else none

/-- Four hexadecimal digits. -/
def hex4 (a b c d : CodePoint) : Option ℕ := do
  let a ← hexValue a
  let b ← hexValue b
  let c ← hexValue c
  let d ← hexValue d
  return ((a * 16 + b) * 16 + c) * 16 + d

/-- The character of a one-letter escape. -/
def escapeValue (c : CodePoint) : Option CodePoint :=
  match c.val with
  | 34 => some 34
  | 92 => some 92
  | 47 => some 47
  | 98 => some 8
  | 102 => some 12
  | 110 => some 10
  | 114 => some 13
  | 116 => some 9
  | _ => none

/-- The value of a `\uXXXX` escape at the front of the text, with what follows it. -/
def unicodeEscape : PyStr → Option (CodePoint × PyStr)
  | b :: u :: h1 :: h2 :: h3 :: h4 :: s =>
    if b.val = 92 ∧ u.val = 117 then
      ((hex4 h1 h2 h3 h4).bind codePoint?).map fun c => (c, s)
    else none
  | _ => none

/-- The value of the escape at the front of the text.  An escaped high surrogate joins an escaped
low one that follows it at once; any other surrogate stands alone. -/
def scanEscape (s : PyStr) : Option (CodePoint × PyStr) :=
  match unicodeEscape s with
  | some (hi, rest) =>
    match unicodeEscape rest with
    | some (lo, rest') =>
      if isHighSurrogate hi.val && isLowSurrogate lo.val then
        (codePoint? (joinSurrogates hi.val lo.val)).map fun c => (c, rest')
      else some (hi, rest)
    | none => some (hi, rest)
  | none =>
    match s with
    | _ :: e :: rest => (escapeValue e).map fun c => (c, rest)
    | _ => none

/-- The rest of a string literal after its opening quote: the value and what follows it. -/
def scanString (fuel : ℕ) (acc s : PyStr) : Option (PyStr × PyStr) :=
  match fuel, s with
  | 0, _ => none
  | _, [] => none
  | fuel + 1, c :: rest =>
    if c.val = 34 then some (acc.reverse, rest)
    else if c.val < 32 then none
    else if c.val ≠ 92 then scanString fuel (c :: acc) rest
    else match scanEscape (c :: rest) with
      | some (c, rest) => scanString fuel (c :: acc) rest
      | none => none

/-- The longest run of ASCII digits. -/
def scanDigits : PyStr → Str × PyStr
  | [] => ([], [])
  | c :: s =>
    if 48 ≤ c.val ∧ c.val ≤ 57 then
      let (ds, rest) := scanDigits s
      (Char.ofNat c.val :: ds, rest)
    else ([], c :: s)

/-- `sys.int_info.default_max_str_digits`: longer numerals make `int` raise a `ValueError`. -/
def maxStrDigits : ℕ := 4300

/-- The fraction part of a numeral, if the text goes on with one. -/
def scanFraction (s : PyStr) : Str × PyStr :=
  match s with
  | c :: tail =>
    match c.val, scanDigits tail with
    | 46, (d :: ds, rest) => ('.' :: d :: ds, rest)
    | _, _ => ([], s)
  | [] => ([], s)

/-- The exponent part of a numeral, if the text goes on with one. -/
def scanExponent (s : PyStr) : Str × PyStr :=
  match s with
  | e :: tail =>
    if e.val = 101 ∨ e.val = 69 then
      let (sign, tail) : Str × PyStr := match tail with
        | c :: t => if c.val = 43 then (['+'], t) else if c.val =
            45 then (['-'], t) else ([], c :: t)
        | [] => ([], [])
      match scanDigits tail with
      | (d :: ds, rest) => ('e' :: sign ++ d :: ds, rest)
      | _ => ([], s)
    else ([], s)
  | [] => ([], s)

/-- `-?(0|[1-9][0-9]*)` at the front of the text: sign, digits and what follows. -/
def scanInteger (s : PyStr) : Option (Bool × Str × PyStr) :=
  let (negative, s) := match s with
    | c :: t => if c.val = 45 then (true, t) else (false, c :: t)
    | [] => (false, [])
  match s with
  | c :: t =>
    if c.val = 48 then some (negative, ['0'], t)
    else match scanDigits s with
      | (d :: ds, rest) => some (negative, d :: ds, rest)
      | _ => none
  | [] => none

def scanNumber (s : PyStr) : Except JsonError (Json PyStr × PyStr) :=
  match scanInteger s with
  | none => .error .valueError
  | some (negative, digits, rest) =>
    let (fraction, rest) := scanFraction rest
    let (exponent, rest) := scanExponent rest
    if fraction = [] ∧ exponent = [] then
      if digits.length ≤ maxStrDigits then
        let n : ℤ := digitsValue digits
        .ok (.int (if negative then -n else n), rest)
      else .error .valueError
    else .ok (.float ((if negative then ['-'] else []) ++ digits ++ fraction ++ exponent), rest)

/-- The functions that `json.loads` is given: whether `object_pairs_hook` takes the pairs of an
object and `parse_constant` a constant, with a `ValueError` as the alternative. -/
structure JsonHooks where
  pairs : List (PyStr × Json PyStr) → Bool
  constant : Str → Bool

/-- No hooks. -/
def JsonHooks.none : JsonHooks := ⟨fun _ => true, fun _ => true⟩

/-- The value of a constant. -/
def JsonHooks.onConstant (hooks : JsonHooks) (name : Str) (rest : PyStr) :
    Except JsonError (Json PyStr × PyStr) :=
  if hooks.constant name then .ok (.constant name, rest) else .error .valueError

/-- The value of an object whose end was met. -/
def JsonHooks.onPairs (hooks : JsonHooks) (members : List (PyStr × Json PyStr)) (rest : PyStr) :
    Except JsonError (Json PyStr × PyStr) :=
  if hooks.pairs members then .ok (.obj members, rest) else .error .valueError

/-- A value that is neither a container nor a string. -/
def scanScalar (hooks : JsonHooks) (s : PyStr) : Except JsonError (Json PyStr × PyStr) :=
  match eat [110, 117, 108, 108] s with
  | some rest => .ok (.null, rest)
  | none => match eat [116, 114, 117, 101] s with
    | some rest => .ok (.bool true, rest)
    | none => match eat [102, 97, 108, 115, 101] s with
      | some rest => .ok (.bool false, rest)
      | none => match eat [78, 97, 78] s with
        | some rest => hooks.onConstant (lit "NaN") rest
        | none => match eat [73, 110, 102, 105, 110, 105, 116, 121] s with
          | some rest => hooks.onConstant (lit "Infinity") rest
          | none => match eat [45, 73, 110, 102, 105, 110, 105, 116, 121] s with
            | some rest => hooks.onConstant (lit "-Infinity") rest
            | none => scanNumber s

mutual

/-- `scan_once`: a value at the front of the text and what follows it.  `depth` is what is left of
the decoder's recursion limit; `fuel` bounds the number of calls. -/
def scanValue (hooks : JsonHooks) (fuel depth : ℕ) (s : PyStr) :
    Except JsonError (Json PyStr × PyStr) :=
  match fuel, s with
  | 0, _ => .error .valueError
  | _, [] => .error .valueError
  | fuel + 1, c :: rest =>
    if c.val = 34 then
      match scanString (rest.length + 1) [] rest with
      | some (v, rest) => .ok (.str v, rest)
      | none => .error .valueError
    else if c.val = 123 then
      match depth with
      | 0 => .error .recursionError
      | depth + 1 =>
        let rest := skipWs rest
        if rest.head? = some 125 then hooks.onPairs [] rest.tail
        else scanMembers hooks fuel depth [] rest
    else if c.val = 91 then
      match depth with
      | 0 => .error .recursionError
      | depth + 1 =>
        let rest := skipWs rest
        if rest.head? = some 93 then .ok (.arr [], rest.tail)
        else scanItems hooks fuel depth [] rest
    else scanScalar hooks (c :: rest)
termination_by structural fuel

/-- The members of an object from its next key on. -/
def scanMembers (hooks : JsonHooks) (fuel depth : ℕ) (acc : List (PyStr × Json PyStr)) (s : PyStr) :
    Except JsonError (Json PyStr × PyStr) :=
  match fuel with
  | 0 => .error .valueError
  | fuel + 1 =>
    if s.head? = some 34 then
      match scanString (s.length + 1) [] s.tail with
      | none => .error .valueError
      | some (key, rest) =>
        let rest := skipWs rest
        if rest.head? = some 58 then
          match scanValue hooks fuel depth (skipWs rest.tail) with
          | .error e => .error e
          | .ok (v, rest) =>
            let rest := skipWs rest
            if rest.head? = some 125 then hooks.onPairs ((key, v) :: acc).reverse rest.tail
            else if rest.head? = some 44 then
              scanMembers hooks fuel depth ((key, v) :: acc) (skipWs rest.tail)
            else .error .valueError
        else .error .valueError
    else .error .valueError
termination_by structural fuel

/-- The items of an array from its next value on. -/
def scanItems (hooks : JsonHooks) (fuel depth : ℕ) (acc : List (Json PyStr)) (s : PyStr) :
    Except JsonError (Json PyStr × PyStr) :=
  match fuel with
  | 0 => .error .valueError
  | fuel + 1 =>
    match scanValue hooks fuel depth s with
    | .error e => .error e
    | .ok (v, rest) =>
      let rest := skipWs rest
      if rest.head? = some 93 then .ok (.arr (v :: acc).reverse, rest.tail)
      else if rest.head? = some 44 then scanItems hooks fuel depth (v :: acc) (skipWs rest.tail)
      else .error .valueError
termination_by structural fuel

end

/-- `json.loads` of a decoded text.  A call on a text takes less than two units of fuel for each of
its characters: an opening bracket is met by one call and its items by a second one. -/
def scanDocument (hooks : JsonHooks) (recursionLimit : ℕ) (s : PyStr) :
    Except JsonError (Json PyStr) :=
  match scanValue hooks (2 * s.length + 2) recursionLimit (skipWs s) with
  | .error e => .error e
  | .ok (v, rest) => if skipWs rest = [] then .ok v else .error .valueError

/-- `json.loads` of bytes with hooks, under the recursion limit of the decoder. -/
def jsonLoadsWith (hooks : JsonHooks) (recursionLimit : ℕ) (b : Bytes) :
    Except JsonError (Json PyStr) :=
  match decodeDetected b with
  | none => .error .valueError
  | some s => scanDocument hooks recursionLimit s

/-- `json.loads` of bytes. -/
def jsonLoads (recursionLimit : ℕ) (b : Bytes) : Except JsonError (Json PyStr) :=
  jsonLoadsWith .none recursionLimit b

end ProofFlow
