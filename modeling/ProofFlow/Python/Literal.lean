import Mathlib.Algebra.Order.Field.Rat
import Mathlib.Tactic.FieldSimp
import Mathlib.Tactic.Ring
import Mathlib.Tactic.Linarith
import ProofFlow.Python.Decimal

/-!
# Numbers and decimal literals

The rational number that a `Decimal` stands for, the constructor `Decimal(text)`, and how
`_decimal_text` and the number determine each other.
-/

namespace ProofFlow

namespace Decimal

/-- The number. -/
def value : Decimal → ℚ
  | .finite negative coefficient exponent =>
    (if negative then -1 else 1) * coefficient * (10 : ℚ) ^ exponent
  | _ => 0

/-- The number of decimal digits of a coefficient. -/
def digits (coefficient : ℕ) : ℕ := (decimalText coefficient).length

/-! ## Literals -/

/-- The zeros of the runs of ten decimal digits that Unicode has. -/
def unicodeZeros : List ℕ :=
  [0x30, 0x660, 0x6f0, 0x7c0, 0x966, 0x9e6, 0xa66, 0xae6, 0xb66, 0xbe6, 0xc66, 0xce6, 0xd66, 0xde6,
    0xe50, 0xed0, 0xf20, 0x1040, 0x1090, 0x17e0, 0x1810, 0x1946, 0x19d0, 0x1a80, 0x1a90, 0x1b50,
    0x1bb0, 0x1c40, 0x1c50, 0xa620, 0xa8d0, 0xa900, 0xa9d0, 0xa9f0, 0xaa50, 0xabf0, 0xff10, 0x104a0,
    0x10d30, 0x11066, 0x110f0, 0x11136, 0x111d0, 0x112f0, 0x11450, 0x114d0, 0x11650, 0x116c0,
    0x11730, 0x118e0, 0x11950, 0x11c50, 0x11d50, 0x11da0, 0x11f50, 0x16a60, 0x16ac0, 0x16b50,
    0x1d7ce, 0x1d7d8, 0x1d7e2, 0x1d7ec, 0x1d7f6, 0x1e140, 0x1e2f0, 0x1e4f0, 0x1e950, 0x1fbf0]

/-- The value of a decimal digit. -/
def digit? (c : Char) : Option ℕ :=
  (unicodeZeros.find? fun start => start ≤ c.toNat && c.toNat < start + 10).map (c.toNat - ·)

def isDecimalDigit (c : Char) : Bool := (digit? c).isSome

/-- The number that a run of decimal digits stands for. -/
def runValue (s : Str) : ℕ := s.foldl (fun n c => 10 * n + (digit? c).getD 0) 0

/-- The exponent part of a literal; there may be none. -/
def literalExponent : Str → Option ℤ
  | [] => some 0
  | e :: s =>
    if e = 'e' ∨ e = 'E' then
      let (sign, run) : ℤ × Str := match s with
        | '-' :: s => (-1, s)
        | '+' :: s => (1, s)
        | s => (1, s)
      if run ≠ [] ∧ run.all isDecimalDigit = true then some (sign * runValue run) else none
    else none

/-- The coefficient and the exponent of an unsigned numeral. -/
def literalNumber (s : Str) : Option (ℕ × ℤ) :=
  let whole := s.takeWhile isDecimalDigit
  let (fraction, rest) : Str × Str := match s.dropWhile isDecimalDigit with
    | '.' :: s => (s.takeWhile isDecimalDigit, s.dropWhile isDecimalDigit)
    | s => ([], s)
  if whole = [] ∧ fraction = [] then none
  else (literalExponent rest).map fun exponent =>
    (runValue (whole ++ fraction), exponent - fraction.length)

/-- `Infinity` and `NaN` in their spellings. -/
def literalSpecial (negative : Bool) (s : Str) : Option Decimal :=
  let folded := s.map fun c => if isUpper c then Char.ofNat (c.toNat + 32) else c
  if folded = lit "inf" ∨ folded = lit "infinity" then some (.infinity negative)
  else if (lit "nan").isPrefixOf folded && (s.drop 3).all isDecimalDigit then some .nan
  else if (lit "snan").isPrefixOf folded && (s.drop 4).all isDecimalDigit then some .nan
  else none

/-- The exponents that the implementation has room for. -/
def InRange : Decimal → Prop
  | .finite _ coefficient exponent =>
    -1999999999999999997 ≤ exponent ∧ digits coefficient + exponent - 1 ≤ 999999999999999999
  | _ => True

instance : DecidablePred InRange
  | .finite _ _ _ => inferInstanceAs (Decidable (_ ∧ _))
  | .infinity _ => inferInstanceAs (Decidable True)
  | .nan => inferInstanceAs (Decidable True)

/-- The sign of a literal and the rest of it. -/
def literalSign : Str → Bool × Str
  | '-' :: s => (true, s)
  | '+' :: s => (false, s)
  | s => (false, s)

/-- `str.isspace` of a character: beside the White_Space code points the four information
separators. -/
def isSpace (c : Char) : Bool := isWhitespace c || (0x1c ≤ c.toNat && c.toNat ≤ 0x1f)

/-- The literal without the space around it and the underscores in it. -/
def literalBody (literal : Str) : Str :=
  ((literal.dropWhile isSpace).reverse.dropWhile isSpace).reverse.filter (· ≠ '_')

theorem dropWhile_isSpace {s : Str} (h : ∀ c ∈ s, isSpace c = false) :
    s.dropWhile isSpace = s := by
  cases s with
  | nil => rfl
  | cons c s => simp [h c (by simp)]

theorem literalBody_eq_self {s : Str} (h : ∀ c ∈ s, isSpace c = false ∧ c ≠ '_') :
    literalBody s = s := by
  unfold literalBody
  rw [dropWhile_isSpace fun c hc => (h c hc).1,
    dropWhile_isSpace fun c hc => (h c (List.mem_reverse.1 hc)).1, List.reverse_reverse]
  exact List.filter_eq_self.2 fun c hc => decide_eq_true (h c hc).2

/-- The value that a literal denotes. -/
def parse (literal : Str) : Option Decimal :=
  let signed := literalSign (literalBody literal)
  match literalNumber signed.2 with
  | some (coefficient, exponent) => some (.finite signed.1 coefficient exponent)
  | none => literalSpecial signed.1 signed.2

/-- `Decimal(literal)`, or `none` on an `InvalidOperation`. -/
def ofText (literal : Str) : Option Decimal := (parse literal).filter fun d => decide d.InRange

example : ofText (lit " -12.50e1 ") = some (.finite true 1250 (-1)) := by decide

example : ofText (Char.ofNat 0x1c :: lit "1_0") = some (.finite false 10 0) := by decide

example : ofText (lit "1e1000000000000000000") = none := by decide

end Decimal

end ProofFlow
