import ProofFlow.Python.Text

/-!
# Decimals

A Python `Decimal` is a sign, a coefficient and a power of ten, or one of the special values.  Two
representations of one number (`1.0` and `1.00`) are different values that compare equal.
-/

namespace ProofFlow

/-- A Python `Decimal`. -/
inductive Decimal where
  /-- `(-1)^negative * coefficient * 10^exponent`. -/
  | finite (negative : Bool) (coefficient : ℕ) (exponent : ℤ)
  | infinity (negative : Bool)
  | nan
  deriving DecidableEq

namespace Decimal

/-- A natural number. -/
def ofNat (n : ℕ) : Decimal := .finite false n 0

/-- The value in units of `10^unit`, when `unit` is no larger than the exponent. -/
def scaled (negative : Bool) (coefficient : ℕ) (exponent unit : ℤ) : ℤ :=
  let magnitude : ℤ := coefficient * 10 ^ (exponent - unit).toNat
  if negative then -magnitude else magnitude

/-- `a <= b` on finite values. -/
def finiteLe : Decimal → Decimal → Bool
  | .finite n c e, .finite n' c' e' =>
    decide (scaled n c e (min e e') ≤ scaled n' c' e' (min e e'))
  | _, _ => false

/-- A finite value with `Field(ge=Decimal("0"), le=Decimal("1"))`. -/
def isProportion (d : Decimal) : Bool := finiteLe (ofNat 0) d && finiteLe d (ofNat 1)

theorem isProportion_one : isProportion (ofNat 1) = true := by decide

/-- `format(value, "f")` of a finite value. -/
def fixedText (negative : Bool) (coefficient : ℕ) (exponent : ℤ) : Str :=
  let digits := decimalText coefficient
  let unsigned :=
    if 0 ≤ exponent then
      if coefficient = 0 then digits else digits ++ List.replicate exponent.toNat '0'
    else
      let places := (-exponent).toNat
      let padded := List.replicate (places + 1 - digits.length) '0' ++ digits
      padded.take (padded.length - places) ++ '.' :: padded.drop (padded.length - places)
  if negative then '-' :: unsigned else unsigned

/-- `text.rstrip(c)`. -/
def rstripChar (c : Char) (text : Str) : Str := (text.reverse.dropWhile (· == c)).reverse

/-- `_decimal_text`, or `none` on a `ValueError`. -/
def text : Decimal → Option Str
  | .finite negative coefficient exponent =>
    let fixed := fixedText negative coefficient exponent
    let stripped := if '.' ∈ fixed then rstripChar '.' (rstripChar '0' fixed) else fixed
    some (if stripped = [] then ['0'] else stripped)
  | _ => none

example : text (.finite false 1500 (-3)) = some ['1', '.', '5'] := by decide

example : text (.finite false 12 2) = some ['1', '2', '0', '0'] := by decide

end Decimal

end ProofFlow
