import ProofFlow.RoundTrip

/-!
# JSON texts

The JSON grammar: which texts spell a value, with any whitespace, any spelling of a number and any
choice of escapes in a string.  A value is what the decoder builds of the text, with its objects as
lists of pairs.
-/

namespace ProofFlow

/-! ## Values -/

mutual

/-- How deep arrays and objects are nested in a value. -/
def Json.depth {σ : Type} : Json σ → ℕ
  | .arr items => depthItems items + 1
  | .obj members => depthMembers members + 1
  | _ => 0

def depthItems {σ : Type} : List (Json σ) → ℕ
  | [] => 0
  | v :: l => max v.depth (depthItems l)

def depthMembers {σ : Type} : List (σ × Json σ) → ℕ
  | [] => 0
  | (_, v) :: l => max v.depth (depthMembers l)

end

/-! ## Numbers and strings -/

/-- `0`, or digits that do not start with `0`. -/
inductive IsWhole : Str → Prop where
  | zero : IsWhole ['0']
  | nonzero {c : Char} {s : Str} (hc : isDigit c = true) (hne : c ≠ '0')
      (hs : ∀ d ∈ s, isDigit d = true) : IsWhole (c :: s)

/-- A point and digits, or nothing. -/
inductive IsFraction : Str → Prop where
  | absent : IsFraction []
  | digits {s : Str} (hne : s ≠ []) (hs : ∀ d ∈ s, isDigit d = true) : IsFraction ('.' :: s)

/-- An exponent, or nothing. -/
inductive IsExponent : Str → Prop where
  | absent : IsExponent []
  | digits {e : Char} {sign s : Str} (he : e = 'e' ∨ e = 'E')
      (hsign : sign = [] ∨ sign = ['+'] ∨ sign = ['-']) (hne : s ≠ [])
      (hs : ∀ d ∈ s, isDigit d = true) : IsExponent (e :: (sign ++ s))

/-- The texts of one code point inside a string: the character itself, an escape, or a pair of
escaped surrogates. -/
inductive SpellsChar : CodePoint → Str → Prop where
  | plain {c : Char} (hcontrol : 0x20 ≤ c.toNat) (hquote : c ≠ '"') (hbackslash : c ≠ '\\') :
      SpellsChar (toCodePoint c) [c]
  | letter {e : Char} {c : CodePoint} (h : escapeValue (toCodePoint e) = some c) :
      SpellsChar c ['\\', e]
  | unit {h₁ h₂ h₃ h₄ : Char} {c : CodePoint}
      (h : hex4 (toCodePoint h₁) (toCodePoint h₂) (toCodePoint h₃) (toCodePoint h₄) = some c.val) :
      SpellsChar c ['\\', 'u', h₁, h₂, h₃, h₄]
  | pair {h₁ h₂ h₃ h₄ l₁ l₂ l₃ l₄ : Char} {hi lo : ℕ} {c : CodePoint}
      (hhi : hex4 (toCodePoint h₁) (toCodePoint h₂) (toCodePoint h₃) (toCodePoint h₄) = some hi)
      (hlo : hex4 (toCodePoint l₁) (toCodePoint l₂) (toCodePoint l₃) (toCodePoint l₄) = some lo)
      (hpair : isHighSurrogate hi && isLowSurrogate lo) (hc : c.val = joinSurrogates hi lo) :
      SpellsChar c ['\\', 'u', h₁, h₂, h₃, h₄, '\\', 'u', l₁, l₂, l₃, l₄]

/-- The texts of a string, without its quotes. -/
inductive SpellsChars : PyStr → Str → Prop where
  | nil : SpellsChars [] []
  | cons {c : CodePoint} {v : PyStr} {s t : Str} (hc : SpellsChar c s) (hv : SpellsChars v t) :
      SpellsChars (c :: v) (s ++ t)

/-- The texts of a string. -/
def SpellsString (v : PyStr) (text : Str) : Prop :=
  ∃ s, SpellsChars v s ∧ text = '"' :: (s ++ ['"'])

/-! ## Texts -/

mutual

/-- The texts of a value. -/
inductive Spells : Json PyStr → Str → Prop where
  | null : Spells .null ['n', 'u', 'l', 'l']
  | true : Spells (.bool true) ['t', 'r', 'u', 'e']
  | false : Spells (.bool false) ['f', 'a', 'l', 's', 'e']
  | int {negative : Bool} {s : Str} (hs : IsWhole s) :
      Spells (.int (if negative then -digitsValue s else digitsValue s)) (signText negative ++ s)
  | float {negative : Bool} {s fraction exponent : Str} (hs : IsWhole s)
      (hfraction : IsFraction fraction) (hexponent : IsExponent exponent)
      (hne : fraction ≠ [] ∨ exponent ≠ []) :
      Spells (.float (signText negative ++ (s ++ (fraction ++ exponent))))
        (signText negative ++ (s ++ (fraction ++ exponent)))
  | str {v : PyStr} {s : Str} (h : SpellsString v s) : Spells (.str v) s
  | emptyArr {w : Str} (hw : IsBlank w) : Spells (.arr []) ('[' :: (w ++ [']']))
  | arr {items : List (Json PyStr)} {s : Str} (h : SpellsItems items s) :
      Spells (.arr items) ('[' :: (s ++ [']']))
  | emptyObj {w : Str} (hw : IsBlank w) : Spells (.obj []) ('\x7b' :: (w ++ ['\x7d']))
  | obj {members : List (PyStr × Json PyStr)} {s : Str} (h : SpellsMembers members s) :
      Spells (.obj members) ('\x7b' :: (s ++ ['\x7d']))

/-- The texts between the brackets of an array that is not empty. -/
inductive SpellsItems : List (Json PyStr) → Str → Prop where
  | last {v : Json PyStr} {w₁ s w₂ : Str} (h₁ : IsBlank w₁) (hv : Spells v s) (h₂ : IsBlank w₂) :
      SpellsItems [v] (w₁ ++ (s ++ w₂))
  | cons {v : Json PyStr} {l : List (Json PyStr)} {w₁ s w₂ t : Str} (h₁ : IsBlank w₁)
      (hv : Spells v s) (h₂ : IsBlank w₂) (hl : SpellsItems l t) :
      SpellsItems (v :: l) (w₁ ++ (s ++ (w₂ ++ ',' :: t)))

/-- The texts between the braces of an object that is not empty. -/
inductive SpellsMembers : List (PyStr × Json PyStr) → Str → Prop where
  | last {k : PyStr} {v : Json PyStr} {w₁ s w₂ w₃ t w₄ : Str} (h₁ : IsBlank w₁)
      (hk : SpellsString k s) (h₂ : IsBlank w₂) (h₃ : IsBlank w₃) (hv : Spells v t)
      (h₄ : IsBlank w₄) : SpellsMembers [(k, v)] (w₁ ++ (s ++ (w₂ ++ ':' :: (w₃ ++ (t ++ w₄)))))
  | cons {k : PyStr} {v : Json PyStr} {l : List (PyStr × Json PyStr)}
      {w₁ s w₂ w₃ t w₄ u : Str} (h₁ : IsBlank w₁) (hk : SpellsString k s) (h₂ : IsBlank w₂)
      (h₃ : IsBlank w₃) (hv : Spells v t) (h₄ : IsBlank w₄) (hl : SpellsMembers l u) :
      SpellsMembers ((k, v) :: l) (w₁ ++ (s ++ (w₂ ++ ':' :: (w₃ ++ (t ++ (w₄ ++ ',' :: u))))))

end

/-- The texts that are one value with whitespace around it. -/
def IsJsonText (v : Json PyStr) (text : Str) : Prop :=
  ∃ w₁ s w₂, IsBlank w₁ ∧ Spells v s ∧ IsBlank w₂ ∧ text = w₁ ++ (s ++ w₂)

end ProofFlow
