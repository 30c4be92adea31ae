import ProofFlow.Platform

/-!
# Canonical JSON

`canonical_json` of the JSON-compatible structures the verifiers hash: sorted keys, no
whitespace, non-ASCII characters kept, UTF-8.
-/

namespace ProofFlow

/-- A JSON-compatible structure as `canonicalize` leaves it: there are no floats. -/
inductive Canon where
  | null
  | bool (b : Bool)
  | int (n : ℤ)
  | str (s : Str)
  | arr (items : List Canon)
  | obj (members : List (Str × Canon))

/-- One character of a string of `json.dumps(..., ensure_ascii=False)`. -/
def escapeChar (c : Char) : Str :=
  match c.toNat with
  | 34 => ['\\', '"']
  | 92 => ['\\', '\\']
  | 10 => ['\\', 'n']
  | 13 => ['\\', 'r']
  | 9 => ['\\', 't']
  | 12 => ['\\', 'f']
  | 8 => ['\\', 'b']
  | n => if n < 32 then ['\\', 'u', '0', '0', hexDigit (n / 16), hexDigit (n % 16)] else [c]

def dumpString (s : Str) : Str := '"' :: s.flatMap escapeChar ++ ['"']

def dumpInt (n : ℤ) : Str :=
  if n < 0 then '-' :: decimalText n.natAbs else decimalText n.natAbs

/-- Texts joined by a comma and a gap. -/
def joinWith (gap : Str) : List Str → Str
  | [] => []
  | [s] => s
  | s :: l => s ++ ',' :: (gap ++ joinWith gap l)

/-- The members of an object by key. -/
def sortMembers {α : Type} (l : List (Str × α)) : List (Str × α) :=
  l.insertionSort fun a b => a.1 ≤ b.1

/-- Where `json.dumps` puts whitespace: before the parts of a container at a level and before its
end, and after a colon. -/
structure Layout where
  gap : ℕ → Str
  colon : Str

/-- `separators=(",", ":")`. -/
def Layout.compact : Layout := ⟨fun _ => [], []⟩

/-- A container from its rendered parts. -/
def Layout.enclose (layout : Layout) (level : ℕ) (opening closing : Char) (parts : List Str) :
    Str :=
  if parts = [] then [opening, closing]
  else opening :: (layout.gap (level + 1) ++ joinWith (layout.gap (level + 1)) parts ++
    layout.gap level ++ [closing])

mutual

/-- `json.dumps(value, ensure_ascii=False, sort_keys=True, ...)` at a nesting level. -/
def Canon.render (layout : Layout) (level : ℕ) : Canon → Str
  | .null => lit "null"
  | .bool true => lit "true"
  | .bool false => lit "false"
  | .int n => dumpInt n
  | .str s => dumpString s
  | .arr items => layout.enclose level '[' ']' (renderItems layout (level + 1) items)
  | .obj members =>
    layout.enclose level '{' '}' ((sortMembers (renderMembers layout (level + 1) members)).map
      fun m => dumpString m.1 ++ ':' :: (layout.colon ++ m.2))

def renderItems (layout : Layout) (level : ℕ) : List Canon → List Str
  | [] => []
  | v :: l => v.render layout level :: renderItems layout level l

def renderMembers (layout : Layout) (level : ℕ) : List (Str × Canon) → List (Str × Str)
  | [] => []
  | (k, v) :: l => (k, v.render layout level) :: renderMembers layout level l

end

/-- `json.dumps(value, ensure_ascii=False, sort_keys=True, separators=(",", ":"))`. -/
def Canon.dumps (value : Canon) : Str := value.render .compact 0

/-- `canonical_json`. -/
def canonicalJson (value : Canon) : Bytes := encodeUtf8 value.dumps

/-- A member of an object. -/
def member (key : String) (value : Canon) : Str × Canon := (lit key, value)

/-- A nullable string. -/
def Canon.optional : Option Str → Canon
  | none => .null
  | some s => .str s

end ProofFlow
