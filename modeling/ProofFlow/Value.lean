import ProofFlow.Canonical
import ProofFlow.Python.Date
import ProofFlow.Python.Decimal

/-!
# Canonicalization

`canonicalize` turns a Python value into a JSON-compatible structure, `canonical_json` prints that
structure, and `sha256_digest` hashes the text.  A `Value` is what `model_dump(mode="python")` or
`json.load` gives: the values `canonicalize` is called on.
-/

namespace ProofFlow

/-- The exceptions that can leave the case workflow. -/
inductive Fault where
  /-- `ValueError` and its subclasses without a message of the program's own. -/
  | valueError
  | typeError
  | overflowError
  | indexError
  | keyError
  | recursionError
  /-- `decimal.InvalidOperation`. -/
  | invalidOperation
  /-- `decimal.Overflow`. -/
  | decimalOverflow
  /-- pydantic's `ValidationError`, a subclass of `ValueError`. -/
  | validationError
  /-- A failing file-system operation. -/
  | osError
  | transitionRejected (message : Str)
  | referenceRunError (message : Str)
  | trustedArtifactStoreCapacityError
  | trustedArtifactStoreRegistrationError (message : String)
  deriving DecidableEq

/-- A Python value as far as the program canonicalizes it. -/
inductive Value where
  | null
  | bool (b : Bool)
  | int (n : ℤ)
  | float
  | str (s : Str)
  /-- A `str` with a surrogate, which has no UTF-8 form. -/
  | unencodable
  | decimal (d : Decimal)
  | datetime (t : DateTime)
  | date (d : Date)
  | bytes (b : Bytes)
  | arr (items : List Value)
  | obj (members : List (Str × Value))

/-- `value.hex()`. -/
def hexText (b : Bytes) : Str :=
    b.flatMap fun x => [hexDigit (x.toNat / 16), hexDigit (x.toNat % 16)]

/-- `_datetime_text`. -/
def datetimeValue (t : DateTime) : Except Fault Canon :=
  match t.utcoffset with
  | none => .error .valueError
  | some _ =>
    match t.astimezoneUtc with
    | .ok u => .ok (.str (datetimeText u))
    | .error _ => .error .overflowError

/-- The members of an object in the order of their keys, or the first exception among them. -/
def sequenceMembers : List (Str × Except Fault Canon) → Except Fault (List (Str × Canon))
  | [] => .ok []
  | (k, v) :: l => do
    let v ← v
    let l ← sequenceMembers l
    pure ((k, v) :: l)

mutual

/-- `canonicalize(value, exclude_keys=exclude)`.  A surrogate passes `canonicalize` and fails when
the text is encoded. -/
def canonicalize (exclude : List Str) : Value → Except Fault Canon
  | .null => .ok .null
  | .bool b => .ok (.bool b)
  | .int n => .ok (.int n)
  | .float => .error .typeError
  | .str s => .ok (.str s)
  | .unencodable => .error .valueError
  | .decimal d =>
    match d.text with
    | some s => .ok (.str s)
    | none => .error .valueError
  | .datetime t => datetimeValue t
  | .date d => .ok (.str d.isoformat)
  | .bytes b => .ok (.str (hexText b))
  | .arr items => do
    let items ← canonicalizeItems exclude items
    pure (.arr items)
  | .obj members => do
    let members ← sequenceMembers (sortMembers (canonicalizeMembers exclude members))
    pure (.obj members)

def canonicalizeItems (exclude : List Str) : List Value → Except Fault (List Canon)
  | [] => .ok []
  | v :: l => do
    let v ← canonicalize exclude v
    let l ← canonicalizeItems exclude l
    pure (v :: l)

def canonicalizeMembers (exclude : List Str) : List (Str × Value) → List (Str × Except Fault Canon)
  | [] => []
  | (k, v) :: l =>
    if k ∈ exclude then canonicalizeMembers exclude l
    else (k, canonicalize exclude v) :: canonicalizeMembers exclude l

end

/-- `sha256_digest` of a canonical structure. -/
def digestOf (P : Platform) (value : Canon) : Sha256Text := sha256Bytes P (canonicalJson value)

/-- `sha256_digest(value, exclude_keys=exclude)`. -/
def sha256Digest (P : Platform) (value : Value) (exclude : List Str) : Except Fault Sha256Text := do
  let canonical ← canonicalize exclude value
  pure (digestOf P canonical)

/-- A member of a dumped model. -/
def keyed (key : String) (value : Value) : Str × Value := (lit key, value)

end ProofFlow
