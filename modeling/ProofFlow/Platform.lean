import ProofFlow.Python.Base64
import ProofFlow.Python.Json
import ProofFlow.Python.Time

/-!
# The platform

What the program uses and does not define: the two cryptographic primitives, and the parts of
pydantic that turn JSON text and date-time text into values.  Every result holds for all of them;
where a result needs a property of one (that SHA-256 does not collide, that a signature fits one
key only), the property is a hypothesis of the theorem.
-/

namespace ProofFlow

/-- The code outside the repository. -/
structure Platform where
  /-- `hashlib.sha256(b).digest()`. -/
  sha256 : Bytes → BitVec 256
  /-- `Ed25519PublicKey.from_public_bytes(key).verify(signature, message)` raises nothing. -/
  ed25519Verify : (key signature message : Bytes) → Bool
  /-- The JSON value that `model_validate_json` validates, or `none` if it refuses the text. -/
  jiter : Bytes → Option (Json Str)
  /-- The date-time a strict `datetime` field reads from a JSON string. -/
  parseDatetime : Str → Option DateTime
  /-- The text of a date-time in `model_dump(mode="json")`. -/
  datetimeText : DateTime → Str
  /-- The nesting depth at which `json.loads` raises `RecursionError`. -/
  recursionLimit : ℕ

/-! ## SHA-256 texts -/

/-- A string that matches `SHA256_PATTERN`. -/
abbrev Sha256Text := { s : Str // isSha256 s = true }

/-- The lower-case hexadecimal digit of a nibble. -/
def hexDigit (n : ℕ) : Char := if n < 10 then Char.ofNat (n + 48) else Char.ofNat (n + 87)

/-- `digest.hexdigest()`. -/
def hexdigest (d : BitVec 256) : Str :=
  (List.range 64).map fun i => hexDigit (d.toNat / 16 ^ (63 - i) % 16)

theorem isLowerHex_hexDigit {n : ℕ} (h : n < 16) : isLowerHex (hexDigit n) = true := by
  have checked : ∀ k : Fin 16, isLowerHex (hexDigit k) = true := by decide
  exact checked ⟨n, h⟩

theorem isHexOfLength_hexdigest (d : BitVec 256) : isHexOfLength 64 (hexdigest d) = true := by
  simp only [isHexOfLength, hexdigest, List.length_map, List.length_range, decide_true,
    Bool.true_and, List.all_map, List.all_eq_true, Function.comp_apply]
  intro i _
  exact isLowerHex_hexDigit (Nat.mod_lt _ (by decide))

theorem isSha256_append {s : Str} (h : isHexOfLength 64 s = true) :
    isSha256 (lit "sha256:" ++ s) = true := by
  have hlen : (lit "sha256:").length = 7 := by decide
  simp only [isSha256, Bool.and_eq_true]
  refine ⟨?_, ?_⟩
  · rw [List.isPrefixOf_iff_prefix]
    exact List.prefix_append _ _
  · rw [List.drop_append_of_le_length (by omega), List.drop_of_length_le (by omega)]
    simpa using h

/-- `sha256_bytes`. -/
def sha256Bytes (P : Platform) (payload : Bytes) : Sha256Text :=
  ⟨lit "sha256:" ++ hexdigest (P.sha256 payload), isSha256_append (isHexOfLength_hexdigest _)⟩

/-- No two of the given byte strings have the same SHA-256 text. -/
def CollisionFree (P : Platform) (seen : Bytes → Prop) : Prop :=
  ∀ b b', seen b → seen b' → sha256Bytes P b = sha256Bytes P b' → b = b'

end ProofFlow
