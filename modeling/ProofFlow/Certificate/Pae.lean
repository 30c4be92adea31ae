import ProofFlow.Certificate.Contract
import ProofFlow.Kit.Framing
import ProofFlow.Python.Utf8

/-!
# Pre-authentication encoding

A signature covers the payload type and the payload, each behind its length: the encoding of a pair
is the encoding of no other pair.
-/

namespace ProofFlow

open Kit

/-- The bytes of a decimal numeral. -/
def numeralBytes (n : ℕ) : Bytes := encodeUtf8 (decimalText n)

theorem numeralBytes_injective : Function.Injective numeralBytes := by
  intro m n h
  have hvalue := congrArg digitsValue (encodeUtf8_injective h)
  rwa [digitsValue_decimalText, digitsValue_decimalText] at hvalue

/-- A numeral has no space. -/
theorem space_not_mem_numeralBytes (n : ℕ) : 32 ∉ numeralBytes n := by
  intro h
  obtain ⟨c, hc, hspace⟩ := List.mem_flatMap.1 h
  have hdigit := isDigit_of_mem_decimalText hc
  simp only [isDigit, Bool.and_eq_true, decide_eq_true_eq] at hdigit
  rw [encodeChar_of_lt (by omega), List.mem_singleton] at hspace
  have hvalue := congrArg UInt8.toNat hspace
  rw [UInt8.toNat_ofNat_of_lt' (Nat.lt_of_le_of_lt hdigit.2 (by decide))] at hvalue
  exact absurd (hvalue ▸ hdigit.1) (by decide)

theorem dssePae_eq (payloadType : Str) (payload : Bytes) : dssePae payloadType payload =
    encodeUtf8 (lit "DSSEv1 ") ++ (lengthPrefixed numeralBytes 32 (encodeUtf8 payloadType) ++
      32 :: (lengthPrefixed numeralBytes 32 payload ++ [])) := by
  have hspace : encodeUtf8 (lit " ") = [32] := by decide
  simp [dssePae, lengthPrefixed, numeralBytes, hspace]

/-- The encoding determines the payload type and the payload. -/
theorem dssePae_inj {t₁ t₂ : Str} {p₁ p₂ : Bytes} :
    dssePae t₁ p₁ = dssePae t₂ p₂ ↔ t₁ = t₂ ∧ p₁ = p₂ := by
  have hprefixed {a b x y : Bytes} : lengthPrefixed numeralBytes 32 a ++ x =
      lengthPrefixed numeralBytes 32 b ++ y ↔ a = b ∧ x = y :=
    lengthPrefixed_append_inj numeralBytes_injective space_not_mem_numeralBytes
  rw [dssePae_eq, dssePae_eq, List.append_cancel_left_eq, hprefixed, List.cons.injEq, hprefixed,
    encodeUtf8_injective.eq_iff]
  simp

end ProofFlow
