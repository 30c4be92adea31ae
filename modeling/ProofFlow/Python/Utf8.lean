import ProofFlow.RoundTrip

/-!
# UTF-8 and ASCII

The encoding is injective, and a byte below 0x80 is the encoding of an ASCII character on its own:
no such byte occurs inside the encoding of another character.
-/

namespace ProofFlow

theorem encodeUtf8_injective : Function.Injective encodeUtf8 := by
  intro s t h
  have hdecode (u : Str) : decodeUtf8 .start [] (encodeUtf8 u) = some (toPyStr u) :=
    decodeUtf8_encodeUtf8 u
  exact toPyStr_injective (Option.some.inj ((hdecode s).symm.trans (h ▸ hdecode t)))

theorem encodeUtf8_cons (c : Char) (s : Str) :
    encodeUtf8 (c :: s) = String.utf8EncodeChar c ++ encodeUtf8 s := rfl

theorem encodeChar_of_lt {c : Char} (h : c.toNat < 0x80) :
    String.utf8EncodeChar c = [UInt8.ofNat c.toNat] := by
  have hv : c.val.toNat = c.toNat := rfl
  unfold String.utf8EncodeChar
  rw [if_pos (by omega), hv]

/-- The encoding of a character beyond ASCII has no ASCII byte. -/
theorem le_of_mem_encodeChar {c : Char} {b : UInt8} (h : 0x80 ≤ c.toNat)
    (hb : b ∈ String.utf8EncodeChar c) : 0x80 ≤ b.toNat := by
  have hv : c.val.toNat = c.toNat := rfl
  unfold String.utf8EncodeChar at hb
  rw [if_neg (by omega)] at hb
  simp only [hv] at hb
  split_ifs at hb
  all_goals
    simp only [List.mem_cons, List.not_mem_nil, or_false] at hb
    rcases hb with rfl | rfl | rfl | rfl <;> simp only [UInt8.toNat_ofNat'] <;> omega

end ProofFlow
