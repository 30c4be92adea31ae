import Mathlib.Data.List.Basic

/-!
# Separators and length prefixes

Two ways of putting a text in front of another one so that the first can be told from the second: a
separator that the first does not contain, and a numeral of its length.
-/

namespace Kit

variable {α : Type}

/-- A text ends at its first separator. -/
theorem append_cons_inj [DecidableEq α] {sep : α} {a b x y : List α} (ha : sep ∉ a) (hb : sep ∉ b) :
    a ++ sep :: x = b ++ sep :: y ↔ a = b ∧ x = y := by
  have hpass {l : List α} (hl : sep ∉ l) : ∀ c ∈ l, decide (c ≠ sep) = true := fun c hc =>
    decide_eq_true fun h => hl (h ▸ hc)
  constructor
  · intro h
    have hfirst := congrArg (List.takeWhile (decide <| · ≠ sep)) h
    have hrest := congrArg (List.dropWhile (decide <| · ≠ sep)) h
    rw [List.takeWhile_append_of_pos (hpass ha), List.takeWhile_append_of_pos (hpass hb)] at hfirst
    rw [List.dropWhile_append_of_pos (hpass ha), List.dropWhile_append_of_pos (hpass hb)] at hrest
    simp at hfirst hrest
    exact ⟨hfirst, hrest⟩
  · rintro ⟨rfl, rfl⟩
    rfl

/-- The first occurrence of a separator splits the text. -/
theorem idxOf?_eq_some_iff_append [DecidableEq α] {sep : α} {l : List α} {k : ℕ} :
    l.idxOf? sep = some k ↔ ∃ a x, l = a ++ sep :: x ∧ sep ∉ a ∧ a.length = k := by
  constructor
  · intro h
    obtain ⟨hk, hsep, hbefore⟩ := List.idxOf?_eq_some_iff.1 h
    refine ⟨l.take k, l.drop (k + 1), ?_, ?_, List.length_take_of_le (Nat.le_of_lt hk)⟩
    · rw [← hsep, ← List.drop_eq_getElem_cons hk, List.take_append_drop]
    · intro hmem
      obtain ⟨i, hi, hl⟩ := List.mem_take_iff_getElem.1 hmem
      exact hbefore i (by omega) hl
  · rintro ⟨a, x, rfl, ha, rfl⟩
    refine List.idxOf?_eq_some_iff.2 ⟨by simp, by simp, fun i hi h => ha ?_⟩
    rw [List.getElem_append_left hi] at h
    exact h ▸ List.getElem_mem hi

/-- The length of a text, a separator, and the text. -/
def lengthPrefixed (numeral : ℕ → List α) (sep : α) (a : List α) : List α :=
  numeral a.length ++ sep :: a

/-- A length-prefixed text is told apart from whatever follows it. -/
theorem lengthPrefixed_append_inj [DecidableEq α] {numeral : ℕ → List α} {sep : α}
    (hinj : Function.Injective numeral) (hsep : ∀ n, sep ∉ numeral n) {a b x y : List α} :
    lengthPrefixed numeral sep a ++ x = lengthPrefixed numeral sep b ++ y ↔ a = b ∧ x = y := by
  unfold lengthPrefixed
  rw [List.append_assoc, List.append_assoc, List.cons_append, List.cons_append,
    append_cons_inj (hsep _) (hsep _), hinj.eq_iff]
  constructor
  · rintro ⟨hlength, h⟩
    exact List.append_inj h hlength
  · rintro ⟨rfl, rfl⟩
    exact ⟨rfl, rfl⟩

end Kit
