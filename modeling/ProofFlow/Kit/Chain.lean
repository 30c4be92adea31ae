import Mathlib.Data.Nat.Basic
import Mathlib.Logic.Function.Basic

/-!
# Hash chains

Numbered entries, each with its own digest and the digest of the entry before it, and a pointer to
the last one.  A chain grows at its end only (`Chain.extend`), and what may be added there is
determined by the pointer (`Chain.eq_of_links`).
-/

namespace Kit

variable {δ : Type}

/-- The entries are numbered `1` to `n`; the first has no predecessor and each other one carries
its predecessor's digest; the pointer is at the last entry. -/
structure Chain (entry : ℕ → Option (δ × Option δ)) (latest : Option (ℕ × δ)) (n : ℕ) : Prop where
  present : ∀ i, (entry i).isSome ↔ 1 ≤ i ∧ i ≤ n
  first : ∀ e, entry 1 = some e → e.2 = none
  linked : ∀ i e e', entry i = some e → entry (i + 1) = some e' → e'.2 = some e.1
  latest_none : n = 0 → latest = none
  latest_some : ∀ e, entry n = some e → latest = some (n, e.1)

/-- What an entry with this number and this predecessor has to agree with. -/
def Links (latest : Option (ℕ × δ)) (number : ℕ) (previous : Option δ) : Prop :=
  if number = 1 then previous = none
  else ∃ l, latest = some l ∧ l.1 + 1 = number ∧ previous = some l.2

namespace Chain

variable {entry : ℕ → Option (δ × Option δ)} {latest : Option (ℕ × δ)} {n : ℕ}

theorem empty : Chain (fun _ => none : ℕ → Option (δ × Option δ)) none 0 where
  present i := by
    simp only [Option.isSome_none, Bool.false_eq_true, false_iff]
    omega
  first := by simp
  linked := by simp
  latest_none _ := rfl
  latest_some := by simp

theorem entry_of_le (h : Chain entry latest n) {i : ℕ} (h₁ : 1 ≤ i) (h₂ : i ≤ n) :
    ∃ e, entry i = some e :=
  Option.isSome_iff_exists.1 ((h.present i).2 ⟨h₁, h₂⟩)

theorem entry_eq_none (h : Chain entry latest n) {i : ℕ} (hi : n < i) : entry i = none := by
  rw [← Option.not_isSome_iff_eq_none, h.present]
  omega

/-- A free number that links to the pointer is the next one, and its predecessor is the last
entry. -/
theorem eq_of_links (h : Chain entry latest n) {number : ℕ} {previous : Option δ}
    (hlinks : Links latest number previous) (hfree : entry number = none) :
    number = n + 1 ∧ previous = latest.map Prod.snd := by
  unfold Links at hlinks
  split_ifs at hlinks with h₁
  · subst h₁
    have hn : n = 0 := by
      by_contra hn
      obtain ⟨e, he⟩ := h.entry_of_le (le_refl 1) (by omega)
      rw [hfree] at he
      cases he
    rw [h.latest_none hn, hn]
    exact ⟨rfl, hlinks⟩
  · obtain ⟨l, hl, hnum, hprev⟩ := hlinks
    have hn : n ≠ 0 := fun hn => by
      rw [h.latest_none hn] at hl
      cases hl
    obtain ⟨e, he⟩ := h.entry_of_le (Nat.pos_of_ne_zero hn) (le_refl n)
    have hlatest := h.latest_some e he
    rw [hl] at hlatest
    obtain rfl := Option.some.inj hlatest
    exact ⟨hnum.symm, by rw [hl, hprev]; rfl⟩

/-- Adding the next entry keeps the chain. -/
theorem extend (h : Chain entry latest n) (digest : δ) :
    Chain (Function.update entry (n + 1) (some (digest, latest.map Prod.snd)))
      (some (n + 1, digest)) (n + 1) where
  present i := by
    by_cases hi : i = n + 1
    · subst hi
      simp
    · rw [Function.update_of_ne hi, h.present]
      omega
  first e he := by
    by_cases hn : n = 0
    · subst hn
      rw [Function.update_self] at he
      obtain rfl := Option.some.inj he
      simp [h.latest_none rfl]
    · rw [Function.update_of_ne (by omega)] at he
      exact h.first e he
  linked i e e' he he' := by
    by_cases hi : i = n
    · subst hi
      rw [Function.update_of_ne (by omega)] at he
      rw [Function.update_self] at he'
      obtain rfl := Option.some.inj he'
      simp [h.latest_some e he]
    · rw [Function.update_of_ne (by omega)] at he'
      by_cases hi' : i = n + 1
      · rw [h.entry_eq_none (by omega)] at he'
        cases he'
      · rw [Function.update_of_ne hi'] at he
        exact h.linked i e e' he he'
  latest_none hn := absurd hn (Nat.succ_ne_zero n)
  latest_some e he := by
    rw [Function.update_self] at he
    obtain rfl := Option.some.inj he
    rfl

end Chain

end Kit
