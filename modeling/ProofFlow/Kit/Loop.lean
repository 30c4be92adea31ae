import Mathlib.Data.List.Basic

/-!
# Loops

A `while True` loop over a state: each pass raises, leaves the loop with a result, or goes on with a
smaller state.
-/

namespace Kit

variable {σ ρ ε : Type}

/-- Repeat `step` until it leaves the loop (`inl`) or raises. -/
def loop (step : σ → Except ε (ρ ⊕ σ)) (size : σ → ℕ)
    (hsize : ∀ s s', step s = .ok (.inr s') → size s' < size s) (s : σ) : Except ε ρ :=
  match _h : step s with
  | .error e => .error e
  | .ok (.inl result) => .ok result
  | .ok (.inr s') => loop step size hsize s'
termination_by size s
decreasing_by exact hsize s s' _h

variable {step : σ → Except ε (ρ ⊕ σ)} {size : σ → ℕ}
  {hsize : ∀ s s', step s = .ok (.inr s') → size s' < size s} {s s' : σ} {result : ρ} {e : ε}

theorem loop_of_error (h : step s = .error e) : loop step size hsize s = .error e := by
  rw [loop]
  split <;> simp_all

theorem loop_of_break (h : step s = .ok (.inl result)) : loop step size hsize s = .ok result := by
  rw [loop]
  split <;> simp_all

theorem loop_of_next (h : step s = .ok (.inr s')) :
    loop step size hsize s = loop step size hsize s' := by
  rw [loop]
  split <;> simp_all

/-- What holds of a pass that leaves the loop, and goes over from the next state to the one before,
holds of the whole loop. -/
theorem loop_eq_ok {Q : σ → ρ → Prop} (hbreak : ∀ s result, step s = .ok (.inl result) → Q s result)
    (hnext : ∀ s s' result, step s = .ok (.inr s') → Q s' result → Q s result)
    (h : loop step size hsize s = .ok result) : Q s result := by
  fun_induction loop step size hsize s with
  | case1 => cases h
  | case2 s r hstep =>
    obtain rfl := Except.ok.inj h
    exact hbreak s r hstep
  | case3 s s' hstep ih => exact hnext s s' result hstep (ih h)

/-- The same for a loop that raises. -/
theorem loop_eq_error {Q : σ → ε → Prop} (hraise : ∀ s e, step s = .error e → Q s e)
    (hnext : ∀ s s' e, step s = .ok (.inr s') → Q s' e → Q s e)
    (h : loop step size hsize s = .error e) : Q s e := by
  fun_induction loop step size hsize s with
  | case1 s e' hstep =>
    obtain rfl := Except.error.inj h
    exact hraise s e' hstep
  | case2 => cases h
  | case3 s s' hstep ih => exact hnext s s' e hstep (ih h)

end Kit
