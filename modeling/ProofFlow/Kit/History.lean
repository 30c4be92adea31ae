import Mathlib.Data.List.Chain

/-!
# Histories of a machine that may refuse

A machine takes inputs one after the other.  An input it refuses changes nothing; an accepted one
moves it to a new state and is recorded, with the state before, the state after and what the step
gave out.  `History` is what can be recorded between two states.
-/

namespace Kit

variable {σ ι ο ε : Type}

/-- An accepted step. -/
structure Entry (σ ι ο : Type) where
  before : σ
  input : ι
  after : σ
  output : ο

/-- One input: recorded if the machine accepts it. -/
def attempt (step : σ → ι → Except ε (σ × ο)) (r : σ × List (Entry σ ι ο)) (i : ι) :
    σ × List (Entry σ ι ο) :=
  match step r.1 i with
  | .ok (s, o) => (s, r.2 ++ [⟨r.1, i, s, o⟩])
  | .error _ => r

/-- A sequence of inputs from a state. -/
def run (step : σ → ι → Except ε (σ × ο)) (s₀ : σ) (inputs : List ι) : σ × List (Entry σ ι ο) :=
  inputs.foldl (attempt step) (s₀, [])

/-- What the machine records on the way from `s₀` to a state. -/
inductive History (step : σ → ι → Except ε (σ × ο)) (s₀ : σ) : List (Entry σ ι ο) → σ → Prop
  | start : History step s₀ [] s₀
  | accept {l : List (Entry σ ι ο)} {s : σ} (i : ι) (s' : σ) (o : ο) (h : History step s₀ l s)
      (hs : step s i = .ok (s', o)) : History step s₀ (l ++ [⟨s, i, s', o⟩]) s'

variable {step : σ → ι → Except ε (σ × ο)} {s₀ s : σ} {l : List (Entry σ ι ο)}

theorem history_foldl (inputs : List ι) (h : History step s₀ l s) :
    History step s₀ (inputs.foldl (attempt step) (s, l)).2
      (inputs.foldl (attempt step) (s, l)).1 := by
  induction inputs generalizing s l with
  | nil => exact h
  | cons i inputs ih =>
    rw [List.foldl_cons]
    cases hstep : step s i with
    | error e =>
      have hattempt : attempt step (s, l) i = (s, l) := by simp only [attempt, hstep]
      rw [hattempt]
      exact ih h
    | ok r =>
      have hattempt : attempt step (s, l) i = (r.1, l ++ [⟨s, i, r.1, r.2⟩]) := by
        simp only [attempt, hstep]
      rw [hattempt]
      exact ih (.accept i r.1 r.2 h hstep)

/-- Every run leaves a history. -/
theorem history_run (step : σ → ι → Except ε (σ × ο)) (s₀ : σ) (inputs : List ι) :
    History step s₀ (run step s₀ inputs).2 (run step s₀ inputs).1 :=
  history_foldl inputs .start

/-- A machine that has left its first state did so by a last accepted step. -/
theorem History.last (h : History step s₀ l s) (hne : s ≠ s₀) :
    ∃ earlier e, l = earlier ++ [e] ∧ History step s₀ earlier e.before ∧ e.after = s ∧
      step e.before e.input = .ok (s, e.output) := by
  cases h with
  | start => exact absurd rfl hne
  | accept i s' o h hs => exact ⟨_, _, rfl, h, rfl, hs⟩

/-- Every recorded step was accepted. -/
theorem History.accepted (h : History step s₀ l s) :
    ∀ e ∈ l, step e.before e.input = .ok (e.after, e.output) := by
  induction h with
  | start => simp
  | accept i s' o _ hs ih =>
    intro e he
    rcases List.mem_append.1 he with he | he
    · exact ih e he
    · obtain rfl := List.mem_singleton.1 he
      exact hs

/-- What no step changes has its first value. -/
theorem History.preserved {β : Type} (f : σ → β) (h : History step s₀ l s)
    (hstep : ∀ s i s' o, step s i = .ok (s', o) → f s' = f s) : f s = f s₀ := by
  induction h with
  | start => rfl
  | accept i s' o _ hs ih => exact (hstep _ i s' o hs).trans ih

/-- What every step raises by one counts the accepted steps. -/
theorem History.counts (f : σ → ℕ) (h : History step s₀ l s)
    (hstep : ∀ s i s' o, step s i = .ok (s', o) → f s' = f s + 1) : f s = f s₀ + l.length := by
  induction h with
  | start => rfl
  | accept i s' o _ hs ih =>
    rw [hstep _ i s' o hs, ih, List.length_append, List.length_singleton]
    rfl

/-- The state after the last recorded step is the state reached. -/
theorem History.after_last (h : History step s₀ l s) : ∀ e ∈ l.getLast?, e.after = s := by
  cases h with
  | start => simp
  | accept i s' o _ hs => simp

/-- A recorded step starts where the one before it ended. -/
theorem History.linked (h : History step s₀ l s) :
    l.IsChain fun a b => a.after = b.before := by
  induction h with
  | start => exact .nil
  | accept i s' o h _ ih =>
    refine List.isChain_append.2 ⟨ih, List.isChain_singleton _, ?_⟩
    intro a ha b hb
    obtain rfl : _ = b := by simpa using hb
    exact h.after_last a ha

end Kit
