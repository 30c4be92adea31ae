import Mathlib.Logic.Basic

/-!
# Computations with early return

A body written in an imperative style leaves its function in one of two ways before reaching its
end: it returns a value, or an exception propagates out of it.  `Flow ε ρ α` is such a body: it
either goes on with an `α`, or it has left with an outcome of the whole call (`Except ε ρ`).  This
file has the statements such bodies are made of (`returnIf`, `raising`, `tryElse`, …), their
inversion lemmas, what it takes for an exception to leave a body (`Raises`), and the rule that
bounds every early exit (`Exits`).
-/

namespace Kit

/-- What a call ends with: an exception or a returned value. -/
abbrev Outcome (ε ρ : Type) := Except ε ρ

/-- A body that goes on with an `α` or has left its function with an outcome. -/
abbrev Flow (ε ρ α : Type) := Except (Outcome ε ρ) α

/-- Inversion of a successful sequence. -/
theorem bind_eq_ok {ε α β : Type} {m : Except ε α} {f : α → Except ε β} {b : β} :
    (m >>= f) = .ok b ↔ ∃ a, m = .ok a ∧ f a = .ok b := by
  cases m with
  | ok a => simp [bind, Except.bind]
  | error e => simp [bind, Except.bind]

/-- A sequence fails in its first part, or goes on and fails in the rest. -/
theorem bind_eq_error {ε α β : Type} {m : Except ε α} {f : α → Except ε β} {e : ε} :
    (m >>= f) = .error e ↔ m = .error e ∨ ∃ a, m = .ok a ∧ f a = .error e := by
  cases m with
  | ok a => simp [bind, Except.bind]
  | error e => simp [bind, Except.bind]

/-- `any` over a list of checks finds nothing exactly when every check fails. -/
theorem anyM_eq_false {ε α : Type} {p : α → Except ε Bool} {l : List α} :
    l.anyM p = .ok false ↔ ∀ a ∈ l, p a = .ok false := by
  induction l with
  | nil => simp [pure, Except.pure]
  | cons a l ih =>
    rw [List.anyM, bind_eq_ok, List.forall_mem_cons, ← ih]
    constructor
    · rintro ⟨b, hb, h⟩
      cases b with
      | false => exact ⟨hb, h⟩
      | true => cases h
    · exact fun ⟨hb, h⟩ => ⟨false, hb, h⟩

/-- `any` raises at the first check that raises, if nothing was found before it. -/
theorem anyM_eq_error {ε α : Type} {p : α → Except ε Bool} {l : List α} {e : ε} :
    l.anyM p = .error e ↔ ∃ before a after, l = before ++ a :: after ∧
      (∀ b ∈ before, p b = .ok false) ∧ p a = .error e := by
  induction l with
  | nil => simp [pure, Except.pure]
  | cons a l ih =>
    rw [List.anyM, bind_eq_error]
    constructor
    · rintro (h | ⟨b, hb, h⟩)
      · exact ⟨[], a, l, rfl, by simp, h⟩
      · cases b with
        | true => cases h
        | false =>
          obtain ⟨before, c, after, rfl, hbefore, hc⟩ := ih.1 h
          exact ⟨a :: before, c, after, rfl, List.forall_mem_cons.2 ⟨hb, hbefore⟩, hc⟩
    · rintro ⟨before, c, after, heq, hbefore, hc⟩
      cases before with
      | nil =>
        obtain ⟨rfl, rfl⟩ := List.cons.inj heq
        exact .inl hc
      | cons b before =>
        obtain ⟨rfl, rfl⟩ := List.cons.inj heq
        obtain ⟨hb, hbefore⟩ := List.forall_mem_cons.1 hbefore
        exact .inr ⟨false, hb, ih.2 ⟨before, c, after, rfl, hbefore, hc⟩⟩

theorem ok_bind {ε α β : Type} (a : α) (f : α → Except ε β) : (Except.ok a >>= f) = f a := rfl

namespace Flow

variable {ε ρ α β : Type}

/-- `if c: return out`. -/
def returnIf (c : Prop) [Decidable c] (out : Outcome ε ρ) : Flow ε ρ Unit :=
  if c then .error out else .ok ()

/-- A call whose exceptions propagate. -/
def raising : Except ε α → Flow ε ρ α
  | .ok a => .ok a
  | .error e => .error (.error e)

/-- `try: x except caught: return out`; other exceptions propagate. -/
def tryElse (caught : ε → Bool) (x : Except ε α) (out : Outcome ε ρ) : Flow ε ρ α :=
  match x with
  | .ok a => .ok a
  | .error e => if caught e then .error out else .error (.error e)

/-- `if x is None: return out`. -/
def orReturn (x : Option α) (out : Outcome ε ρ) : Flow ε ρ α :=
  match x with
  | some a => .ok a
  | none => .error out

/-- `if x is not None: return out(x)`. -/
def returnSome (x : Option α) (out : α → Outcome ε ρ) : Flow ε ρ Unit :=
  match x with
  | some a => .error (out a)
  | none => .ok ()

/-- Run a body to the end of its function. -/
def finish : Flow ε ρ (Outcome ε ρ) → Outcome ε ρ
  | .ok out => out
  | .error out => out

@[simp] theorem returnIf_eq_ok {c : Prop} [Decidable c] {out : Outcome ε ρ} {u : Unit} :
    returnIf c out = .ok u ↔ ¬ c := by
  unfold returnIf
  split <;> simp_all

@[simp] theorem returnIf_eq_error {c : Prop} [Decidable c] {out out' : Outcome ε ρ} :
    returnIf c out = .error out' ↔ c ∧ out = out' := by
  unfold returnIf
  split <;> simp_all

@[simp] theorem raising_eq_ok {x : Except ε α} {a : α} :
    (raising x : Flow ε ρ α) = .ok a ↔ x = .ok a := by
  cases x <;> simp [raising]

@[simp] theorem raising_eq_error {x : Except ε α} {out : Outcome ε ρ} :
    (raising x : Flow ε ρ α) = .error out ↔ ∃ e, x = .error e ∧ out = .error e := by
  cases x <;> simp [raising, eq_comm]

@[simp] theorem tryElse_eq_ok {caught : ε → Bool} {x : Except ε α} {out : Outcome ε ρ} {a : α} :
    tryElse caught x out = .ok a ↔ x = .ok a := by
  cases x with
  | ok a => simp [tryElse]
  | error e => by_cases h : caught e <;> simp [tryElse, h]

theorem tryElse_eq_error {caught : ε → Bool} {x : Except ε α} {out out' : Outcome ε ρ} :
    tryElse caught x out = .error out' ↔
      ∃ e, x = .error e ∧ out' = if caught e then out else .error e := by
  cases x with
  | ok a => simp [tryElse]
  | error e =>
    by_cases h : caught e
    · simpa [tryElse, h] using eq_comm
    · simpa [tryElse, h] using eq_comm

@[simp] theorem orReturn_eq_ok {x : Option α} {out : Outcome ε ρ} {a : α} :
    orReturn x out = .ok a ↔ x = some a := by
  cases x <;> simp [orReturn]

@[simp] theorem orReturn_eq_error {x : Option α} {out out' : Outcome ε ρ} :
    orReturn x out = .error out' ↔ x = none ∧ out = out' := by
  cases x <;> simp [orReturn]

@[simp] theorem returnSome_eq_ok {x : Option α} {out : α → Outcome ε ρ} {u : Unit} :
    returnSome x out = .ok u ↔ x = none := by
  cases x <;> simp [returnSome]

@[simp] theorem returnSome_eq_error {x : Option α} {out : α → Outcome ε ρ} {out' : Outcome ε ρ} :
    returnSome x out = .error out' ↔ ∃ a, x = some a ∧ out a = out' := by
  cases x <;> simp [returnSome]

theorem finish_eq_ok {m : Flow ε ρ (Outcome ε ρ)} {r : ρ} :
    finish m = .ok r ↔ m = .error (.ok r) ∨ m = .ok (.ok r) := by
  cases m <;> simp [finish]

/-! ## Exceptions -/

/-- An exception propagates out of the body. -/
def Raises (m : Flow ε ρ α) (e : ε) : Prop := m = .error (.error e)

variable {e : ε}

theorem raises_bind {m : Flow ε ρ α} {f : α → Flow ε ρ β} :
    Raises (m >>= f) e ↔ Raises m e ∨ ∃ a, m = .ok a ∧ Raises (f a) e :=
  bind_eq_error

@[simp] theorem not_raises_ok (a : α) : ¬ Raises (.ok a : Flow ε ρ α) e := nofun

@[simp] theorem not_raises_pure (a : α) : ¬ Raises (pure a : Flow ε ρ α) e := nofun

@[simp] theorem raises_error {out : Outcome ε ρ} :
    Raises (.error out : Flow ε ρ α) e ↔ out = .error e := by
  simp [Raises]

@[simp] theorem raises_returnIf {c : Prop} [Decidable c] {out : Outcome ε ρ} :
    Raises (returnIf c out) e ↔ c ∧ out = .error e :=
  returnIf_eq_error

@[simp] theorem raises_returnSome {x : Option α} {out : α → Outcome ε ρ} :
    Raises (returnSome x out) e ↔ ∃ a, x = some a ∧ out a = .error e :=
  returnSome_eq_error

@[simp] theorem raises_orReturn {x : Option α} {out : Outcome ε ρ} :
    Raises (orReturn x out) e ↔ x = none ∧ out = .error e :=
  orReturn_eq_error

@[simp] theorem raises_raising {x : Except ε α} :
    Raises (raising x : Flow ε ρ α) e ↔ x = .error e := by
  cases x <;> simp [Raises, raising]

/-- A handler that returns lets through what it does not catch. -/
@[simp] theorem raises_tryElse {caught : ε → Bool} {x : Except ε α} {r : ρ} :
    Raises (tryElse caught x (.ok r)) e ↔ x = .error e ∧ caught e = false := by
  cases x with
  | ok a => simp [Raises, tryElse]
  | error e' =>
    by_cases h : caught e'
    · simp only [Raises, tryElse, h, if_true, Except.error.injEq, reduceCtorEq, false_iff, not_and]
      rintro rfl
      simp [h]
    · simp only [Raises, tryElse, h, Except.error.injEq, Bool.false_eq_true, if_false,
        iff_self_and]
      rintro rfl
      simpa using h

theorem finish_eq_error {m : Flow ε ρ (Outcome ε ρ)} :
    finish m = .error e ↔ Raises m e ∨ m = .ok (.error e) := by
  cases m <;> simp [finish, Raises]

/-! ## Early exits -/

/-- Every early exit of the body satisfies `Q`. -/
def Exits (Q : Outcome ε ρ → Prop) (m : Flow ε ρ α) : Prop := ∀ out, m = .error out → Q out

variable {Q : Outcome ε ρ → Prop}

theorem Exits.bind {m : Flow ε ρ α} {f : α → Flow ε ρ β} (hm : Exits Q m)
    (hf : ∀ a, m = .ok a → Exits Q (f a)) : Exits Q (m >>= f) := by
  intro out h
  rcases bind_eq_error.1 h with h | ⟨a, ha, h⟩
  · exact hm out h
  · exact hf a ha out h

/-- A body that ends with an outcome which is none of its early exits reached its end. -/
theorem eq_ok_of_finish {m : Flow ε ρ (Outcome ε ρ)} {out : Outcome ε ρ} (h : finish m = out)
    (hexits : Exits (· ≠ out) m) : m = .ok out := by
  cases m with
  | ok out' => exact congrArg Except.ok h
  | error out' => exact absurd h (hexits out' rfl)

theorem exits_ok (a : α) : Exits Q (.ok a : Flow ε ρ α) := by
  intro out h
  cases h

theorem exits_error {out : Outcome ε ρ} (h : Q out) : Exits Q (.error out : Flow ε ρ α) := by
  rintro _ ⟨⟩
  exact h

theorem exits_returnIf {c : Prop} [Decidable c] {out : Outcome ε ρ} (h : c → Q out) :
    Exits Q (returnIf c out) := by
  intro out' hout
  obtain ⟨hc, rfl⟩ := returnIf_eq_error.1 hout
  exact h hc

theorem exits_raising {x : Except ε α} (h : ∀ e, x = .error e → Q (.error e)) :
    Exits Q (raising x : Flow ε ρ α) := by
  intro out hout
  obtain ⟨e, he, rfl⟩ := raising_eq_error.1 hout
  exact h e he

theorem exits_tryElse {caught : ε → Bool} {x : Except ε α} {out : Outcome ε ρ} (hout : Q out)
    (h : ∀ e, x = .error e → caught e = false → Q (.error e)) : Exits Q (tryElse caught x out) := by
  intro out' hx
  obtain ⟨e, he, rfl⟩ := tryElse_eq_error.1 hx
  by_cases hc : caught e
  · simpa [hc] using hout
  · simpa [hc] using h e he (by simpa using hc)

theorem exits_orReturn {x : Option α} {out : Outcome ε ρ} (h : Q out) :
    Exits Q (orReturn x out) := by
  intro out' hout
  obtain ⟨-, rfl⟩ := orReturn_eq_error.1 hout
  exact h

theorem exits_returnSome {x : Option α} {out : α → Outcome ε ρ} (h : ∀ a, x = some a → Q (out a)) :
    Exits Q (returnSome x out) := by
  intro out' hout
  obtain ⟨a, ha, rfl⟩ := returnSome_eq_error.1 hout
  exact h a ha

end Flow

end Kit
