import Mathlib.Logic.Basic

/-!
# Validation that collects errors

A schema validator looks at every field of a record before it gives up: an ill-formed field makes
the record invalid, but the fields after it are still examined.  An exception raised by a field,
by contrast, ends the validation at once.  `Validation ε α` has the two kinds of failure apart;
sequencing (`<*>`) keeps going after an invalid part, and `andThen` runs a check that needs every
part.
-/

namespace Kit

/-- The result of validating a value: accepted, ill-formed, or an exception of the validator. -/
inductive Validation (ε α : Type) where
  | ok (a : α)
  | invalid
  | raised (e : ε)
  deriving DecidableEq

namespace Validation

variable {ε α β : Type}

def map (f : α → β) : Validation ε α → Validation ε β
  | .ok a => .ok (f a)
  | .invalid => .invalid
  | .raised e => .raised e

/-- Combine two parts: an exception of the second part surfaces even if the first is ill-formed. -/
def seq (f : Validation ε (α → β)) (x : Validation ε α) : Validation ε β :=
  match f, x with
  | .raised e, _ => .raised e
  | .ok f, .ok a => .ok (f a)
  | _, .raised e => .raised e
  | _, _ => .invalid

instance : Applicative (Validation ε) where
  pure := .ok
  map := map
  seq f x := seq f (x ())

/-- A check of the whole value, run only when every part was accepted. -/
def andThen (x : Validation ε α) (f : α → Validation ε β) : Validation ε β :=
  match x with
  | .ok a => f a
  | .invalid => .invalid
  | .raised e => .raised e

/-- An ill-formedness found outside the parts: exceptions of the parts still surface. -/
def orInvalid (ok : Bool) (x : Validation ε α) : Validation ε α :=
  match x with
  | .ok a => if ok then .ok a else .invalid
  | .invalid => .invalid
  | .raised e => .raised e

/-- Validate every element of a list. -/
def traverse (f : β → Validation ε α) : List β → Validation ε (List α)
  | [] => .ok []
  | b :: l => List.cons <$> f b <*> traverse f l

/-- Attach to a value the evidence that `check` accepted it; `caught` exceptions of the check make
the value ill-formed, the others surface. -/
def refine (caught : ε → Bool) {check : α → Except ε Unit} (mk : (a : α) → check a = .ok () → β)
    (a : α) : Validation ε β :=
  match h : check a with
  | .ok () => .ok (mk a h)
  | .error e => if caught e then .invalid else .raised e

/-- The validation ends without an exception. -/
def Quiet (x : Validation ε α) : Prop := ∀ e, x ≠ .raised e

@[simp] theorem quiet_ok (a : α) : (.ok a : Validation ε α).Quiet := fun _ => by simp

@[simp] theorem quiet_invalid : (.invalid : Validation ε α).Quiet := fun _ => by simp

@[simp] theorem quiet_map {f : α → β} {x : Validation ε α} : (f <$> x).Quiet ↔ x.Quiet := by
  cases x <;> simp [Quiet, Functor.map, map]

@[simp] theorem quiet_seq {f : Validation ε (α → β)} {x : Validation ε α} :
    (f <*> x).Quiet ↔ f.Quiet ∧ x.Quiet := by
  cases f <;> cases x <;> simp [Quiet, Seq.seq, seq]

@[simp] theorem quiet_andThen {x : Validation ε α} {f : α → Validation ε β} :
    (x.andThen f).Quiet ↔ x.Quiet ∧ ∀ a, x = .ok a → (f a).Quiet := by
  cases x <;> simp [Quiet, andThen]

@[simp] theorem quiet_orInvalid {ok : Bool} {x : Validation ε α} :
    (x.orInvalid ok).Quiet ↔ x.Quiet := by
  cases ok <;> cases x <;> simp [Quiet, orInvalid]

theorem quiet_ite {c : Prop} [Decidable c] {x y : Validation ε α} (hx : x.Quiet) (hy : y.Quiet) :
    (if c then x else y).Quiet := by
  split <;> assumption

theorem quiet_dite {c : Prop} [Decidable c] {x : c → Validation ε α} {y : ¬ c → Validation ε α}
    (hx : ∀ h, (x h).Quiet) (hy : ∀ h, (y h).Quiet) : (dite c x y).Quiet := by
  split
  · exact hx _
  · exact hy _

/-- A list is validated without an exception when its elements are. -/
theorem quiet_traverse {f : β → Validation ε α} (hf : ∀ b, (f b).Quiet) (l : List β) :
    (traverse f l).Quiet := by
  induction l with
  | nil => exact quiet_ok _
  | cons b l ih =>
    simp only [traverse, quiet_seq, quiet_map]
    exact ⟨hf b, ih⟩

theorem quiet_refine {caught : ε → Bool} {check : α → Except ε Unit}
    {mk : (a : α) → check a = .ok () → β} {a : α}
    (h : ∀ e, check a = .error e → caught e = true) : (refine caught mk a).Quiet := by
  unfold refine
  split
  · exact quiet_ok _
  · next e he => simp [h e he]

/-- A check is quiet exactly when everything it fails with is caught. -/
theorem quiet_refine_iff {caught : ε → Bool} {check : α → Except ε Unit}
    {mk : (a : α) → check a = .ok () → β} {a : α} :
    (refine caught mk a).Quiet ↔ ∀ e, check a = .error e → caught e = true := by
  refine ⟨fun h e he => ?_, quiet_refine⟩
  cases hc : caught e with
  | true => rfl
  | false =>
    refine absurd ?_ (h e)
    unfold refine
    split
    · next hok => simp [hok] at he
    · next e' he' =>
      obtain rfl : e' = e := Except.error.inj (he'.symm.trans he)
      simp [hc]

/-! ### What is raised -/

/-- Every exception that ends the validation has the property. -/
def RaisesOnly (q : ε → Prop) (x : Validation ε α) : Prop := ∀ e, x = .raised e → q e

variable {q : ε → Prop}

theorem Quiet.raisesOnly {x : Validation ε α} (h : x.Quiet) : x.RaisesOnly q :=
  fun e he => absurd he (h e)

theorem RaisesOnly.seq {f : Validation ε (α → β)} {x : Validation ε α} (hf : f.RaisesOnly q)
    (hx : x.RaisesOnly q) : (f <*> x).RaisesOnly q := by
  intro e he
  cases f with
  | raised e' =>
    obtain rfl : e' = e := by simpa [Seq.seq, Validation.seq] using he
    exact hf e' rfl
  | ok g =>
    cases x <;> simp [Seq.seq, Validation.seq] at he
    exact he ▸ hx _ rfl
  | invalid =>
    cases x <;> simp [Seq.seq, Validation.seq] at he
    exact he ▸ hx _ rfl

theorem RaisesOnly.andThen {x : Validation ε α} {f : α → Validation ε β} (hx : x.RaisesOnly q)
    (hf : ∀ a, (f a).RaisesOnly q) : (x.andThen f).RaisesOnly q := by
  cases x with
  | ok a => exact hf a
  | invalid => rintro e ⟨⟩
  | raised e' =>
    rintro _ ⟨⟩
    exact hx _ rfl

theorem RaisesOnly.orInvalid {ok : Bool} {x : Validation ε α} (hx : x.RaisesOnly q) :
    (x.orInvalid ok).RaisesOnly q := by
  intro e he
  cases x with
  | ok a => cases ok <;> cases he
  | invalid => cases he
  | raised e' => exact hx e he

/-- A check lets through what it does not catch. -/
theorem raisesOnly_refine {caught : ε → Bool} {check : α → Except ε Unit}
    {mk : (a : α) → check a = .ok () → β} {a : α} :
    (refine caught mk a).RaisesOnly fun e => caught e = false := by
  intro e he
  unfold refine at he
  split at he
  · cases he
  · next e' _ =>
    cases hc : caught e' with
    | true => simp [hc] at he
    | false =>
      obtain rfl : e' = e := by simpa [hc] using he
      exact hc

end Validation

end Kit
