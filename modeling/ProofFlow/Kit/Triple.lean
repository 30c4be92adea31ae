import Mathlib.Logic.Basic

/-!
# Programs with a state and exceptions

An action changes a state and returns a value or raises an exception; what it did to the state
before it raised stays done.  `Triple pre m post raised` says how `m` ends when it starts in a state
with `pre`.  The file has one rule for each way to build an action, and the rule for a loop over a
list.
-/

namespace Kit

/-- A program over the state `σ` that may raise an `ε`. -/
abbrev Action (σ ε α : Type) := ExceptT ε (StateM σ) α

variable {σ ε α β : Type}

namespace Action

/-- The result of an action and the state it leaves. -/
def perform (m : Action σ ε α) (s : σ) : Except ε α × σ := Id.run (m.run.run s)

/-- `try` with a handler: what the body did before it raised stays done. -/
def handling (m : Action σ ε α) (f : ε → Action σ ε α) : Action σ ε α := fun s =>
  match m.perform s with
  | (.ok a, s') => (.ok a, s')
  | (.error e, s') => (f e).perform s'

theorem perform_bind_ok {m : Action σ ε α} {f : α → Action σ ε β} {s s' : σ} {a : α}
    (h : m.perform s = (.ok a, s')) : (m >>= f).perform s = (f a).perform s' := by
  have hbind : (m >>= f).perform s = (ExceptT.bindCont f (m.perform s).1).run (m.perform s).2 := rfl
  rw [hbind, h]
  rfl

theorem perform_bind_error {m : Action σ ε α} {f : α → Action σ ε β} {s s' : σ} {e : ε}
    (h : m.perform s = (.error e, s')) : (m >>= f).perform s = (.error e, s') := by
  have hbind : (m >>= f).perform s = (ExceptT.bindCont f (m.perform s).1).run (m.perform s).2 := rfl
  rw [hbind, h]
  rfl

/-- A sequence that returned has a first part that returned. -/
theorem exists_of_perform_bind {m : Action σ ε α} {f : α → Action σ ε β} {s : σ} {b : β}
    (h : ((m >>= f).perform s).1 = .ok b) :
    ∃ a s', m.perform s = (.ok a, s') ∧ ((f a).perform s').1 = .ok b := by
  rcases hm : m.perform s with ⟨e | a, s'⟩
  · rw [perform_bind_error hm] at h
    cases h
  · rw [perform_bind_ok hm] at h
    exact ⟨a, s', rfl, h⟩

theorem perform_handling_ok {m : Action σ ε α} {f : ε → Action σ ε α} {s s' : σ} {a : α}
    (h : m.perform s = (.ok a, s')) : (m.handling f).perform s = (.ok a, s') := by
  change (m.handling f) s = _
  rw [handling, h]

theorem perform_handling_error {m : Action σ ε α} {f : ε → Action σ ε α} {s s' : σ} {e : ε}
    (h : m.perform s = (.error e, s')) : (m.handling f).perform s = (f e).perform s' := by
  change (m.handling f) s = _
  rw [handling, h]

end Action

/-- From a state with `pre`, `m` returns in a state with `post` or raises in one with `raised`. -/
structure Triple (pre : σ → Prop) (m : Action σ ε α) (post : α → σ → Prop)
    (raised : ε → σ → Prop) : Prop where
  returns : ∀ {s s' a}, pre s → m.perform s = (.ok a, s') → post a s'
  raises : ∀ {s s' e}, pre s → m.perform s = (.error e, s') → raised e s'

namespace Triple

variable {pre pre' : σ → Prop} {post : α → σ → Prop} {raised raised' : ε → σ → Prop}

/-! ## Rules -/

theorem weaken {post' : α → σ → Prop} {m : Action σ ε α} (h : Triple pre m post raised)
    (hpre : ∀ s, pre' s → pre s) (hpost : ∀ a s, post a s → post' a s)
    (hraised : ∀ e s, raised e s → raised' e s) : Triple pre' m post' raised' where
  returns hs hm := hpost _ _ (h.returns (hpre _ hs) hm)
  raises hs hm := hraised _ _ (h.raises (hpre _ hs) hm)

theorem strengthen {m : Action σ ε α} (h : Triple pre m post raised)
    (hpre : ∀ s, pre' s → pre s) : Triple pre' m post raised :=
  h.weaken hpre (fun _ _ => id) fun _ _ => id

protected theorem pure {a : α} (h : ∀ s, pre s → post a s) :
    Triple pre (pure a : Action σ ε α) post raised where
  returns hs hm := by
    cases hm
    exact h _ hs
  raises _ hm := nomatch hm

protected theorem throw {e : ε} (h : ∀ s, pre s → raised e s) :
    Triple pre (throw e : Action σ ε α) post raised where
  returns _ hm := nomatch hm
  raises hs hm := by
    cases hm
    exact h _ hs

protected theorem get {Q : σ → σ → Prop} (h : ∀ s, pre s → Q s s) :
    Triple pre (get : Action σ ε σ) Q raised where
  returns hs hm := by
    cases hm
    exact h _ hs
  raises _ hm := nomatch hm

protected theorem modify {f : σ → σ} {post : PUnit → σ → Prop} (h : ∀ s, pre s → post ⟨⟩ (f s)) :
    Triple pre (modify f : Action σ ε PUnit) post raised where
  returns hs hm := by
    cases hm
    exact h _ hs
  raises _ hm := nomatch hm

/-- Sequencing: the second part starts where the first one returned. -/
protected theorem bind {Q : α → σ → Prop} {post : β → σ → Prop} {m : Action σ ε α}
    {f : α → Action σ ε β} (h : Triple pre m Q raised)
    (hf : ∀ a, Triple (Q a) (f a) post raised) : Triple pre (m >>= f) post raised where
  returns {s s' b} hs hm := by
    rcases hrun : m.perform s with ⟨_ | a, t⟩
    · rw [Action.perform_bind_error hrun] at hm
      cases hm
    · rw [Action.perform_bind_ok hrun] at hm
      exact (hf a).returns (h.returns hs hrun) hm
  raises {s s' e} hs hm := by
    rcases hrun : m.perform s with ⟨_ | a, t⟩
    · rw [Action.perform_bind_error hrun] at hm
      cases hm
      exact h.raises hs hrun
    · rw [Action.perform_bind_ok hrun] at hm
      exact (hf a).raises (h.returns hs hrun) hm

/-- The handler starts where the body raised. -/
protected theorem handling {m : Action σ ε α} {f : ε → Action σ ε α}
    (h : Triple pre m post raised) (hf : ∀ e, Triple (raised e) (f e) post raised') :
    Triple pre (m.handling f) post raised' where
  returns {s s' b} hs hm := by
    rcases hrun : m.perform s with ⟨_ | a, t⟩
    · rw [Action.perform_handling_error hrun] at hm
      exact (hf _).returns (h.raises hs hrun) hm
    · rw [Action.perform_handling_ok hrun] at hm
      cases hm
      exact h.returns hs hrun
  raises {s s' e} hs hm := by
    rcases hrun : m.perform s with ⟨_ | a, t⟩
    · rw [Action.perform_handling_error hrun] at hm
      exact (hf _).raises (h.raises hs hrun) hm
    · rw [Action.perform_handling_ok hrun] at hm
      cases hm

/-- A precondition that holds in no state. -/
theorem of_false {m : Action σ ε α} (h : ∀ s, ¬ pre s) : Triple pre m post raised where
  returns hs := absurd hs (h _)
  raises hs := absurd hs (h _)

/-- A precondition that does not depend on the state. -/
theorem given {p : Prop} {m : Action σ ε α} (h : p → Triple (fun _ => True) m post raised) :
    Triple (fun _ => p) m post raised where
  returns hp := (h hp).returns trivial
  raises hp := (h hp).raises trivial

/-- A value that the precondition only says to exist. -/
theorem ghost {ι : Sort*} {pre : ι → σ → Prop} {m : Action σ ε α}
    (h : ∀ i, Triple (pre i) m post raised) : Triple (fun s => ∃ i, pre i s) m post raised where
  returns := fun ⟨i, hs⟩ => (h i).returns hs
  raises := fun ⟨i, hs⟩ => (h i).raises hs

/-- A loop over a list: the invariant speaks of the part that is done. -/
theorem forM {I : List β → σ → Prop} {f : β → Action σ ε PUnit} (l : List β)
    (h : ∀ done b, b ∈ l → Triple (I done) (f b) (fun _ => I (done ++ [b])) raised)
    (start : List β) : Triple (I start) (l.forM f) (fun _ => I (start ++ l)) raised := by
  induction l generalizing start with
  | nil => exact Triple.pure fun s hs => by simpa using hs
  | cons b l ih =>
    change Triple _ (f b >>= fun _ => l.forM f) _ _
    refine (h start b List.mem_cons_self).bind fun _ => ?_
    have hrest := ih (fun done c hc => h done c (List.mem_cons_of_mem _ hc)) (start ++ [b])
    rwa [List.append_assoc, List.singleton_append] at hrest

/-- A loop over a list that changes a variable. -/
theorem foldlM {I : α → σ → Prop} {f : α → β → Action σ ε α} (l : List β)
    (h : ∀ a, ∀ b ∈ l, Triple (I a) (f a b) I raised) (a : α) :
    Triple (I a) (l.foldlM f a) I raised := by
  induction l generalizing a with
  | nil => exact Triple.pure fun _ hs => hs
  | cons b l ih =>
    rw [List.foldlM_cons]
    exact (h a b List.mem_cons_self).bind (ih fun a' b' hb' => h a' b' (List.mem_cons_of_mem _ hb'))

end Triple

end Kit
