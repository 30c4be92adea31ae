import Mathlib.Data.List.Sort
import ProofFlow.Kit.Flow

/-!
# Traversals

What a list traversal that may fail returns, and when two sorted lists are equal.
-/

namespace Kit

variable {ε α β σ : Type}

/-- A traversal succeeds if it does on every element, with the results in order. -/
theorem mapM_eq_ok {f : α → Except ε β} {l : List α} {r : List β} :
    l.mapM f = .ok r ↔ List.Forall₂ (fun a b => f a = .ok b) l r := by
  induction l generalizing r with
  | nil =>
    rw [List.mapM_nil, List.forall₂_nil_left_iff]
    constructor
    · intro h
      exact (Except.ok.inj h).symm
    · rintro rfl
      rfl
  | cons a l ih =>
    rw [List.mapM_cons, List.forall₂_cons_left_iff]
    simp only [bind_eq_ok, ih, pure, Except.pure, Except.ok.injEq]
    constructor
    · rintro ⟨b, hb, bs, hbs, rfl⟩
      exact ⟨b, bs, hb, hbs, rfl⟩
    · rintro ⟨b, bs, hb, hbs, rfl⟩
      exact ⟨b, hb, bs, hbs, rfl⟩

/-- A traversal without exceptions has a result if every element has one, with the results in
order. -/
theorem mapM_eq_some {f : α → Option β} {l : List α} {r : List β} :
    l.mapM f = some r ↔ List.Forall₂ (fun a b => f a = some b) l r := by
  induction l generalizing r with
  | nil =>
    rw [List.mapM_nil, List.forall₂_nil_left_iff]
    constructor
    · intro h
      exact (Option.some.inj h).symm
    · rintro rfl
      rfl
  | cons a l ih =>
    rw [List.mapM_cons, List.forall₂_cons_left_iff]
    simp only [Option.bind_eq_bind, Option.bind_eq_some_iff, ih, Option.pure_def, Option.some.injEq]
    constructor
    · rintro ⟨b, hb, bs, hbs, rfl⟩
      exact ⟨b, bs, hb, hbs, rfl⟩
    · rintro ⟨b, bs, hb, hbs, rfl⟩
      exact ⟨b, hb, bs, hbs, rfl⟩

/-- Each element of a list has its partner in the other one. -/
theorem exists_of_mem_forall₂ {R : α → β → Prop} {l : List α} {r : List β} (h : List.Forall₂ R l r)
    {a : α} (ha : a ∈ l) : ∃ b ∈ r, R a b := by
  obtain ⟨hlength, hget⟩ := List.forall₂_iff_get.1 h
  obtain ⟨i, hi, rfl⟩ := List.mem_iff_getElem.1 ha
  exact ⟨r[i], List.getElem_mem _, hget i hi (hlength ▸ hi)⟩

/-- Each result of a traversal is that of an element. -/
theorem exists_of_mem_mapM {f : α → Except ε β} {l : List α} {r : List β} (h : l.mapM f = .ok r)
    {b : β} (hb : b ∈ r) : ∃ a ∈ l, f a = .ok b :=
  exists_of_mem_forall₂ (mapM_eq_ok.1 h).flip hb

/-- Each element of a traversal has a result. -/
theorem exists_result_of_mem {f : α → Except ε β} {l : List α} {r : List β} (h : l.mapM f = .ok r)
    {a : α} (ha : a ∈ l) : ∃ b ∈ r, f a = .ok b :=
  exists_of_mem_forall₂ (mapM_eq_ok.1 h) ha

/-- A traversal succeeds if it does on every element. -/
theorem exists_mapM {f : α → Except ε β} {l : List α} (h : ∀ a ∈ l, ∃ b, f a = .ok b) :
    ∃ r, l.mapM f = .ok r := by
  induction l with
  | nil => exact ⟨[], rfl⟩
  | cons a l ih =>
    obtain ⟨⟨b, hb⟩, hl⟩ := List.forall_mem_cons.1 h
    obtain ⟨r, hr⟩ := ih hl
    rw [List.mapM_cons, hb, ok_bind, hr, ok_bind]
    exact ⟨_, rfl⟩

/-- What the results have in common with their elements holds of the lists. -/
theorem map_eq_of_mapM {γ : Type} {f : α → Except ε β} {g : β → γ} {k : α → γ} {l : List α}
    {r : List β} (h : l.mapM f = .ok r) (heq : ∀ a ∈ l, ∀ b, f a = .ok b → g b = k a) :
    r.map g = l.map k := by
  induction l generalizing r with
  | nil =>
    cases h
    rfl
  | cons a l ih =>
    obtain ⟨ha, hl⟩ := List.forall_mem_cons.1 heq
    rw [List.mapM_cons] at h
    simp only [bind_eq_ok, pure, Except.pure, Except.ok.injEq] at h
    obtain ⟨b, hb, bs, hbs, rfl⟩ := h
    rw [List.map_cons, List.map_cons, ha b hb, ih hbs hl]

/-- A traversal whose results are lists, put together in order: `for a in l:
results.extend(f(a))`. -/
def collect (f : α → Except ε (List β)) (l : List α) : Except ε (List β) :=
  (l.mapM f).map List.flatten

theorem collect_eq_ok {f : α → Except ε (List β)} {l : List α} {r : List β} :
    collect f l = .ok r ↔ ∃ rs, l.mapM f = .ok rs ∧ rs.flatten = r := by
  unfold collect
  cases l.mapM f <;> simp [Except.map]

theorem exists_collect {f : α → Except ε (List β)} {l : List α} (h : ∀ a ∈ l, ∃ bs, f a = .ok bs) :
    ∃ r, collect f l = .ok r := by
  obtain ⟨rs, hrs⟩ := exists_mapM h
  exact ⟨rs.flatten, collect_eq_ok.2 ⟨rs, hrs, rfl⟩⟩

theorem exists_of_mem_collect {f : α → Except ε (List β)} {l : List α} {r : List β}
    (h : collect f l = .ok r) {b : β} (hb : b ∈ r) : ∃ a ∈ l, ∃ bs, f a = .ok bs ∧ b ∈ bs := by
  obtain ⟨rs, hrs, rfl⟩ := collect_eq_ok.1 h
  obtain ⟨bs, hbs, hb⟩ := List.mem_flatten.1 hb
  obtain ⟨a, ha, hf⟩ := exists_of_mem_mapM hrs hbs
  exact ⟨a, ha, bs, hf, hb⟩

theorem exists_result_of_mem_collect {f : α → Except ε (List β)} {l : List α} {r : List β}
    (h : collect f l = .ok r) {a : α} (ha : a ∈ l) : ∃ bs, f a = .ok bs ∧ bs ⊆ r := by
  obtain ⟨rs, hrs, rfl⟩ := collect_eq_ok.1 h
  obtain ⟨bs, hbs, hf⟩ := exists_result_of_mem hrs ha
  exact ⟨bs, hf, fun b hb => List.mem_flatten.2 ⟨bs, hbs, hb⟩⟩

/-- What the parts have in common with their elements holds of what is collected. -/
theorem map_collect {γ : Type} {f : α → Except ε (List β)} {g : β → γ} {k : α → List γ} {l : List α}
    {r : List β} (h : collect f l = .ok r) (heq : ∀ a ∈ l, ∀ bs, f a = .ok bs → bs.map g = k a) :
    r.map g = l.flatMap k := by
  obtain ⟨rs, hrs, rfl⟩ := collect_eq_ok.1 h
  rw [List.map_flatten, map_eq_of_mapM hrs heq, List.flatMap_def]

/-- A loop whose body never fails is a fold. -/
theorem foldlM_eq_foldl {f : σ → α → Except ε σ} {g : σ → α → σ} {l : List α}
    (h : ∀ a ∈ l, ∀ s, f s a = .ok (g s a)) (s : σ) : l.foldlM f s = .ok (l.foldl g s) := by
  induction l generalizing s with
  | nil => rfl
  | cons a l ih =>
    obtain ⟨ha, hl⟩ := List.forall_mem_cons.1 h
    rw [List.foldlM_cons, ha, ok_bind, ih hl, List.foldl_cons]

/-- A loop whose body never fails ends. -/
theorem exists_foldlM {f : σ → α → Except ε σ} {l : List α} (h : ∀ a ∈ l, ∀ s, ∃ s', f s a = .ok s')
    (s : σ) : ∃ s', l.foldlM f s = .ok s' := by
  induction l generalizing s with
  | nil => exact ⟨s, rfl⟩
  | cons a l ih =>
    obtain ⟨ha, hl⟩ := List.forall_mem_cons.1 h
    obtain ⟨s', hs'⟩ := ha s
    rw [List.foldlM_cons, hs', ok_bind]
    exact ih hl s'

/-- A loop ends where nothing was noticed exactly if it started there and no element is noticed. -/
theorem foldlM_eq_iff {f : σ → α → Except ε σ} {clear : σ} {Q : α → Prop} {l : List α}
    (h : ∀ s a, f s a = .ok clear ↔ s = clear ∧ Q a) (s : σ) :
    l.foldlM f s = .ok clear ↔ s = clear ∧ ∀ a ∈ l, Q a := by
  induction l generalizing s with
  | nil => simp [pure, Except.pure]
  | cons a l ih =>
    rw [List.foldlM_cons, bind_eq_ok, List.forall_mem_cons, ← and_assoc, ← h s a]
    constructor
    · rintro ⟨s', hs', hrest⟩
      obtain ⟨rfl, hl⟩ := (ih s').1 hrest
      exact ⟨hs', hl⟩
    · rintro ⟨ha, hl⟩
      exact ⟨clear, ha, (ih clear).2 ⟨rfl, hl⟩⟩

/-- Lists are sorted alike exactly if one is a permutation of the other. -/
theorem insertionSort_eq_iff [LinearOrder α] {l l' : List α} :
    l.insertionSort (· ≤ ·) = l'.insertionSort (· ≤ ·) ↔ l.Perm l' := by
  constructor
  · intro h
    exact (List.perm_insertionSort (· ≤ ·) l).symm.trans (h ▸ List.perm_insertionSort (· ≤ ·) l')
  · intro h
    have hperm := ((List.perm_insertionSort (· ≤ ·) l).trans h).trans
      (List.perm_insertionSort (· ≤ ·) l').symm
    exact hperm.eq_of_pairwise' (List.pairwise_insertionSort _ _) (List.pairwise_insertionSort _ _)

end Kit
