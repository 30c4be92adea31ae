import Mathlib.Data.Finset.Card
import Mathlib.Data.Finset.SDiff
import Mathlib.Data.List.Perm.Subperm
import ProofFlow.Kit.Selection

/-!
# How much a greedy selection finds

Elements are the edges of a bipartite graph between keys and owners; a distinct selection is a
matching.  The greedy scan ends with a maximal selection, and every maximal selection is the scan of
some order.  So every order finds as much as any selection could if and only if no maximal selection
has a member that can be exchanged for two.
-/

namespace Kit

variable {α κ ω : Type} (key : α → κ) (owner : α → ω)

/-- Keep each element of the list whose key and owner are not yet taken. -/
def greedy [DecidableEq κ] [DecidableEq ω] (l : List α) : List α := l.foldl (enroll key owner) []

/-- Distinct elements of the list. -/
structure Selection (l M : List α) : Prop where
  subset : M ⊆ l
  distinct : Distinct key owner M

/-- Distinct elements of the list to which none can be added. -/
structure MaximalSelection (l M : List α) : Prop extends Selection key owner l M where
  maximal : ∀ x ∈ l, ∃ y ∈ M, key y = key x ∨ owner y = owner x

/-- In some maximal selection `M`, a member `a` can be exchanged for two elements: `b` with its key
and an owner that is not taken, and `c` with its owner and a key that is not taken. -/
def Improvable (l : List α) : Prop :=
  ∃ M, MaximalSelection key owner l M ∧ ∃ a ∈ M, ∃ b ∈ l, ∃ c ∈ l, key b = key a ∧
    owner c = owner a ∧ (∀ y ∈ M, owner y ≠ owner b) ∧ ∀ y ∈ M, key y ≠ key c

variable {key : α → κ} {owner : α → ω} {l M S : List α}

theorem Distinct.eq_of_owner (h : Distinct key owner l) {a b : α} (ha : a ∈ l) (hb : b ∈ l)
    (hab : owner a = owner b) : a = b :=
  List.inj_on_of_nodup_map h.nodup_owners ha hb hab

theorem distinct_cons {a : α} : Distinct key owner (a :: l) ↔
    (∀ y ∈ l, key a ≠ key y ∧ owner a ≠ owner y) ∧ Distinct key owner l :=
  List.pairwise_cons

/-! ## Greedy scans are maximal selections -/

section Greedy

variable [DecidableEq κ] [DecidableEq ω]

theorem selection_greedy : Selection key owner l (greedy key owner l) := by
  have hscan : ∀ kept : List α, Distinct key owner kept → Distinct key owner
      (l.foldl (enroll key owner) kept) ∧
      ∀ x ∈ l.foldl (enroll key owner) kept, x ∈ kept ∨ x ∈ l := by
    induction l with
    | nil => exact fun kept h => ⟨h, fun x hx => .inl hx⟩
    | cons a l ih =>
      intro kept h
      obtain ⟨hdistinct, hmem⟩ := ih _ (h.enroll a)
      refine ⟨hdistinct, fun x hx => ?_⟩
      rcases hmem x hx with hx | hx
      · rcases mem_of_mem_enroll hx with hx | rfl
        · exact .inl hx
        · exact .inr List.mem_cons_self
      · exact .inr (List.mem_cons_of_mem a hx)
  obtain ⟨hdistinct, hmem⟩ := hscan [] Distinct.nil
  exact ⟨fun x hx => (hmem x hx).resolve_left (by simp), hdistinct⟩

theorem subset_foldl_enroll {kept : List α} : kept ⊆ l.foldl (enroll key owner) kept := by
  induction l generalizing kept with
  | nil => exact List.Subset.refl _
  | cons a l ih => exact fun x hx => ih (subset_enroll hx)

/-- The scan ends with a selection to which no scanned element can be added. -/
theorem maximalSelection_greedy : MaximalSelection key owner l (greedy key owner l) := by
  refine ⟨selection_greedy, fun x hx => ?_⟩
  obtain ⟨before, after, rfl⟩ := List.append_of_mem hx
  unfold greedy
  rw [List.foldl_append, List.foldl_cons]
  obtain ⟨y, hy, htaken⟩ : ∃ y ∈ enroll key owner (before.foldl (enroll key owner) []) x,
      key y = key x ∨ owner y = owner x := exists_mem_enroll _ x
  exact ⟨y, subset_foldl_enroll hy, htaken⟩

/-- Distinct elements are all kept. -/
theorem foldl_enroll_of_distinct {kept : List α} (h : Distinct key owner (kept ++ M)) :
    M.foldl (enroll key owner) kept = kept ++ M := by
  induction M generalizing kept with
  | nil => simp
  | cons a M ih =>
    have hfresh : ∀ y ∈ kept, key y ≠ key a ∧ owner y ≠ owner a := by
      intro y hy
      exact (List.pairwise_append.1 h).2.2 y hy a List.mem_cons_self
    have hkeep : enroll key owner kept a = kept ++ [a] := by
      unfold enroll
      apply if_neg
      rintro (⟨y, hy, heq⟩ | ⟨y, hy, heq⟩)
      · exact (hfresh y hy).1 heq
      · exact (hfresh y hy).2 heq
    rw [List.foldl_cons, hkeep, ih (by simpa using h)]
    simp

/-- Elements whose key or owner is taken are all passed over. -/
theorem foldl_enroll_of_taken {kept rest : List α}
    (h : ∀ x ∈ rest, ∃ y ∈ kept, key y = key x ∨ owner y = owner x) :
    rest.foldl (enroll key owner) kept = kept := by
  induction rest with
  | nil => rfl
  | cons a rest ih =>
    have hskip : enroll key owner kept a = kept := by
      unfold enroll
      apply if_pos
      obtain ⟨y, hy, heq | heq⟩ := h a List.mem_cons_self
      · exact .inl ⟨y, hy, heq⟩
      · exact .inr ⟨y, hy, heq⟩
    rw [List.foldl_cons, hskip, ih fun x hx => h x (List.mem_cons_of_mem a hx)]

/-- The scan depends on the keys only through their equality. -/
theorem greedy_congr_key {κ' : Type} [DecidableEq κ'] {key' : α → κ'}
    (h : ∀ a ∈ l, ∀ b ∈ l, key a = key b ↔ key' a = key' b) :
    greedy key owner l = greedy key' owner l := by
  have hscan : ∀ rest kept : List α, kept ⊆ l → rest ⊆ l →
      rest.foldl (enroll key owner) kept = rest.foldl (enroll key' owner) kept := by
    intro rest
    induction rest with
    | nil => exact fun _ _ _ => rfl
    | cons a rest ih =>
      intro kept hkept hrest
      obtain ⟨ha, hrest⟩ := List.cons_subset.1 hrest
      have hstep : enroll key owner kept a = enroll key' owner kept a := by
        have htaken : (∃ b ∈ kept, key b = key a) ↔ ∃ b ∈ kept, key' b = key' a :=
          exists_congr fun b => and_congr_right fun hb => h b (hkept hb) a ha
        unfold enroll
        simp only [htaken]
      rw [List.foldl_cons, List.foldl_cons, hstep]
      apply ih
      · intro b hb
        rcases mem_of_mem_enroll hb with hb | rfl
        · exact hkept hb
        · exact ha
      · exact hrest
  exact hscan l [] (List.nil_subset l) (List.Subset.refl l)

/-- A loop that enrolls the candidates with `p` into a part of its state. -/
theorem foldlM_enroll {ε σ : Type} {f : σ → α → Except ε σ} (state : List α → σ) {p : α → Bool}
    (h : ∀ kept, ∀ a ∈ l, f (state kept) a =
      .ok (state (if p a then enroll key owner kept a else kept))) (kept : List α) :
    l.foldlM f (state kept) = .ok (state ((l.filter p).foldl (enroll key owner) kept)) := by
  induction l generalizing kept with
  | nil => rfl
  | cons a l ih =>
    rw [List.foldlM_cons, h kept a List.mem_cons_self, ok_bind,
      ih fun kept b hb => h kept b (List.mem_cons_of_mem a hb)]
    by_cases hp : p a <;> simp [hp]

/-- Every maximal selection is what the scan finds in some order. -/
theorem MaximalSelection.exists_order (h : MaximalSelection key owner l M) :
    ∃ l', l'.Perm l ∧ greedy key owner l' = M := by
  obtain ⟨M', hperm, hsub⟩ := List.subperm_of_subset h.distinct.nodup h.subset
  obtain ⟨rest, hrest⟩ := hsub.exists_perm_append
  have horder : (M ++ rest).Perm l := (hperm.symm.append_right rest).trans hrest.symm
  refine ⟨M ++ rest, horder, ?_⟩
  unfold greedy
  have hkept : M.foldl (enroll key owner) [] = M := foldl_enroll_of_distinct h.distinct
  rw [List.foldl_append, hkept]
  apply foldl_enroll_of_taken
  intro x hx
  exact h.maximal x (horder.subset (List.mem_append_right M hx))

end Greedy

/-! ## Exchanges -/

/-- A longer selection uses a key that the shorter one does not. -/
theorem exists_fresh_key (hS : Distinct key owner S) (hlt : M.length < S.length) :
    ∃ c ∈ S, ∀ y ∈ M, key y ≠ key c := by
  by_contra hnone
  push Not at hnone
  have hsub : S.map key ⊆ M.map key := by
    intro k hk
    obtain ⟨c, hc, rfl⟩ := List.mem_map.1 hk
    obtain ⟨y, hy, heq⟩ := hnone c hc
    exact List.mem_map.2 ⟨y, hy, heq⟩
  have hle := (List.subperm_of_subset hS.nodup_keys hsub).length_le
  rw [List.length_map, List.length_map] at hle
  omega

open scoped Classical in
/-- The elements of `S` that are not in `M`. -/
noncomputable def missing (S M : List α) : Finset α := S.toFinset \ M.toFinset

/-- Next to a longer selection, a maximal one can be improved, or it can be brought closer. -/
theorem MaximalSelection.improvable_or_closer (hM : MaximalSelection key owner l M)
    (hS : Selection key owner l S) (hlt : M.length < S.length) :
    Improvable key owner l ∨ ∃ M', MaximalSelection key owner l M' ∧ M'.length = M.length ∧
      (missing S M').card < (missing S M).card := by
  classical
  obtain ⟨c, hc, hfresh⟩ := exists_fresh_key hS.distinct hlt
  obtain ⟨a, ha, hkey | howner⟩ := hM.maximal c (hS.subset hc)
  · exact absurd hkey (hfresh a ha)
  by_cases hb : ∃ b ∈ l, key b = key a ∧ ∀ y ∈ M, owner y ≠ owner b
  · obtain ⟨b, hb, hkb, hob⟩ := hb
    exact .inl ⟨M, hM, a, ha, b, hb, c, hS.subset hc, hkb, howner.symm, hob, hfresh⟩
  push Not at hb
  right
  -- exchange `a` for `c`: the key of `a` becomes free, and everything with it has a taken owner
  obtain ⟨before, after, rfl⟩ := List.append_of_mem ha
  have hperm : (a :: (before ++ after)).Perm (before ++ a :: after) := List.perm_middle.symm
  obtain ⟨hapart, hrest⟩ := distinct_cons.1 (hM.distinct.perm hperm)
  have hmem (y : α) : y ∈ before ++ a :: after ↔ y = a ∨ y ∈ before ++ after := by
    rw [← hperm.mem_iff, List.mem_cons]
  refine ⟨c :: (before ++ after), ⟨⟨?_, ?_⟩, ?_⟩, ?_, ?_⟩
  · intro y hy
    rcases List.mem_cons.1 hy with rfl | hy
    · exact hS.subset hc
    · exact hM.subset ((hmem y).2 (.inr hy))
  · refine distinct_cons.2 ⟨fun y hy => ⟨?_, ?_⟩, hrest⟩
    · exact (hfresh y ((hmem y).2 (.inr hy))).symm
    · rw [← howner]
      exact (hapart y hy).2
  · intro x hx
    have htaken : ∀ y ∈ before ++ a :: after, owner y = owner x →
        ∃ y ∈ c :: (before ++ after), key y = key x ∨ owner y = owner x := by
      intro y hy heq
      rcases (hmem y).1 hy with rfl | hy
      · exact ⟨c, List.mem_cons_self, .inr (howner.symm.trans heq)⟩
      · exact ⟨y, List.mem_cons_of_mem c hy, .inr heq⟩
    obtain ⟨y, hy, hkey | heq⟩ := hM.maximal x hx
    · rcases (hmem y).1 hy with rfl | hy
      · obtain ⟨z, hz, heq⟩ := hb x hx hkey.symm
        exact htaken z hz heq
      · exact ⟨y, List.mem_cons_of_mem c hy, .inl hkey⟩
    · exact htaken y hy heq
  · simp only [List.length_cons, List.length_append]
    omega
  · apply Finset.card_lt_card
    rw [Finset.ssubset_iff_of_subset]
    · refine ⟨c, ?_, ?_⟩
      · simp only [missing, Finset.mem_sdiff, List.mem_toFinset]
        exact ⟨hc, fun hcM => hfresh c hcM rfl⟩
      · simp [missing]
    · intro x hx
      simp only [missing, Finset.mem_sdiff, List.mem_toFinset, hmem, List.mem_cons, not_or] at hx ⊢
      obtain ⟨hxS, hxc, hxrest⟩ := hx
      refine ⟨hxS, ?_, hxrest⟩
      rintro rfl
      exact hxc (hS.distinct.eq_of_owner hxS hc howner)

/-- A maximal selection that is shorter than some selection leads to one that can be improved. -/
theorem MaximalSelection.improvable_of_lt (hM : MaximalSelection key owner l M)
    (hS : Selection key owner l S) (hlt : M.length < S.length) : Improvable key owner l := by
  induction hcard : (missing S M).card using Nat.strong_induction_on generalizing M with
  | _ n ih =>
    rcases hM.improvable_or_closer hS hlt with h | ⟨M', hM', hlength, hcloser⟩
    · exact h
    · exact ih _ (hcard ▸ hcloser) hM' (hlength ▸ hlt) rfl

/-- An exchange makes a selection longer. -/
theorem MaximalSelection.exists_longer (hM : MaximalSelection key owner l M) {a b c : α}
    (ha : a ∈ M) (hb : b ∈ l) (hc : c ∈ l) (hkb : key b = key a) (hoc : owner c = owner a)
    (hob : ∀ y ∈ M, owner y ≠ owner b) (hkc : ∀ y ∈ M, key y ≠ key c) :
    ∃ S, Selection key owner l S ∧ M.length < S.length := by
  obtain ⟨before, after, rfl⟩ := List.append_of_mem ha
  have hperm : (a :: (before ++ after)).Perm (before ++ a :: after) := List.perm_middle.symm
  obtain ⟨hapart, hrest⟩ := distinct_cons.1 (hM.distinct.perm hperm)
  have hmem : ∀ y ∈ before ++ after, y ∈ before ++ a :: after := fun y hy =>
    hperm.subset (List.mem_cons_of_mem a hy)
  refine ⟨b :: c :: (before ++ after), ⟨?_, ?_⟩, ?_⟩
  · intro y hy
    rcases List.mem_cons.1 hy with rfl | hy
    · exact hb
    rcases List.mem_cons.1 hy with rfl | hy
    · exact hc
    · exact hM.subset (hmem y hy)
  · refine distinct_cons.2 ⟨fun y hy => ?_, distinct_cons.2 ⟨fun y hy => ?_, hrest⟩⟩
    · rcases List.mem_cons.1 hy with rfl | hy
      · rw [hkb, hoc]
        exact ⟨hkc a ha, (hob a ha).symm⟩
      · rw [hkb]
        exact ⟨(hapart y hy).1, (hob y (hmem y hy)).symm⟩
    · rw [hoc]
      exact ⟨(hkc y (hmem y hy)).symm, (hapart y hy).2⟩
  · simp only [List.length_cons, List.length_append]
    omega

/-- In every order the scan finds as much as any selection, exactly if no maximal selection can be
improved by an exchange. -/
theorem greedy_longest_iff [DecidableEq κ] [DecidableEq ω] :
    (∀ l', l'.Perm l → ∀ S, Selection key owner l S → S.length ≤ (greedy key owner l').length) ↔
      ¬ Improvable key owner l := by
  constructor
  · rintro hlongest ⟨M, hM, a, ha, b, hb, c, hc, hkb, hoc, hob, hkc⟩
    obtain ⟨S, hS, hlt⟩ := hM.exists_longer ha hb hc hkb hoc hob hkc
    obtain ⟨l', hperm, hgreedy⟩ := hM.exists_order
    have hle := hlongest l' hperm S hS
    rw [hgreedy] at hle
    omega
  · intro hnone l' hperm S hS
    by_contra hlt
    push Not at hlt
    have hM : MaximalSelection key owner l' (greedy key owner l') := maximalSelection_greedy
    have hM' : MaximalSelection key owner l (greedy key owner l') :=
      ⟨⟨fun x hx => hperm.subset (hM.subset hx), hM.distinct⟩,
        fun x hx => hM.maximal x (hperm.symm.subset hx)⟩
    exact hnone (hM'.improvable_of_lt hS hlt)

end Kit
