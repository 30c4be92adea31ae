import Mathlib.Data.Finset.Sort
import Mathlib.Data.List.MinMax

/-!
# One element of each group

The elements of a list are grouped by a key, and one element is picked from each group, in the order
of the keys.  The picked elements are one for each key (`map_key_pickEach`), and as long as the pick
does not look at the order inside a group, the outcome does not depend on the order of the list
(`pickEach_perm`).
-/

namespace Kit

variable {α κ : Type}

/-- A list that is put together from lists with different keys has no element twice. -/
theorem nodup_flatMap_of_key {β : Type} {l : List α} {f : α → List β} (key : α → κ) (keyOf : β → κ)
    (hl : (l.map key).Nodup) (hf : ∀ a ∈ l, (f a).Nodup)
    (hkey : ∀ a ∈ l, ∀ b ∈ f a, keyOf b = key a) :
    (l.flatMap f).Nodup := by
  refine List.nodup_flatMap.2 ⟨hf, ?_⟩
  refine (List.pairwise_map.1 hl).imp_of_mem fun {a a'} ha ha' hne => List.disjoint_left.2 ?_
  intro b hb hb'
  exact hne ((hkey a ha b hb).symm.trans (hkey a' ha' b hb'))

section Grouping

variable [LinearOrder κ] (key : α → κ) (pick : List α → Option α)

/-- The elements of one group. -/
def group (l : List α) (k : κ) : List α := l.filter fun a => key a = k

/-- The keys of a list in their order. -/
def sortedKeys (l : List α) : List κ := (l.map key).toFinset.sort (· ≤ ·)

/-- What is picked from each group. -/
def pickEach (l : List α) : List α := (sortedKeys key l).filterMap fun k => pick (group key l k)

/-- A pick takes an element of the group, and takes one from every group. -/
structure Picks : Prop where
  mem : ∀ l a, pick l = some a → a ∈ l
  some_of_ne_nil : ∀ l, l ≠ [] → ∃ a, pick l = some a

variable {key pick} {l l' : List α} {a : α} {k : κ}

theorem mem_group : a ∈ group key l k ↔ a ∈ l ∧ key a = k := by
  simp [group]

theorem mem_sortedKeys : k ∈ sortedKeys key l ↔ ∃ a ∈ l, key a = k := by
  simp [sortedKeys]

theorem nodup_sortedKeys : (sortedKeys key l).Nodup := Finset.sort_nodup _ _

theorem group_ne_nil (h : k ∈ sortedKeys key l) : group key l k ≠ [] := by
  obtain ⟨a, ha, hk⟩ := mem_sortedKeys.1 h
  exact List.ne_nil_of_mem (mem_group.2 ⟨ha, hk⟩)

/-- Membership depends on the element's own group only. -/
theorem mem_pickEach (hpick : Picks pick) :
    a ∈ pickEach key pick l ↔ pick (group key l (key a)) = some a := by
  unfold pickEach
  rw [List.mem_filterMap]
  constructor
  · rintro ⟨k, -, hk⟩
    obtain ⟨-, rfl⟩ := mem_group.1 (hpick.mem _ _ hk)
    exact hk
  · intro h
    obtain ⟨ha, -⟩ := mem_group.1 (hpick.mem _ _ h)
    exact ⟨key a, mem_sortedKeys.2 ⟨a, ha, rfl⟩, h⟩

theorem mem_of_mem_pickEach (hpick : Picks pick) (h : a ∈ pickEach key pick l) : a ∈ l :=
  (mem_group.1 (hpick.mem _ _ ((mem_pickEach hpick).1 h))).1

/-- The picked elements have the keys of the list, each once. -/
theorem map_key_pickEach (hpick : Picks pick) :
    (pickEach key pick l).map key = sortedKeys key l := by
  have hone : ∀ ks : List κ, (∀ k ∈ ks, k ∈ sortedKeys key l) →
      (ks.filterMap fun k => pick (group key l k)).map key = ks := by
    intro ks
    induction ks with
    | nil => exact fun _ => rfl
    | cons k ks ih =>
      intro hks
      obtain ⟨hk, hks⟩ := List.forall_mem_cons.1 hks
      obtain ⟨a, ha⟩ := hpick.some_of_ne_nil _ (group_ne_nil hk)
      have hkey := (mem_group.1 (hpick.mem _ _ ha)).2
      have hcons : (k :: ks).filterMap (fun k => pick (group key l k)) =
          a :: ks.filterMap fun k => pick (group key l k) := List.filterMap_cons_some ha
      rw [hcons, List.map_cons, ih hks, hkey]
  exact hone _ fun k hk => hk

theorem nodup_keys_pickEach (hpick : Picks pick) : ((pickEach key pick l).map key).Nodup := by
  rw [map_key_pickEach hpick]
  exact nodup_sortedKeys

/-- Exactly one element is picked for a key of the list. -/
theorem existsUnique_mem_pickEach (hpick : Picks pick) (h : ∃ a ∈ l, key a = k) :
    ∃! a, a ∈ pickEach key pick l ∧ key a = k := by
  obtain ⟨a, ha⟩ := hpick.some_of_ne_nil _ (group_ne_nil (mem_sortedKeys.2 h))
  obtain ⟨-, rfl⟩ := mem_group.1 (hpick.mem _ _ ha)
  refine ⟨a, ⟨(mem_pickEach hpick).2 ha, rfl⟩, ?_⟩
  rintro b ⟨hb, hkey⟩
  rw [mem_pickEach hpick, hkey, ha] at hb
  exact (Option.some.inj hb).symm

/-- The order of the list does not matter if it does not matter within a group. -/
theorem pickEach_perm (hperm : l'.Perm l)
    (hgroup : ∀ k, pick (group key l' k) = pick (group key l k)) :
    pickEach key pick l' = pickEach key pick l := by
  have hkeys : sortedKeys key l' = sortedKeys key l := by
    unfold sortedKeys
    rw [List.toFinset_eq_of_perm _ _ (hperm.map key)]
  unfold pickEach
  rw [hkeys]
  exact List.filterMap_congr fun k _ => hgroup k

theorem group_perm (hperm : l'.Perm l) (k : κ) : (group key l' k).Perm (group key l k) :=
  hperm.filter _

end Grouping

/-! ## Picking by preference -/

section Preference

/-- The first of the lists that has an element, as `a or b or c`. -/
def firstNonempty (a b c : List α) : List α := if a ≠ [] then a else if b ≠ [] then b else c

variable {a b c : List α} {x : α}

theorem firstNonempty_of_mem (h : x ∈ a) : firstNonempty a b c = a :=
  if_pos (List.ne_nil_of_mem h)

theorem firstNonempty_ne_nil (h : c ≠ []) : firstNonempty a b c ≠ [] := by
  unfold firstNonempty
  split_ifs with ha hb
  · exact ha
  · exact hb
  · exact h

theorem firstNonempty_perm {a' b' c' : List α} (ha : a'.Perm a) (hb : b'.Perm b) (hc : c'.Perm c) :
    (firstNonempty a' b' c').Perm (firstNonempty a b c) := by
  have hnil {l l' : List α} (h : l'.Perm l) : l' ≠ [] ↔ l ≠ [] := by
    rw [← List.length_pos_iff, h.length_eq, List.length_pos_iff]
  unfold firstNonempty
  by_cases h₁ : a = []
  · rw [if_neg (fun h => (hnil ha).1 h h₁), if_neg (not_not.2 h₁)]
    by_cases h₂ : b = []
    · rw [if_neg (fun h => (hnil hb).1 h h₂), if_neg (not_not.2 h₂)]
      exact hc
    · rw [if_pos ((hnil hb).2 h₂), if_pos h₂]
      exact hb
  · rw [if_pos ((hnil ha).2 h₁), if_pos h₁]
    exact ha

/-- The largest element does not depend on the order if no two elements are of one size. -/
theorem argmax_perm {f : α → ℕ} {l l' : List α} (hperm : l'.Perm l)
    (hinj : ∀ x ∈ l, ∀ y ∈ l, f x = f y → x = y) : l'.argmax f = l.argmax f := by
  cases hmax : l.argmax f with
  | none =>
    rw [List.argmax_eq_none] at hmax ⊢
    subst hmax
    exact hperm.eq_nil
  | some m =>
    have hm := List.argmax_mem hmax
    cases hmax' : l'.argmax f with
    | none =>
      rw [List.argmax_eq_none] at hmax'
      subst hmax'
      exact absurd (hperm.symm.eq_nil ▸ hm) List.not_mem_nil
    | some m' =>
      have hm' := hperm.mem_iff.1 (List.argmax_mem hmax')
      have hle := List.le_of_mem_argmax hm' hmax
      have hle' := List.le_of_mem_argmax (hperm.mem_iff.2 hm) hmax'
      rw [hinj m' hm' m hm (le_antisymm hle hle')]

end Preference

end Kit
