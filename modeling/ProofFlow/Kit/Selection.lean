import Mathlib.Data.List.Sort
import Mathlib.Data.List.Nodup
import ProofFlow.Kit.Flow

/-!
# Greedy selection

A loop goes over candidates and keeps one unless its key or its owner was already kept.  The loop
body may fail.  Whatever the order of the candidates, what is kept is distinct in key and in owner,
so it is no longer than the list of owners it draws on, and no longer than a list of tokens each of
which speaks for one key.
-/

namespace Kit

variable {ε α β κ ω σ : Type}

/-! ## Loops that may fail -/

/-- An invariant of the loop body holds after the loop. -/
theorem foldlM_invariant {f : σ → α → Except ε σ} {l : List α} {s s' : σ} (I : σ → Prop)
    (init : I s) (step : ∀ a ∈ l, ∀ s s', I s → f s a = .ok s' → I s')
    (h : l.foldlM f s = .ok s') : I s' := by
  induction l generalizing s with
  | nil =>
    obtain rfl := Except.ok.inj h
    exact init
  | cons a l ih =>
    rw [List.foldlM_cons] at h
    obtain ⟨m, hm, h⟩ := bind_eq_ok.1 h
    exact ih (step a List.mem_cons_self s m init hm)
      (fun b hb => step b (List.mem_cons_of_mem a hb)) h

/-- What the body establishes at one candidate and keeps at the others holds after the loop. -/
theorem foldlM_establishes {f : σ → α → Except ε σ} {l : List α} {s s' : σ} {a : α} (I : σ → Prop)
    (ha : a ∈ l) (establish : ∀ s s', f s a = .ok s' → I s')
    (keep : ∀ b ∈ l, ∀ s s', I s → f s b = .ok s' → I s') (h : l.foldlM f s = .ok s') : I s' := by
  obtain ⟨before, after, rfl⟩ := List.append_of_mem ha
  rw [List.foldlM_append] at h
  obtain ⟨m, -, h⟩ := bind_eq_ok.1 h
  rw [List.foldlM_cons] at h
  obtain ⟨m', hm', h⟩ := bind_eq_ok.1 h
  exact foldlM_invariant I (establish m m' hm') (fun b hb => keep b (by simp [hb])) h

/-- A loop that fails does so in the body, at one of the candidates. -/
theorem foldlM_eq_error {f : σ → α → Except ε σ} {l : List α} {s : σ} {e : ε}
    (h : l.foldlM f s = .error e) :
    ∃ done a rest s', l = done ++ a :: rest ∧ done.foldlM f s = .ok s' ∧ f s' a = .error e := by
  induction l generalizing s with
  | nil => cases h
  | cons a l ih =>
    rw [List.foldlM_cons] at h
    rcases bind_eq_error.1 h with h | ⟨m, hm, h⟩
    · exact ⟨[], a, l, s, rfl, rfl, h⟩
    · obtain ⟨done, b, rest, s', rfl, hd, hb⟩ := ih h
      refine ⟨a :: done, b, rest, s', rfl, ?_, hb⟩
      rw [List.foldlM_cons]
      exact bind_eq_ok.2 ⟨m, hm, hd⟩

/-! ## Distinct candidates -/

section Distinct

variable (key : α → κ) (owner : α → ω)

/-- No two elements share a key or an owner. -/
def Distinct (l : List α) : Prop := l.Pairwise fun a b => key a ≠ key b ∧ owner a ≠ owner b

/-- Keep `a` unless its key or its owner is taken. -/
def enroll [DecidableEq κ] [DecidableEq ω] (kept : List α) (a : α) : List α :=
  if (∃ b ∈ kept, key b = key a) ∨ ∃ b ∈ kept, owner b = owner a then kept else kept ++ [a]

end Distinct

variable {key : α → κ} {owner : α → ω}

theorem mem_of_mem_enroll [DecidableEq κ] [DecidableEq ω] {kept : List α} {a b : α}
    (h : b ∈ enroll key owner kept a) : b ∈ kept ∨ b = a := by
  unfold enroll at h
  split_ifs at h
  · exact .inl h
  · simpa using h

theorem subset_enroll [DecidableEq κ] [DecidableEq ω] {kept : List α} {a b : α} (h : b ∈ kept) :
    b ∈ enroll key owner kept a := by
  unfold enroll
  split_ifs
  · exact h
  · exact List.mem_append_left _ h

/-- After `a` was considered, its key or its owner is taken. -/
theorem exists_mem_enroll [DecidableEq κ] [DecidableEq ω] (kept : List α) (a : α) :
    ∃ b ∈ enroll key owner kept a, key b = key a ∨ owner b = owner a := by
  unfold enroll
  split_ifs with h
  · rcases h with ⟨b, hb, h⟩ | ⟨b, hb, h⟩
    · exact ⟨b, hb, .inl h⟩
    · exact ⟨b, hb, .inr h⟩
  · exact ⟨a, by simp, .inl rfl⟩

namespace Distinct

theorem nil : Distinct key owner [] := List.Pairwise.nil

theorem enroll [DecidableEq κ] [DecidableEq ω] {kept : List α} (h : Distinct key owner kept)
    (a : α) : Distinct key owner (enroll key owner kept a) := by
  unfold Kit.enroll
  split_ifs with hc
  · exact h
  · push Not at hc
    refine List.pairwise_append.2 ⟨h, List.pairwise_singleton _ _, ?_⟩
    intro b hb c hc'
    obtain rfl := List.mem_singleton.1 hc'
    exact ⟨hc.1 b hb, hc.2 b hb⟩

theorem perm {l l' : List α} (h : Distinct key owner l) (hp : l'.Perm l) :
    Distinct key owner l' :=
  (hp.pairwise_iff fun hab => ⟨Ne.symm hab.1, Ne.symm hab.2⟩).2 h

/-- Elements with distinct digests have distinct keys. -/
theorem of_digest {digest : κ → β} {l : List α} (h : Distinct (fun a => digest (key a)) owner l) :
    Distinct key owner l :=
  h.imp fun hab => ⟨fun heq => hab.1 (congrArg digest heq), hab.2⟩

theorem nodup_keys {l : List α} (h : Distinct key owner l) : (l.map key).Nodup :=
  List.pairwise_map.2 (h.imp And.left)

theorem nodup_owners {l : List α} (h : Distinct key owner l) : (l.map owner).Nodup :=
  List.pairwise_map.2 (h.imp And.right)

theorem nodup {l : List α} (h : Distinct key owner l) : l.Nodup := h.nodup_keys.of_map

/-- There are no more elements than owners to choose from. -/
theorem length_le_owners {l : List α} (h : Distinct key owner l) {owners : List ω}
    (hsub : ∀ a ∈ l, owner a ∈ owners) : l.length ≤ owners.length := by
  rw [← List.length_map owner]
  refine (List.subperm_of_subset h.nodup_owners ?_).length_le
  intro w hw
  obtain ⟨a, ha, rfl⟩ := List.mem_map.1 hw
  exact hsub a ha

/-- If every element has a token and a token speaks for one key, there are no more elements than
tokens. -/
theorem length_le_tokens {l : List α} (h : Distinct key owner l) {tokens : List β}
    {vouches : β → α → Prop} (hall : ∀ a ∈ l, ∃ t ∈ tokens, vouches t a)
    (hone : ∀ t ∈ tokens, ∀ a ∈ l, ∀ b ∈ l, vouches t a → vouches t b → key a = key b) :
    l.length ≤ tokens.length := by
  rcases isEmpty_or_nonempty β with hempty | hnonempty
  · have hl : l = [] := List.eq_nil_iff_forall_not_mem.2 fun a ha => hempty.elim (hall a ha).choose
    simp [hl]
  choose! token hmem hvouch using hall
  have hnodup : (l.map token).Nodup := by
    refine List.pairwise_map.2 (h.imp_of_mem ?_)
    intro a b ha hb hab heq
    exact hab.1 (hone (token a) (hmem a ha) a ha b hb (hvouch a ha) (heq ▸ hvouch b hb))
  rw [← List.length_map token]
  refine (List.subperm_of_subset hnodup ?_).length_le
  intro t ht
  obtain ⟨a, ha, rfl⟩ := List.mem_map.1 ht
  exact hmem a ha

end Distinct

/-! ## Dictionaries whose values carry their key -/

section Assign

variable [DecidableEq κ] {key : α → κ}

/-- `d[key a] = a`. -/
def assign (key : α → κ) (d : List α) (a : α) : List α := d.filter (fun b => key b ≠ key a) ++ [a]

theorem mem_of_mem_assign {d : List α} {a b : α} (h : b ∈ assign key d a) : b ∈ d ∨ b = a := by
  rcases List.mem_append.1 h with h | h
  · exact .inl (List.mem_of_mem_filter h)
  · exact .inr (List.mem_singleton.1 h)

theorem mem_assign_self (d : List α) (a : α) : a ∈ assign key d a :=
  List.mem_append_right _ List.mem_cons_self

/-- Assigning an element keeps the others when equal keys mean equal elements. -/
theorem mem_assign_of_mem {d : List α} {a b : α} (h : b ∈ d) (hinj : key b = key a → b = a) :
    b ∈ assign key d a := by
  by_cases hk : key b = key a
  · rw [hinj hk]
    exact mem_assign_self d a
  · exact List.mem_append_left _ (List.mem_filter.2 ⟨h, by simpa using hk⟩)

/-- The loop that assigns the elements with `p`: it ends with those and the ones it started from. -/
theorem mem_foldl_assign {p : α → Bool} {d l : List α} {a : α}
    (hinj : ∀ b ∈ d ++ l, ∀ c ∈ d ++ l, key b = key c → b = c) :
    a ∈ l.foldl
      (fun d b => if p b then assign key d b else d) d ↔ a ∈ d ∨ (a ∈ l ∧ p a = true) := by
  induction l generalizing d with
  | nil => simp
  | cons b l ih =>
    rw [List.foldl_cons]
    by_cases hp : p b
    · have hsub : ∀ c ∈ assign key d b ++ l, c ∈ d ++ b :: l := by
        intro c hc
        rcases List.mem_append.1 hc with hc | hc
        · rcases mem_of_mem_assign hc with hc | rfl <;> simp [*]
        · simp [hc]
      rw [if_pos hp, ih fun c hc c' hc' => hinj c (hsub c hc) c' (hsub c' hc')]
      constructor
      · rintro (h | ⟨h, hpa⟩)
        · rcases mem_of_mem_assign h with h | rfl
          · exact .inl h
          · exact .inr ⟨List.mem_cons_self, hp⟩
        · exact .inr ⟨List.mem_cons_of_mem b h, hpa⟩
      · rintro (h | ⟨h, hpa⟩)
        · exact .inl (mem_assign_of_mem h (hinj a (by simp [h]) b (by simp)))
        · rcases List.mem_cons.1 h with rfl | h
          · exact .inl (mem_assign_self d a)
          · exact .inr ⟨h, hpa⟩
    · have hsub : ∀ c ∈ d ++ l, c ∈ d ++ b :: l := by
        intro c hc
        rcases List.mem_append.1 hc with hc | hc <;> simp [hc]
      rw [if_neg hp, ih fun c hc c' hc' => hinj c (hsub c hc) c' (hsub c' hc')]
      constructor
      · rintro (h | ⟨h, hpa⟩)
        · exact .inl h
        · exact .inr ⟨List.mem_cons_of_mem b h, hpa⟩
      · rintro (h | ⟨h, hpa⟩)
        · exact .inl h
        · rcases List.mem_cons.1 h with rfl | h
          · exact absurd hpa hp
          · exact .inr ⟨h, hpa⟩

/-- Assigning under a key keeps the keys apart. -/
theorem nodup_keys_assign {d : List α} (h : (d.map key).Nodup) (a : α) :
    ((assign key d a).map key).Nodup := by
  unfold assign
  rw [List.map_append, List.nodup_append]
  refine ⟨h.sublist (List.filter_sublist.map key), by simp, ?_⟩
  intro k hk k' hk' heq
  obtain ⟨b, hb, rfl⟩ := List.mem_map.1 hk
  obtain rfl : k' = key a := by simpa using hk'
  simpa [heq] using (List.mem_filter.1 hb).2

theorem nodup_keys_foldl_assign {p : α → Bool} {d : List α} (h : (d.map key).Nodup) (l : List α) :
    ((l.foldl (fun d b => if p b then assign key d b else d) d).map key).Nodup := by
  induction l generalizing d with
  | nil => exact h
  | cons a l ih =>
    rw [List.foldl_cons]
    split
    · exact ih (nodup_keys_assign h a)
    · exact ih h

end Assign

end Kit
