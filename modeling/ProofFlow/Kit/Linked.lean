import ProofFlow.Kit.Log

/-!
# Linked lists of digests

Each entry of a list has a digest of its content and the digest of the entry before it; the first
one names a fixed start.  As long as the digests of different contents differ, an entry fixes
everything before it (`Linked.prefix_eq`).
-/

namespace Kit

variable {α δ τ : Type}

section Linked

variable (previous digest : α → δ)

/-- The digest of the last of the entries, or the one to start from. -/
def lastDigest (start : δ) (l : List α) : δ := (l.getLast?.map digest).getD start

/-- Every entry names the digest of the one before it, and the first one names `start`. -/
def Linked (start : δ) (l : List α) : Prop :=
  EachAfter (fun done a => previous a = lastDigest digest start done) [] l

end Linked

variable {previous digest : α → δ} {start : δ} {l l' : List α} {a a' : α}

@[simp] theorem lastDigest_nil : lastDigest digest start [] = start := rfl

@[simp] theorem lastDigest_append_singleton :
    lastDigest digest start (l ++ [a]) = digest a := by
  simp [lastDigest]

theorem lastDigest_cons : lastDigest digest start (a :: l) = lastDigest digest (digest a) l := by
  rcases List.eq_nil_or_concat l with rfl | ⟨l, b, rfl⟩
  · rfl
  · rw [List.concat_eq_append, ← List.cons_append, lastDigest_append_singleton,
      lastDigest_append_singleton]

theorem linked_cons : Linked previous digest start (a :: l) ↔
    previous a = start ∧ Linked previous digest (digest a) l := by
  unfold Linked
  rw [eachAfter_cons, lastDigest_nil]
  refine and_congr_right fun _ => ?_
  constructor
  · intro h done b rest heq
    have hb := h done b rest heq
    rwa [List.nil_append, List.singleton_append, lastDigest_cons] at hb
  · intro h done b rest heq
    have hb := h done b rest heq
    rwa [List.nil_append, List.singleton_append, lastDigest_cons]

theorem linked_append_singleton : Linked previous digest start (l ++ [a]) ↔
    Linked previous digest start l ∧ previous a = lastDigest digest start l := by
  constructor
  · intro h
    refine ⟨fun done b rest heq => ?_, ?_⟩
    · exact h done b (rest ++ [a]) (by rw [heq, List.append_assoc, List.cons_append])
    · simpa using h l a [] rfl
  · rintro ⟨hl, ha⟩ done b rest heq
    rcases List.eq_nil_or_concat rest with rfl | ⟨rest, c, rfl⟩
    · obtain ⟨rfl, hb⟩ := List.append_inj' heq rfl
      obtain rfl := List.head_eq_of_cons_eq hb
      rwa [List.nil_append]
    · rw [List.concat_eq_append, ← List.cons_append, ← List.append_assoc] at heq
      obtain ⟨rfl, -⟩ := List.append_inj' heq rfl
      exact hl done b rest rfl

theorem Linked.of_append (h : Linked previous digest start (l ++ l')) :
    Linked previous digest start l :=
  fun done b rest heq => h done b (rest ++ l') (by rw [heq, List.append_assoc, List.cons_append])

/-- Lists of one length whose last entries have one digest have the same contents, if equal digests
mean equal contents and a content has the digest before it. -/
theorem Linked.contents_eq {content : α → τ}
    (hdigest : ∀ a ∈ l, ∀ a' ∈ l', digest a = digest a' → content a = content a')
    (hcontent : ∀ a ∈ l, ∀ a' ∈ l', content a = content a' → previous a = previous a')
    (hl : Linked previous digest start l) (hl' : Linked previous digest start l')
    (hlength : l.length = l'.length)
    (hlast : lastDigest digest start l = lastDigest digest start l') :
    l.map content = l'.map content := by
  induction l using List.reverseRecOn generalizing l' with
  | nil =>
    obtain rfl := List.length_eq_zero_iff.1 hlength.symm
    rfl
  | append_singleton l a ih =>
    rcases List.eq_nil_or_concat l' with rfl | ⟨l', a', rfl⟩
    · simp at hlength
    · rw [List.concat_eq_append] at *
      rw [lastDigest_append_singleton, lastDigest_append_singleton] at hlast
      obtain ⟨hl, ha⟩ := linked_append_singleton.1 hl
      obtain ⟨hl', ha'⟩ := linked_append_singleton.1 hl'
      have hsame : content a = content a' := hdigest a (by simp) a' (by simp) hlast
      have hprevious : previous a = previous a' := hcontent a (by simp) a' (by simp) hsame
      have hbefore : l.map content = l'.map content := by
        refine ih (fun b hb b' hb' => hdigest b ?_ b' ?_) (fun b hb b' hb' => hcontent b ?_ b' ?_)
          hl hl'
          (by simpa using hlength) ?_
        · exact List.mem_append_left _ hb
        · exact List.mem_append_left _ hb'
        · exact List.mem_append_left _ hb
        · exact List.mem_append_left _ hb'
        · rw [← ha, ← ha', hprevious]
      rw [List.map_append, List.map_append, hbefore, List.map_singleton, List.map_singleton, hsame]

/-- An entry of a numbered list fixes the contents up to itself: another list with its digest has
the same ones there. -/
theorem Linked.prefix_eq {content : α → τ} {number : α → ℕ} {done rest done' rest' : List α}
    (hdigest : ∀ b ∈ done ++ a :: rest, ∀ b' ∈ done' ++ a' :: rest',
      digest b = digest b' → content b = content b')
    (hcontent : ∀ b ∈ done ++ a :: rest, ∀ b' ∈ done' ++ a' :: rest', content b = content b' →
      number b = number b' ∧ previous b = previous b')
    (hl : Linked previous digest start (done ++ a :: rest))
    (hl' : Linked previous digest start (done' ++ a' :: rest'))
    (hnumber : EachAfter (fun done b => number b = done.length + 1) [] (done ++ a :: rest))
    (hnumber' : EachAfter (fun done b => number b = done.length + 1) [] (done' ++ a' :: rest'))
    (h : digest a = digest a') : (done ++ [a]).map content = (done' ++ [a']).map content := by
  have hsame : content a = content a' := hdigest a (by simp) a' (by simp) h
  have hlength : done.length = done'.length := by
    have hn : number a = ([] ++ done).length + 1 := hnumber done a rest rfl
    have hn' : number a' = ([] ++ done').length + 1 := hnumber' done' a' rest' rfl
    have heq : number a = number a' := (hcontent a (by simp) a' (by simp) hsame).1
    rw [List.nil_append] at hn hn'
    omega
  have hsub {done rest : List α} {a b : α} (hb : b ∈ done ++ [a]) : b ∈ done ++ a :: rest := by
    simp only [List.mem_append, List.mem_cons, List.not_mem_nil, or_false] at hb ⊢
    exact hb.imp_right Or.inl
  have hsplit (done rest : List α) (a : α) : done ++ a :: rest = done ++ [a] ++ rest := by simp
  rw [hsplit] at hl hl'
  refine hl.of_append.contents_eq (fun b hb b' hb' => hdigest b (hsub hb) b' (hsub hb'))
    (fun b hb b' hb' heq => (hcontent b (hsub hb) b' (hsub hb') heq).2) hl'.of_append ?_ ?_
  · simp [hlength]
  · rw [lastDigest_append_singleton, lastDigest_append_singleton, h]

end Kit
