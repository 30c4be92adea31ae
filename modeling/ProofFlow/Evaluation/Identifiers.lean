import ProofFlow.Evaluation.Produce
import ProofFlow.Kit.Framing

/-!
# Identifiers and digests of a produced ledger

A digest, the genesis hash and the identifier of a ledger have the patterns of the schema, and the
identifiers of two runs are the same only if the runs are: the parts that a hyphen separates have no
hyphen themselves.
-/

namespace ProofFlow.Evaluation

open Kit

/-! ## Patterns -/

theorem unterminated_eq_self {s : PyStr} (h : ∀ c ∈ s, c.val ≠ 10) : unterminated s = s := by
  refine if_neg fun hlast => ?_
  exact h 10 (List.mem_of_getLast? hlast) rfl

theorem isDigitPoint_toCodePoint (c : Char) : isDigitPoint (toCodePoint c) = isDigit c := rfl

theorem matchesDigest_of_isSha256 {s : Str} (h : isSha256 s = true) :
    matchesDigest (toPyStr s) = true := by
  simp only [isSha256, isHexOfLength, Bool.and_eq_true, List.isPrefixOf_iff_prefix,
    decide_eq_true_eq, List.all_eq_true] at h
  obtain ⟨⟨t, rfl⟩, hlength, hhex⟩ := h
  have hdrop : (lit "sha256:").drop 7 = [] := by decide
  rw [List.drop_append_of_le_length (by decide), hdrop, List.nil_append] at hlength hhex
  have hfront : ∀ c ∈ toPyStr (lit "sha256:"), c.val ≠ 10 := by
    have hall : (pyLit "sha256:").all (fun c => c.val != 10) = true := by decide
    simpa [pyLit] using hall
  have hback : ∀ c ∈ toPyStr t, c.val ≠ 10 := by
    intro c hc
    obtain ⟨d, hd, rfl⟩ := List.mem_map.1 hc
    have hlower := hhex d hd
    simp only [isLowerHex, isDigit, Bool.or_eq_true, Bool.and_eq_true, decide_eq_true_eq] at hlower
    rw [toCodePoint_val]
    omega
  have hline :
      unterminated (toPyStr (lit "sha256:") ++ toPyStr t) = toPyStr (lit "sha256:") ++ toPyStr t :=
    unterminated_eq_self fun c hc => (List.mem_append.1 hc).elim (hfront c) (hback c)
  have htail : (toPyStr (lit "sha256:") ++ toPyStr t).drop 7 = toPyStr t :=
    List.drop_left' (by decide)
  have hrun : isHexRun 64 (toPyStr t) = true := by
    unfold isHexRun
    rw [Bool.and_eq_true, decide_eq_true_eq, length_toPyStr]
    refine ⟨hlength, List.all_eq_true.2 fun c hc => ?_⟩
    obtain ⟨d, hd, rfl⟩ := List.mem_map.1 hc
    exact hhex d hd
  rw [toPyStr_append, matchesDigest, hline, htail, hrun, Bool.and_true]
  exact List.isPrefixOf_iff_prefix.2 (List.prefix_append _ _)

theorem matchesDigest_genesis : matchesDigest genesisEntrySha256 = true := by decide +kernel

theorem matchesDigest_canonicalDigest {V : Verifier} {v : Doc} {digest : PyStr}
    (h : V.canonicalDigest v = .ok digest) : matchesDigest digest = true := by
  unfold Verifier.canonicalDigest at h
  split_ifs at h
  split at h
  · obtain rfl := Except.ok.inj h
    exact matchesDigest_of_isSha256 (sha256Bytes V.platform _).property
  · cases h

/-- A character that `^[A-Za-z0-9][A-Za-z0-9_.:-]{0,127}$` allows everywhere but in front. -/
def isNamePoint (c : CodePoint) : Bool :=
  isUpperPoint c || isLowerPoint c || isDigitPoint c || c == 95 || c == 46 || c == 58 || c == 45

theorem matchesIdentifier_cons {c : CodePoint} {s : PyStr} (hc : isLowerPoint c = true)
    (hlength : s.length ≤ 127) (hs : ∀ d ∈ s, isNamePoint d = true) :
    matchesIdentifier (c :: s) = true := by
  have hline (d : CodePoint) (hd : isNamePoint d = true) : d.val ≠ 10 := by
    rintro h10
    obtain rfl : d = 10 := Fin.ext h10
    revert hd
    decide
  have hfirst : isNamePoint c = true := by simp [isNamePoint, hc]
  have hself : unterminated (c :: s) = c :: s :=
    unterminated_eq_self (List.forall_mem_cons.2 ⟨hline c hfirst, fun d hd => hline d (hs d hd)⟩)
  simp only [matchesIdentifier, hself, hc, Bool.or_true, Bool.true_or, Bool.true_and,
    decide_eq_true hlength]
  exact List.all_eq_true.2 hs

theorem isNamePoint_digit {c : Char} (h : isDigit c = true) :
    isNamePoint (toCodePoint c) = true := by
  simp [isNamePoint, isDigitPoint_toCodePoint, h]

theorem matchesIdentifier_ledgerId (t : UtcTime) :
    matchesIdentifier (pyLit "proofflow-ledger-" ++ toPyStr (stamp t)) = true := by
  have hstamp : ∀ c ∈ toPyStr (stamp t), isNamePoint c = true := by
    intro c hc
    obtain ⟨d, hd, rfl⟩ := List.mem_map.1 hc
    simp only [stamp, List.mem_append, List.mem_cons, List.not_mem_nil, or_false] at hd
    rcases hd with ((hd | hd) | hd) | rfl | ((hd | hd) | hd) | rfl
    all_goals first
      | exact isNamePoint_digit (isDigit_of_mem_paddedText hd)
      | decide
  have hfront : (pyLit "roofflow-ledger-").all isNamePoint = true := by decide
  have hsplit : pyLit "proofflow-ledger-" = 112 :: pyLit "roofflow-ledger-" := by decide
  rw [hsplit, List.cons_append]
  refine matchesIdentifier_cons (by decide) ?_ fun c hc => ?_
  · have hlength : (pyLit "roofflow-ledger-").length = 16 := by decide
    simp only [List.length_append, hlength, length_toPyStr, stamp, length_paddedText,
      List.length_cons, List.length_nil]
    omega
  · rcases List.mem_append.1 hc with hc | hc
    · exact List.all_eq_true.1 hfront c hc
    · exact hstamp c hc

/-! ## Texts -/

/-- A string whose characters are ASCII has no surrogate. -/
theorem isText_of_ascii {s : PyStr} (h : ∀ c ∈ s, c.val < 128) : ProofFlow.isText s = true := by
  refine List.all_eq_true.2 fun c hc => decide_eq_true (.inl ?_)
  have hlt := h c hc
  omega

theorem isText_of_unterminated {s : PyStr} (h : ∀ c ∈ unterminated s, c.val < 128) :
    ProofFlow.isText s = true := by
  refine isText_of_ascii fun c hc => ?_
  unfold unterminated at h
  split_ifs at h with hlast
  · have hne : s ≠ [] := List.ne_nil_of_mem hc
    rw [List.getLast?_eq_some_getLast hne, Option.some.injEq] at hlast
    rw [← List.dropLast_append_getLast hne, hlast] at hc
    rcases List.mem_append.1 hc with hc | hc
    · exact h c hc
    · rw [List.mem_singleton.1 hc]
      decide
  · exact h c hc

theorem isText_pyLit (s : String) : ProofFlow.isText (pyLit s) = true := isText_toPyStr _

theorem isText_of_matchesCode {s : PyStr} (h : matchesCode s = true) :
    ProofFlow.isText s = true := by
  simp only [matchesCode, Bool.and_eq_true, List.all_eq_true] at h
  refine isText_of_unterminated fun c hc => ?_
  have hpoint := h.2 c hc
  simp only [isUpperPoint, isDigitPoint, Bool.or_eq_true, Bool.and_eq_true, decide_eq_true_eq,
    beq_iff_eq] at hpoint
  rcases hpoint with (hpoint | hpoint) | rfl <;> omega

theorem isText_of_matchesScenarioId {s : PyStr} (h : matchesScenarioId s = true) :
    ProofFlow.isText s = true := by
  simp only [matchesScenarioId, Bool.and_eq_true, List.all_eq_true] at h
  refine isText_of_unterminated fun c hc => ?_
  have hpoint := h.2 c hc
  simp only [isLowerPoint, isDigitPoint, Bool.or_eq_true, Bool.and_eq_true, decide_eq_true_eq,
    beq_iff_eq] at hpoint
  rcases hpoint with (hpoint | hpoint) | rfl <;> omega

theorem isText_of_matchesIdentifier {s : PyStr} (h : matchesIdentifier s = true) :
    ProofFlow.isText s = true := by
  refine isText_of_unterminated fun c hc => ?_
  have hpoint : isNamePoint c = true := by
    unfold matchesIdentifier at h
    split at h
    · cases h
    · rename_i d rest heq
      rw [heq] at hc
      simp only [Bool.and_eq_true, List.all_eq_true] at h
      rcases List.mem_cons.1 hc with rfl | hc
      · obtain ⟨⟨hfirst, -⟩, -⟩ := h
        simp only [isNamePoint, hfirst, Bool.true_or]
      · exact h.2 c hc
  simp only [isNamePoint, isUpperPoint, isLowerPoint, isDigitPoint, Bool.or_eq_true,
    Bool.and_eq_true, decide_eq_true_eq, beq_iff_eq] at hpoint
  rcases hpoint with (((((hpoint | hpoint) | hpoint) | rfl) | rfl) | rfl) | rfl <;> omega

theorem ascii_of_isHexRun {n : ℕ} {s : PyStr} (h : isHexRun n s = true) : ∀ c ∈ s, c.val < 128 := by
  intro c hc
  simp only [isHexRun, Bool.and_eq_true, List.all_eq_true] at h
  have hpoint := h.2 c hc
  simp only [isDigitPoint, Bool.or_eq_true, Bool.and_eq_true, decide_eq_true_eq] at hpoint
  omega

theorem isText_of_matchesCommit {s : PyStr} (h : matchesCommit s = true) :
    ProofFlow.isText s = true :=
  isText_of_unterminated (ascii_of_isHexRun h)

theorem isText_of_matchesDigest {s : PyStr} (h : matchesDigest s = true) :
    ProofFlow.isText s = true := by
  simp only [matchesDigest, Bool.and_eq_true, List.isPrefixOf_iff_prefix] at h
  obtain ⟨⟨t, ht⟩, hhex⟩ := h
  have hdrop : (unterminated s).drop 7 = t := by
    rw [← ht]
    exact List.drop_left' (by decide)
  refine isText_of_unterminated fun c hc => ?_
  rw [← ht] at hc
  rcases List.mem_append.1 hc with hc | hc
  · have hall : (pyLit "sha256:").all (fun c => decide (c.val < 128)) = true := by decide
    exact of_decide_eq_true (List.all_eq_true.1 hall c hc)
  · exact ascii_of_isHexRun (hdrop ▸ hhex) c hc

theorem length_le_of_matchesIdentifier {s : PyStr} (h : matchesIdentifier s = true) :
    s.length ≤ 129 := by
  have hline : (unterminated s).length ≤ 128 := by
    unfold matchesIdentifier at h
    split at h
    · cases h
    · rename_i c rest heq
      simp only [Bool.and_eq_true, decide_eq_true_eq] at h
      rw [heq, List.length_cons]
      exact Nat.succ_le_succ h.1.2
  unfold unterminated at hline
  split_ifs at hline
  · rw [List.length_dropLast] at hline
    omega
  · omega

/-! ## Names of runs -/

theorem hyphen_not_mem_text (a : Arm) : (45 : CodePoint) ∉ pyLit a.text := by
  cases a <;> decide

theorem hyphen_not_mem_scenarioId {s : PyStr} (h : matchesScenarioId s = true) :
    (45 : CodePoint) ∉ s := by
  intro hmem
  simp only [matchesScenarioId, Bool.and_eq_true, List.all_eq_true] at h
  have hkeep : (45 : CodePoint) ∈ unterminated s := by
    unfold unterminated
    split_ifs with hlast
    · have hne : s ≠ [] := List.ne_nil_of_mem hmem
      have hten : s.getLast hne = 10 := by
        rw [List.getLast?_eq_some_getLast hne] at hlast
        exact Option.some.inj hlast
      rw [← List.dropLast_append_getLast hne, hten] at hmem
      have hten : (45 : CodePoint) ∉ [10] := by decide
      exact (List.mem_append.1 hmem).resolve_right hten
    · exact hmem
  have hpoint := h.2 _ hkeep
  revert hpoint
  decide

theorem hyphen_not_mem_decimal (n : ℕ) : (45 : CodePoint) ∉ toPyStr (decimalText n) := by
  intro hmem
  obtain ⟨c, hc, h45⟩ := List.mem_map.1 hmem
  have hdigit := isDigit_of_mem_decimalText hc
  have hval : c.toNat = 45 := by
    rw [← toCodePoint_val, h45]
    rfl
  simp [isDigit, hval] at hdigit

theorem decimalText_injective {m n : ℕ} (h : toPyStr (decimalText m) = toPyStr (decimalText n)) :
    m = n := by
  rw [← digitsValue_decimalText m, toPyStr_injective h, digitsValue_decimalText]

/-- The name of a run tells the arm, the scenario, the replicate and the attempt. -/
theorem runSuffix_inj {a a' : Arm} {s s' : Scenario} {r r' t t' : ℕ}
    (hs : matchesScenarioId s.id = true) (hs' : matchesScenarioId s'.id = true) :
    runSuffix a s r t = runSuffix a' s' r' t' ↔ a = a' ∧ s.id = s'.id ∧ r = r' ∧ t = t' := by
  have hhyphen : pyLit "-" = [45] := by decide
  have hr : pyLit "-r" = [45, 114] := by decide
  have ha : pyLit "-a" = [45, 97] := by decide
  constructor
  · intro h
    simp only [runSuffix, hhyphen, hr, ha, List.append_assoc, List.cons_append,
      List.nil_append] at h
    obtain ⟨harm, h⟩ := (append_cons_inj (hyphen_not_mem_text a) (hyphen_not_mem_text a')).1 h
    obtain ⟨hid, h⟩ :=
      (append_cons_inj (hyphen_not_mem_scenarioId hs) (hyphen_not_mem_scenarioId hs')).1 h
    obtain ⟨hreplicate, h⟩ :=
      (append_cons_inj (hyphen_not_mem_decimal r) (hyphen_not_mem_decimal r')).1
      (List.cons.inj h).2
    exact ⟨text_injective harm, hid, decimalText_injective hreplicate,
      decimalText_injective (List.cons.inj h).2⟩
  · rintro ⟨rfl, hid, rfl, rfl⟩
    unfold runSuffix
    rw [hid]

end ProofFlow.Evaluation
