import ProofFlow.Outcome.Reach

/-!
# The verdict

What a reconciliation says, in its own terms (`EffectReconciliation.verdict`): every expected effect
was attempted and succeeded, every one was attempted and failed, or neither.  The cascade of
`verify_outcome_closure` computes this verdict, from the number of expected effects, the statuses of
the attempts in any order and the number of unresolved effects; nothing else of the closure, the
producer's claim included, has a say.
-/

namespace ProofFlow

open Kit

/-! ## What a reconciliation says -/

namespace EffectReconciliation

/-- Every expected effect was attempted, nothing is unresolved, and all attempts ended alike. -/
def Uniform (r : EffectReconciliation) (status : EffectAttemptStatus) : Prop :=
  r.unresolved.val = [] ∧ r.attempts.val.length = r.expectedEffectCount.val ∧
    ∀ a ∈ r.attempts.val, a.status = status

instance (r : EffectReconciliation) (status : EffectAttemptStatus) :
    Decidable (r.Uniform status) :=
  inferInstanceAs (Decidable (_ ∧ _))

/-- Every expected effect was attempted, nothing is unresolved, and some attempts succeeded but not
all. -/
def Mixed (r : EffectReconciliation) : Prop :=
  r.unresolved.val = [] ∧ r.attempts.val.length = r.expectedEffectCount.val ∧ 0 < r.successes ∧
    r.successes < r.expectedEffectCount.val

instance (r : EffectReconciliation) : Decidable r.Mixed := inferInstanceAs (Decidable (_ ∧ _))

/-- What the reconciliation says. -/
def verdict (r : EffectReconciliation) : OutcomeVerdict :=
  if r.Uniform .succeeded then .pass
  else if r.Uniform .failed then .fail
  else if r.anySucceeded then .unsafeSuccess
  else .unknown

/-- The two reconciliations have the same number of expected effects, the same statuses in some
order, and the same number of unresolved effects. -/
structure Alike (r r' : EffectReconciliation) : Prop where
  expected : r.expectedEffectCount = r'.expectedEffectCount
  statuses : (r.attempts.val.map fun a => a.status).Perm (r'.attempts.val.map fun a => a.status)
  unresolved : r.unresolved.val.length = r'.unresolved.val.length

variable {r r' : EffectReconciliation}

theorem Alike.symm (h : r.Alike r') : r'.Alike r :=
  ⟨h.expected.symm, h.statuses.symm, h.unresolved.symm⟩

theorem Alike.uniform (h : r.Alike r') {status : EffectAttemptStatus} (hu : r.Uniform status) :
    r'.Uniform status := by
  obtain ⟨hunresolved, hlen, hall⟩ := hu
  have hlen' := h.statuses.length_eq
  simp only [List.length_map] at hlen'
  refine ⟨List.length_eq_zero_iff.1 (by rw [← h.unresolved, hunresolved, List.length_nil]),
    by rw [← hlen', hlen, h.expected], fun a ha => ?_⟩
  obtain ⟨a', ha', heq⟩ := List.mem_map.1 (h.statuses.mem_iff.2 (List.mem_map_of_mem ha))
  exact heq.symm.trans (hall a' ha')

theorem Alike.uniform_iff (h : r.Alike r') {status : EffectAttemptStatus} :
    r.Uniform status ↔ r'.Uniform status :=
  ⟨h.uniform, h.symm.uniform⟩

theorem Alike.anySucceeded (h : r.Alike r') (hs : r.anySucceeded) : r'.anySucceeded := by
  obtain ⟨a, ha, hstatus⟩ := hs
  obtain ⟨a', ha', heq⟩ := List.mem_map.1 (h.statuses.mem_iff.1 (List.mem_map_of_mem ha))
  exact ⟨a', ha', heq.trans hstatus⟩

/-- Reconciliations that are alike say the same. -/
theorem Alike.verdict_eq (h : r.Alike r') : r.verdict = r'.verdict := by
  have ha : r.anySucceeded ↔ r'.anySucceeded := ⟨h.anySucceeded, h.symm.anySucceeded⟩
  simp only [verdict, h.uniform_iff, ha]

theorem Uniform.successes_eq (h : r.Uniform .succeeded) :
    r.successes = r.expectedEffectCount.val := by
  rw [← h.2.1, successes, List.countP_eq_length]
  simpa using h.2.2

theorem Uniform.not_anySucceeded (h : r.Uniform .failed) : ¬ r.anySucceeded := by
  rintro ⟨a, ha, hstatus⟩
  rw [h.2.2 a ha] at hstatus
  cases hstatus

/-- A reconciliation does not say two things at once. -/
theorem Uniform.not_failed (h : r.Uniform .succeeded) : ¬ r.Uniform .failed := by
  intro hf
  refine hf.not_anySucceeded (r.successes_pos_iff.1 ?_)
  rw [h.successes_eq]
  exact r.expectedEffectCount.property.1

theorem Mixed.not_uniform (h : r.Mixed) : ¬ (r.Uniform .succeeded ∨ r.Uniform .failed) := by
  obtain ⟨-, -, hpos, hlt⟩ := h
  rintro (hs | hf)
  · exact absurd hs.successes_eq hlt.ne
  · exact hf.not_anySucceeded (r.successes_pos_iff.1 hpos)

theorem verdict_eq_pass : r.verdict = .pass ↔ r.Uniform .succeeded := by
  unfold verdict
  split_ifs with hs hf ha <;> simp [hs]

theorem verdict_eq_fail : r.verdict = .fail ↔ r.Uniform .failed := by
  unfold verdict
  split_ifs with hs hf ha
  · simp [hs.not_failed]
  · simp [hf]
  · simp [hf]
  · simp [hf]

theorem verdict_of_not_uniform (hs : ¬ r.Uniform .succeeded) (hf : ¬ r.Uniform .failed) :
    r.verdict = if r.anySucceeded then .unsafeSuccess else .unknown := by
  rw [verdict, if_neg hs, if_neg hf]

end EffectReconciliation

/-! ## The cascade -/

namespace BoundClosure

variable {P : Platform} {call : OutcomeCall} (b : BoundClosure)

/-- The reconciliation of the closure. -/
abbrev reconciliation : EffectReconciliation := b.statement.predicate.reconciliation

/-- The condition of the PASS branch. -/
theorem passes_iff (hlen : b.reconciliation.attempts.val.length =
      b.reconciliation.expectedEffectCount.val) :
    (b.reconciliation.successes = b.reconciliation.expectedEffectCount.val ∧
      ∀ a ∈ b.reconciliation.attempts.val, a.terminalResult = .effectCommitted) ↔
    ∀ a ∈ b.reconciliation.attempts.val, a.status = .succeeded := by
  rw [← hlen, EffectReconciliation.successes, List.countP_eq_length]
  simp only [decide_eq_true_eq]
  exact ⟨And.left, fun h => ⟨h, fun a ha => a.terminalResult_of_succeeded (h a ha)⟩⟩

/-- The condition of the FAIL branch. -/
theorem fails_iff (hlen : b.reconciliation.attempts.val.length =
      b.reconciliation.expectedEffectCount.val) :
    (b.reconciliation.successes = 0 ∧
      b.reconciliation.attempts.val.length = b.reconciliation.expectedEffectCount.val ∧
      ∀ a ∈ b.reconciliation.attempts.val, a.status = .failed ∧
        (a.terminalResult = .effectRejected ∨ a.terminalResult = .effectNotApplied)) ↔
    ∀ a ∈ b.reconciliation.attempts.val, a.status = .failed := by
  constructor
  · rintro ⟨-, -, h⟩ a ha
    exact (h a ha).1
  · intro h
    refine ⟨?_, hlen, fun a ha => ⟨h a ha, ?_⟩⟩
    · rw [EffectReconciliation.successes, List.countP_eq_zero]
      intro a ha
      simp [h a ha]
    · have hterminal := a.terminalResult_of_failed (h a ha)
      cases hr : a.terminalResult <;> simp_all

/-- The call ends without a record: UNSAFE_SUCCESS if some attempt succeeded and UNKNOWN if none
did, with a reason of the verdict. -/
def Refuses (P : Platform) (call : OutcomeCall) (out : ClosureOutcome) : Prop :=
  (b.reconciliation.anySucceeded ∧ ∃ reason ∈ unsafeOutcomeReasons,
      out = b.result P call .unsafeSuccess reason b.observerRoots false) ∨
    (¬ b.reconciliation.anySucceeded ∧ ∃ reason, isUnknownOutcomeReason reason ∧
      out = b.result P call .unknown reason b.observerRoots false)

theorem refuses_refuse {unsafeReason unknownReason : OutcomeClosureVerificationReason}
    (hreason : unsafeReason ∈ unsafeOutcomeReasons)
    (hunknown : isUnknownOutcomeReason unknownReason) :
    b.Refuses P call (b.refuse P call b.observerRoots unsafeReason unknownReason) := by
  unfold Refuses OpenedClosure.refuse
  split_ifs with h
  · exact .inl ⟨h, unsafeReason, hreason, rfl⟩
  · exact .inr ⟨h, unknownReason, hunknown, rfl⟩

/-- More successes than effects were expected. -/
theorem reconcile_of_duplicate
    (h : b.reconciliation.expectedEffectCount.val < b.reconciliation.successes) :
    b.reconcile P call =
      .error (b.result P call .unsafeSuccess .duplicateEffectSuccess b.observerRoots false) := by
  simp only [reconcile, Flow.returnIf, if_pos h]
  rfl

/-- An effect is unresolved. -/
theorem reconcile_of_unresolved
    (hdup : ¬ b.reconciliation.expectedEffectCount.val < b.reconciliation.successes)
    (h : b.reconciliation.unresolved.val ≠ []) :
    b.reconcile P call = .error (b.refuse P call b.observerRoots .unsafeUnresolvedEffect
      .effectReconciliationUnresolved) := by
  simp only [reconcile, Flow.returnIf, if_neg hdup, if_pos h]
  rfl

/-- Nothing is unresolved, and the attempts are not as many as the effects that were expected. -/
theorem reconcile_of_uncovered
    (hdup : ¬ b.reconciliation.expectedEffectCount.val < b.reconciliation.successes)
    (hunresolved : b.reconciliation.unresolved.val = [])
    (h : b.reconciliation.attempts.val.length ≠ b.reconciliation.expectedEffectCount.val) :
    b.reconcile P call = .error (b.refuse P call b.observerRoots .effectCountMismatch
      .effectCoverageIncomplete) := by
  simp only [reconcile, Flow.returnIf, if_neg hdup, hunresolved, ne_eq, not_true_eq_false,
    if_false, List.length_nil, Nat.add_zero, h, not_false_eq_true, if_true]
  rfl

/-- Nothing is unresolved, and every expected effect was attempted: the attempts decide. -/
theorem reconcile_of_covered
    (hunresolved : b.reconciliation.unresolved.val = [])
    (h : b.reconciliation.attempts.val.length = b.reconciliation.expectedEffectCount.val) :
    b.reconcile P call =
      if ∀ a ∈ b.reconciliation.attempts.val, a.status = .succeeded then .ok .pass
      else if ∀ a ∈ b.reconciliation.attempts.val, a.status = .failed then .ok .fail
      else .error (b.refuse P call b.observerRoots .effectTerminalInvalid
        .effectTerminalInvalid) := by
  have hdup : ¬ b.reconciliation.expectedEffectCount.val < b.reconciliation.successes := by
    rw [← h]
    exact not_lt.2 b.reconciliation.successes_le
  simp only [reconcile, Flow.returnIf, if_neg hdup, hunresolved, ne_eq, not_true_eq_false,
    if_false, List.length_nil, Nat.add_zero, h, ok_bind, b.passes_iff h, true_and]
  have hfails := b.fails_iff h
  simp only [h, true_and] at hfails
  simp only [hfails]

/-- What the cascade does: it goes on with PASS or FAIL when all attempts ended alike, asks for a
result with a reason of another verdict when they did not, and refuses everything else. -/
theorem reconcile_cases (P : Platform) (call : OutcomeCall) :
    (b.reconciliation.Uniform .succeeded ∧ b.reconcile P call = .ok .pass) ∨
    (b.reconciliation.Uniform .failed ∧ b.reconcile P call = .ok .fail) ∨
    (b.reconciliation.Mixed ∧ b.reconcile P call =
      .error (b.result P call .unsafeSuccess .effectTerminalInvalid b.observerRoots false)) ∨
    (¬ b.reconciliation.Uniform .succeeded ∧ ¬ b.reconciliation.Uniform .failed ∧
      ¬ b.reconciliation.Mixed ∧ ∃ out, b.reconcile P call = .error out ∧
        b.Refuses P call out) := by
  have hpos := b.reconciliation.successes_pos_iff
  by_cases hdup : b.reconciliation.expectedEffectCount.val < b.reconciliation.successes
  · refine .inr (.inr (.inr ⟨?_, ?_, ?_, _, b.reconcile_of_duplicate hdup, ?_⟩))
    · exact fun h => absurd h.successes_eq (by omega)
    · exact fun h => h.not_anySucceeded (hpos.1 (by omega))
    · exact fun h => absurd h.2.2.2 (by omega)
    · exact .inl ⟨hpos.1 (by omega), .duplicateEffectSuccess, by decide, rfl⟩
  by_cases hunresolved : b.reconciliation.unresolved.val = []
  swap
  · exact .inr (.inr (.inr ⟨fun h => hunresolved h.1, fun h => hunresolved h.1,
      fun h => hunresolved h.1, _, b.reconcile_of_unresolved hdup hunresolved,
      b.refuses_refuse (by decide) (by decide)⟩))
  by_cases hlen : b.reconciliation.attempts.val.length = b.reconciliation.expectedEffectCount.val
  swap
  · exact .inr (.inr (.inr ⟨fun h => hlen h.2.1, fun h => hlen h.2.1, fun h => hlen h.2.1, _,
      b.reconcile_of_uncovered hdup hunresolved hlen, b.refuses_refuse (by decide) (by decide)⟩))
  rw [b.reconcile_of_covered hunresolved hlen]
  split_ifs with hs hf
  · exact .inl ⟨⟨hunresolved, hlen, hs⟩, rfl⟩
  · exact .inr (.inl ⟨⟨hunresolved, hlen, hf⟩, rfl⟩)
  · -- an attempt that did not fail succeeded, so the refusal asks for UNSAFE_SUCCESS
    have hany : b.reconciliation.anySucceeded := by
      push Not at hf
      obtain ⟨a, ha, hstatus⟩ := hf
      exact ⟨a, ha, by cases hst : a.status <;> simp_all⟩
    have hlt : b.reconciliation.successes < b.reconciliation.expectedEffectCount.val := by
      rw [← hlen]
      refine lt_of_le_of_ne b.reconciliation.successes_le fun heq => hs fun a ha => ?_
      simpa using List.countP_eq_length.1 heq a ha
    refine .inr (.inr (.inl ⟨⟨hunresolved, hlen, hpos.2 hany, hlt⟩, ?_⟩))
    simp only [OpenedClosure.refuse, if_pos hany]

end BoundClosure

/-! ## The call -/

section Call

variable {P : Platform} {call : OutcomeCall} {b : BoundClosure} {σ : Type}
  {outcomeIndex : OutcomeClosureIndex σ} {index : σ}

/-- From the reconciliation stage on. -/
theorem verifyOutcomeClosure_of_bound (h : ClosureBound P call b) :
    verifyOutcomeClosure P call outcomeIndex index =
      match b.reconcile P call with
      | .error out => (out, index)
      | .ok verdict =>
        (b.conclude P call verdict
            ((outcomeIndex.appendOnce index (b.append P)).1.getD .unavailable),
          (outcomeIndex.appendOnce index (b.append P)).2) := by
  have hreach := reachReconciliation_eq_ok.2 h
  simp only [verifyOutcomeClosure, deriveOutcome, hreach, ok_bind]
  cases b.reconcile P call <;> rfl

/-- The reasons for which an index does not record a closure. -/
def indexRefusalReasons : List OutcomeClosureVerificationReason :=
  [.closureIdConflict, .attemptSequenceConflict, .previousDigestConflict, .idempotencyConflict,
    .outcomeIndexUnavailable]

/-- The index did not record the closure: UNKNOWN with the index's reason. -/
def IndexRefused (result : OutcomeClosureVerificationResult) : Prop :=
  result.status = .unknown ∧ ∃ reason ∈ indexRefusalReasons, result.reasonCodes.val = [reason]

/-- The index recorded the closure, or had it already. -/
def OutcomeIndexStatus.Records (status : OutcomeIndexStatus) : Prop :=
  status = .appended ∨ status = .alreadyPresent

instance (status : OutcomeIndexStatus) : Decidable status.Records :=
  inferInstanceAs (Decidable (_ ∨ _))

/-- The result carries the verdict if the index has the closure, and the index's reason if not. -/
theorem conclude_eq_ok {verdict : OutcomeVerdict} {status : OutcomeIndexStatus}
    {result : OutcomeClosureVerificationResult}
    (h : b.conclude P call verdict status = .ok result) :
    (status.Records ∧ result.status = verdict) ∨ (¬ status.Records ∧ IndexRefused result) := by
  cases status with
  | appended => exact .inl ⟨by decide, (outcomeResult_eq_ok h).1⟩
  | alreadyPresent => exact .inl ⟨by decide, (outcomeResult_eq_ok h).1⟩
  | _ =>
    obtain ⟨hstatus, hcodes, -⟩ := outcomeResult_eq_ok h
    exact .inr ⟨by decide, hstatus, _, by decide, hcodes⟩

/-- The reason that a mixed reconciliation is refused with is UNKNOWN's, so the result model does
not take it for UNSAFE_SUCCESS. -/
theorem unsafeTerminalInvalid_ne_ok (result : OutcomeClosureVerificationResult) :
    b.result P call .unsafeSuccess .effectTerminalInvalid b.observerRoots false ≠ .ok result := by
  intro h
  obtain ⟨hstatus, hcodes, -⟩ := outcomeResult_eq_ok h
  have hreasons := (result.semanticsClosed.2.2.2 hstatus).2
  rw [hcodes] at hreasons
  exact absurd (hreasons List.mem_cons_self) (by decide)

/-- Whatever a call that reached the reconciliation stage returns reports the observers. -/
theorem exists_result_of_bound {result : OutcomeClosureVerificationResult}
    (hbound : ClosureBound P call b)
    (h : (verifyOutcomeClosure P call outcomeIndex index).1 = .ok result) :
    ∃ status reason recorded,
      b.result P call status reason b.observerRoots recorded = .ok result := by
  rw [verifyOutcomeClosure_of_bound hbound] at h
  have hconclude {verdict : OutcomeVerdict} {status : OutcomeIndexStatus}
      (h : b.conclude P call verdict status = .ok result) : ∃ status reason recorded,
        b.result P call status reason b.observerRoots recorded = .ok result := by
    cases status <;> exact ⟨_, _, _, h⟩
  rcases b.reconcile_cases P call with
    ⟨-, heq⟩ | ⟨-, heq⟩ | ⟨-, heq⟩ | ⟨-, -, -, out, heq, ⟨-, reason, -, rfl⟩ | ⟨-, reason, -, rfl⟩⟩
  · rw [heq] at h
    exact hconclude h
  · rw [heq] at h
    exact hconclude h
  · rw [heq] at h
    exact ⟨_, _, _, h⟩
  · rw [heq] at h
    exact ⟨_, _, _, h⟩
  · rw [heq] at h
    exact ⟨_, _, _, h⟩

/-- What a call that reached the reconciliation stage returns: if all attempts ended alike, the
verdict or the index's refusal, and else the verdict, with the index left alone. -/
theorem verdict_cases {result : OutcomeClosureVerificationResult} (hbound : ClosureBound P call b)
    (h : (verifyOutcomeClosure P call outcomeIndex index).1 = .ok result) :
    ((b.reconciliation.Uniform .succeeded ∨ b.reconciliation.Uniform .failed) ∧
        ((((outcomeIndex.appendOnce index (b.append P)).1.getD .unavailable).Records ∧
            result.status = b.reconciliation.verdict) ∨
          (¬ ((outcomeIndex.appendOnce index (b.append P)).1.getD .unavailable).Records ∧
            IndexRefused result))) ∨
      ((¬ b.reconciliation.Uniform .succeeded ∧ ¬ b.reconciliation.Uniform .failed) ∧
        (verifyOutcomeClosure P call outcomeIndex index).2 = index ∧
        result.status = b.reconciliation.verdict) := by
  rw [verifyOutcomeClosure_of_bound hbound] at h ⊢
  rcases b.reconcile_cases P call with
    ⟨hs, heq⟩ | ⟨hf, heq⟩ | ⟨-, heq⟩ | ⟨hns, hnf, -, out, heq, hout⟩
  · rw [heq] at h
    rw [EffectReconciliation.verdict_eq_pass.2 hs]
    exact .inl ⟨.inl hs, conclude_eq_ok h⟩
  · rw [heq] at h
    rw [EffectReconciliation.verdict_eq_fail.2 hf]
    exact .inl ⟨.inr hf, conclude_eq_ok h⟩
  · rw [heq] at h
    exact absurd h (unsafeTerminalInvalid_ne_ok result)
  · rw [heq] at h
    refine .inr ⟨⟨hns, hnf⟩, by rw [heq], ?_⟩
    rw [EffectReconciliation.verdict_of_not_uniform hns hnf]
    rcases hout with ⟨hany, reason, -, rfl⟩ | ⟨hnone, reason, -, rfl⟩
    · rw [if_pos hany]
      exact (outcomeResult_eq_ok h).1
    · rw [if_neg hnone]
      exact (outcomeResult_eq_ok h).1

/-- The result is the one that the reconciliation stands for. -/
structure VerdictDerived (P : Platform) (call : OutcomeCall) (outcomeIndex : OutcomeClosureIndex σ)
    (index : σ) (b : BoundClosure) (result : OutcomeClosureVerificationResult) : Prop where
  all_succeeded : b.reconciliation.Uniform .succeeded →
    result.status = .pass ∨ IndexRefused result
  all_failed : b.reconciliation.Uniform .failed → result.status = .fail ∨ IndexRefused result
  otherwise_untouched : ¬ b.reconciliation.Uniform .succeeded → ¬ b.reconciliation.Uniform .failed →
    (verifyOutcomeClosure P call outcomeIndex index).2 = index
  otherwise_unsafe : ¬ b.reconciliation.Uniform .succeeded → ¬ b.reconciliation.Uniform .failed →
    b.reconciliation.anySucceeded → result.status = .unsafeSuccess
  otherwise_unknown : ¬ b.reconciliation.Uniform .succeeded → ¬ b.reconciliation.Uniform .failed →
    ¬ b.reconciliation.anySucceeded → result.status = .unknown
  pass_only : result.status = .pass → b.reconciliation.Uniform .succeeded
  fail_only : result.status = .fail → b.reconciliation.Uniform .failed

theorem verdictDerived {result : OutcomeClosureVerificationResult} (hbound : ClosureBound P call b)
    (h : (verifyOutcomeClosure P call outcomeIndex index).1 = .ok result) :
    VerdictDerived P call outcomeIndex index b result := by
  rcases verdict_cases hbound h with ⟨huniform, hresult⟩ | ⟨⟨hns, hnf⟩, huntouched, hstatus⟩
  · have hresult : result.status = b.reconciliation.verdict ∨ IndexRefused result :=
      hresult.imp And.right And.right
    have hother : ¬ b.reconciliation.Uniform .succeeded → ¬ b.reconciliation.Uniform .failed →
        False := fun hns hnf => huniform.elim hns hnf
    have hverdict {v : OutcomeVerdict} (hne : v ≠ .unknown) (hv : result.status = v) :
        b.reconciliation.verdict = v := by
      rcases hresult with hr | hr
      · exact hr.symm.trans hv
      · exact absurd (hv.symm.trans hr.1) hne
    exact {
      all_succeeded := fun hs =>
        hresult.imp_left fun hr => hr.trans (EffectReconciliation.verdict_eq_pass.2 hs)
      all_failed := fun hf =>
        hresult.imp_left fun hr => hr.trans (EffectReconciliation.verdict_eq_fail.2 hf)
      otherwise_untouched := fun hns hnf => (hother hns hnf).elim
      otherwise_unsafe := fun hns hnf => (hother hns hnf).elim
      otherwise_unknown := fun hns hnf => (hother hns hnf).elim
      pass_only := fun hp => EffectReconciliation.verdict_eq_pass.1 (hverdict (by decide) hp)
      fail_only := fun hf => EffectReconciliation.verdict_eq_fail.1 (hverdict (by decide) hf) }
  · have hverdict := EffectReconciliation.verdict_of_not_uniform hns hnf
    exact {
      all_succeeded := fun hs => absurd hs hns
      all_failed := fun hf => absurd hf hnf
      otherwise_untouched := fun _ _ => huntouched
      otherwise_unsafe := fun _ _ hany => by rw [hstatus, hverdict, if_pos hany]
      otherwise_unknown := fun _ _ hnone => by rw [hstatus, hverdict, if_neg hnone]
      pass_only := fun hp => EffectReconciliation.verdict_eq_pass.1 (hstatus.symm.trans hp)
      fail_only := fun hf => EffectReconciliation.verdict_eq_fail.1 (hstatus.symm.trans hf) }

/-- A result carries the verdict of its reconciliation, unless the index refused the closure. -/
theorem status_eq_verdict {result : OutcomeClosureVerificationResult}
    (hbound : ClosureBound P call b)
    (h : (verifyOutcomeClosure P call outcomeIndex index).1 = .ok result) :
    result.status = b.reconciliation.verdict ∨ IndexRefused result := by
  rcases verdict_cases hbound h with ⟨-, ⟨-, hstatus⟩ | ⟨-, hrefused⟩⟩ | ⟨-, -, hstatus⟩
  · exact .inl hstatus
  · exact .inr hrefused
  · exact .inl hstatus

/-- The verdict is derived from the reconciliation alone: reconciliations that are alike get the
same verdict from indexes that answer alike, and from any two indexes unless one of them refuses. -/
theorem verifyOutcomeClosure_verdict_exact {result : OutcomeClosureVerificationResult}
    (hbound : ClosureBound P call b)
    (h : (verifyOutcomeClosure P call outcomeIndex index).1 = .ok result) :
    VerdictDerived P call outcomeIndex index b result ∧
      ∀ {σ' : Type} (outcomeIndex' : OutcomeClosureIndex σ') (index' : σ') (call' : OutcomeCall)
        (b' : BoundClosure) (result' : OutcomeClosureVerificationResult), ClosureBound P call' b' →
        (verifyOutcomeClosure P call' outcomeIndex' index').1 = .ok result' →
        b.reconciliation.Alike b'.reconciliation →
        (result.status = result'.status ∨ IndexRefused result ∨ IndexRefused result') ∧
          ((outcomeIndex.appendOnce index (b.append P)).1 =
            (outcomeIndex'.appendOnce index' (b'.append P)).1 →
              result.status = result'.status) := by
  refine ⟨verdictDerived hbound h, ?_⟩
  intro σ' outcomeIndex' index' call' b' result' hbound' h' halike
  have hverdict := halike.verdict_eq
  refine ⟨?_, fun hanswer => ?_⟩
  · rcases status_eq_verdict hbound h, status_eq_verdict hbound' h' with ⟨hs | hr, hs' | hr'⟩
    · exact .inl (by rw [hs, hs', hverdict])
    · exact .inr (.inr hr')
    · exact .inr (.inl hr)
    · exact .inr (.inl hr)
  · have huniform : (b.reconciliation.Uniform .succeeded ∨ b.reconciliation.Uniform .failed) ↔
        (b'.reconciliation.Uniform .succeeded ∨ b'.reconciliation.Uniform .failed) :=
      or_congr halike.uniform_iff halike.uniform_iff
    rcases verdict_cases hbound h, verdict_cases hbound' h' with
      ⟨⟨hu, hres⟩ | ⟨hnu, -, hs⟩, ⟨hu', hres'⟩ | ⟨hnu', -, hs'⟩⟩
    · rw [hanswer] at hres
      rcases hres, hres' with ⟨⟨hrec, hs⟩ | ⟨hrec, hs⟩, ⟨hrec', hs'⟩ | ⟨hrec', hs'⟩⟩
      · rw [hs, hs', hverdict]
      · exact absurd hrec hrec'
      · exact absurd hrec' hrec
      · rw [hs.1, hs'.1]
    · exact absurd (huniform.1 hu) (not_or.2 hnu')
    · exact absurd (huniform.2 hu') (not_or.2 hnu)
    · rw [hs, hs', hverdict]

end Call

namespace Sample

/-- A closure of the sample execution with one committed effect. -/
def closureMembers (id issuedAt : String) : List (Str × Canon) :=
  [textMember "_type" "https://in-toto.io/Statement/v1",
    member "subject" (.arr []),
    textMember "predicateType" "https://proofflow.dev/attestations/outcome-closure/v0.1",
    member "predicate" (.obj [
      textMember "version" "0.1",
      textMember "closure_id" id,
      textMember "execution_id" "exec-1",
      textMember "task_id" "task-1",
      textMember "attempt_id" "attempt-1",
      member "closure_sequence" (.int 1),
      member "previous_payload_sha256" .null,
      textMember "tenant_id" "tenant",
      textMember "case_id" "case-1",
      textMember "issued_at" issuedAt,
      certificateRefMember,
      member "receipt_ref" (.obj [
        textMember "receipt_id" "receipt-1",
        hashMember "payload_sha256" receiptPayloadDigest,
        hashMember "envelope_sha256" receiptEnvelopeDigest,
        hashMember "verification_result_sha256" receiptResultDigest]),
      member "evidence_source" (.obj [
        textMember "source_kind" "LOCAL_BYTES",
        textMember "source_version" "proofflow.outcome-evidence/v0.1",
        textMember "principal_id" "source",
        textMember "observed_at" "2026-01-01T00:35:00Z",
        textMember "valid_until" "2026-01-01T00:59:00Z",
        hashMember "source_event_sha256" evidenceDigest]),
      producerMember "auditor",
      member "reconciliation" (.obj [
        textMember "effect_type" "mail",
        textMember "target" "inbox",
        hashMember "intent_sha256" scopeDigest,
        textMember "idempotency_key" "key-1",
        member "expected_effect_count" (.int 1),
        member "attempts" (.arr [.obj [
          textMember "effect_id" "effect-1",
          textMember "attempt_id" "effect-attempt-1",
          textMember "effect_type" "mail",
          textMember "target" "inbox",
          hashMember "intent_sha256" scopeDigest,
          textMember "idempotency_key" "key-1",
          textMember "status" "SUCCEEDED",
          textMember "terminal_result" "EFFECT_COMMITTED",
          textMember "provider_operation_id" "provider-1",
          hashMember "before_state_sha256" evidenceDigest,
          hashMember "after_state_sha256" evidenceDigest,
          hashMember "provider_event_sha256" evidenceDigest,
          hashMember "observer_evidence_sha256" evidenceDigest]]),
        member "unresolved" (.arr [])]),
      textMember "claimed_outcome" "PASS"])]

def timelyMembers : List (Str × Canon) := closureMembers "closure-1" "2026-01-01T00:36:00Z"

def closurePayload : Bytes := canonicalJson (.obj timelyMembers)

set_option maxRecDepth 100000 in
theorem length_closurePayload : closurePayload.length = 2571 := by decide +kernel

/-- The closure that such a payload states. -/
def closureOf (id : Identifier) (issuedAt : UtcTime) : OutcomeClosureStatement where
  subject := nothing
  predicate := {
    closureId := id
    executionId := ident "exec-1"
    taskId := ident "task-1"
    attemptId := ident "attempt-1"
    closureSequence := one
    previousPayloadSha256 := none
    tenantId := ident "tenant"
    caseId := ident "case-1"
    issuedAt := issuedAt
    certificateRef := certificateRef
    receiptRef := {
      receiptId := ident "receipt-1"
      payloadSha256 := digest receiptPayloadDigest
      envelopeSha256 := digest receiptEnvelopeDigest
      verificationResultSha256 := digest receiptResultDigest }
    evidenceSource := {
      sourceKind := .localBytes
      principalId := ident "source"
      observedAt := minute 35
      validUntil := minute 59
      sourceEventSha256 := digest evidenceDigest
      valid := by decide +kernel }
    producer := {
      producerId := ident "producer"
      softwareName := localText "recorder"
      softwareVersion := localText "1"
      observerPrincipals := ⟨[lit "auditor"], by decide⟩
      valid := by decide +kernel }
    reconciliation := {
      effectType := localText "mail"
      target := localText "inbox"
      intentSha256 := digest scopeDigest
      idempotencyKey := ident "key-1"
      expectedEffectCount := one
      attempts := ⟨[{
        effectId := ident "effect-1"
        attemptId := ident "effect-attempt-1"
        effectType := localText "mail"
        target := localText "inbox"
        intentSha256 := digest scopeDigest
        idempotencyKey := ident "key-1"
        status := .succeeded
        terminalResult := .effectCommitted
        providerOperationId := some (ident "provider-1")
        beforeStateSha256 := digest evidenceDigest
        afterStateSha256 := digest evidenceDigest
        providerEventSha256 := digest evidenceDigest
        observerEvidenceSha256 := digest evidenceDigest
        valid := by decide +kernel }], by decide⟩
      unresolved := nothing
      valid := by decide +kernel }
    claimedOutcome := .pass }
  valid := rfl

def closureStatement : OutcomeClosureStatement := closureOf (ident "closure-1") (minute 36)

set_option maxRecDepth 100000 in
theorem parse_closurePayload (label : String) :
    parseJsonModel platform Decode.outcomeClosureStatement closurePayload label =
      .ok closureStatement :=
  parseJsonModel_canonicalJson readsText_platform (by decide +kernel) (by decide +kernel)
    (by decide +kernel)

def closureParts : EnvelopeParts where
  payload := closurePayload
  signatures := [closureSignature]
  payload_length := by rw [length_closurePayload]; decide
  signatures_length := by decide

theorem length_closureParts : closureParts.bytes.length = 3601 := by
  have hparts := closureParts.length_bytes
  have hpayload : closureParts.payload.length = 2571 := length_closurePayload
  have hcount : closureParts.signatures.length = 1 := rfl
  omega

set_option maxRecDepth 100000 in
def closureBinding : ExpectedOutcomeBinding where
  toExpectedOutcomeBindingFields := outcomeBindingFields closureStatement identityKeys identityKeys
  valid := by decide +kernel

/-- The evidence of the sample is one byte, whatever is asked for. -/
def evidenceBytes : Bytes := [0x65]

/-- The closure of the sample execution, a minute after its issuance. -/
def closureCall : OutcomeCall where
  envelopeBytes := closureParts.bytes
  trustPolicy := observedPolicy
  expectedBinding := some closureBinding
  actionCertificateEnvelopeBytes := parts.bytes
  actionCertificateVerification := some acceptedResult
  executionReceiptEnvelopeBytes := receiptParts.bytes
  executionReceiptVerification := some acceptedReceipt
  now := .ofUtc (minute 37)
  evidenceResolver := some fun _ _ _ => some evidenceBytes
  operatorExpectedBinding := none
  operatorActionCertificateVerification := none
  operatorExecutionReceiptVerification := none

def boundClosure : BoundClosure where
  expected := closureBinding
  actionResult := acceptedResult
  receiptResult := acceptedReceipt
  now := minute 37
  envelope := closureParts.envelope
  payload := closurePayload
  statement := closureStatement
  action := statement.predicate
  receipt := receiptStatement
  observerRoots := [lit "d-auditor"]

set_option maxRecDepth 100000 in
theorem verified_closureParts : cryptographicallyVerifiedRoots platform closureParts.envelope
    closurePayload observedPolicy.roots.val = [auditorRoot] := by
  decide

theorem opened_closure : ClosureOpened platform closureCall boundClosure.toOpenedClosure where
  expected := .inr ⟨rfl, rfl⟩
  actionResult := .inr ⟨rfl, rfl⟩
  receiptResult := .inr ⟨rfl, rfl⟩
  time := requireUtc_ofUtc _ _
  envelope_bounded := length_closureParts.le.trans (by decide)
  envelope_parsed := (openEnvelope_eq_ok (closureParts.openEnvelope_bytes readsText_platform
    (by decide) "OutcomeClosure DSSE envelope" "OutcomeClosure payload")).1
  payload_eq := (openEnvelope_eq_ok (closureParts.openEnvelope_bytes readsText_platform
    (by decide) "OutcomeClosure DSSE envelope" "OutcomeClosure payload")).2
  payload_bounded := length_closurePayload.le.trans (by decide)
  verified := fun hnil => List.cons_ne_nil _ _ (verified_closureParts.symm.trans hnil)
  statement_parsed := parse_closurePayload _

theorem certificateRead_closure : CertificateRead platform parts.bytes acceptedResult
    closureStatement.predicate.certificateRef observedPolicy statement [issuerRoot]
    [approverRoot] where
  accepted := rfl
  reserved := rfl
  opened := by
    obtain ⟨hparse, hpayload⟩ := openEnvelope_eq_ok (openEnvelope_parts
      "external ActionCertificate envelope" "external ActionCertificate payload")
    refine ⟨parts.envelope, hparse, ?_, ?_, ?_, ?_⟩
    · rw [← hpayload]
      exact parse_payload _
    · unfold externalCertificateRecomputes
      rw [← hpayload, sha256_parts, sha256_payload, sha256_acceptedResult,
        approvalScopeSha256_statement]
      exact ⟨rfl, rfl, rfl, rfl, rfl, rfl, rfl⟩
    · rw [← hpayload, verified_parts]
      decide
    · rw [← hpayload, verified_parts]
      decide
  issuers_ne_nil := by decide
  approvals_iff := by decide
  issuers_nodup := by decide
  approvals_nodup := by decide

set_option maxRecDepth 100000 in
theorem action_closure : parseExternalActionCertificate platform parts.bytes acceptedResult
    closureStatement.predicate.certificateRef observedPolicy (minute 37) =
      .ok (some statement.predicate, none) := by
  unfold parseExternalActionCertificate
  rw [Flow.finish_eq_ok]
  right
  simp only [bind_eq_ok, Flow.returnIf_eq_ok, Flow.raising_eq_ok, not_not,
    readExternalActionCertificate_eq_ok, Prod.exists]
  refine ⟨statement, [issuerRoot], [approverRoot], certificateRead_closure, false, ?_,
    (), by decide, false, ?_, (), by decide, (), by decide, rfl⟩
  · decide
  · decide

set_option maxRecDepth 100000 in
theorem sha256_acceptedReceipt :
    executionReceiptVerificationSha256 platform acceptedReceipt = digest receiptResultDigest :=
  sha256Bytes_platform (n := 525) (by decide) (head_canonicalJson _) (by simp [digests])

theorem receiptRead_closure : ReceiptRead platform receiptParts.bytes acceptedReceipt
    closureStatement.predicate.receiptRef observedPolicy receiptStatement
    [some observerRoot] where
  accepted := rfl
  recorded := rfl
  opened := by
    obtain ⟨hparse, hpayload⟩ := openEnvelope_eq_ok (openEnvelope_receiptParts
      "external ExecutionReceipt envelope" "external ExecutionReceipt payload")
    refine ⟨receiptParts.envelope, hparse, ?_, ?_, ?_⟩
    · rw [← hpayload]
      exact parse_receiptPayload _
    · unfold externalReceiptRecomputes
      rw [← hpayload, sha256_receiptParts, sha256_receiptPayload, sha256_acceptedReceipt]
      exact ⟨rfl, rfl, rfl, rfl, rfl, rfl, rfl⟩
    · rw [← hpayload, verified_receiptParts]
      decide
  observers_ne_nil := by decide
  observers_nodup := by decide

theorem receipt_closure : parseExternalReceipt platform receiptParts.bytes acceptedReceipt
    closureStatement.predicate.receiptRef observedPolicy (minute 37) =
      .ok (some receiptStatement, none) := by
  have haccepted : [some observerRoot].anyM
      (receiptRootRejected receiptStatement.predicate observedPolicy (minute 37)) = .ok false :=
    anyM_eq_false.2 fun r hr => by
      rw [List.mem_singleton.1 hr]
      decide
  unfold parseExternalReceipt
  rw [Flow.finish_eq_ok]
  right
  simp only [bind_eq_ok, Flow.returnIf_eq_ok, Flow.raising_eq_ok, readExternalReceipt_eq_ok,
    Prod.exists]
  exact ⟨receiptStatement, [some observerRoot], receiptRead_closure, false, haccepted, (),
    by decide, (), by decide, rfl⟩

/-- The parties of the sample outcome, as far as they are known. -/
def closureParties (action : Option ActionCertificatePredicate)
    (receipt : Option ExecutionReceiptStatement) : Parties :=
  outcomeParties platform closureStatement.predicate observedPolicy action receipt acceptedResult
    acceptedReceipt closureBinding

set_option maxRecDepth 100000 in
theorem auditorRoot_observes :
    observesOutcomes closureStatement.predicate observedPolicy auditorRoot ∧
    auditorRoot.principalId.val ∈ closureStatement.predicate.producer.observerPrincipals.val ∧
    sameSet ([auditorRoot].map fun r => r.principalId.val)
      closureStatement.predicate.producer.observerPrincipals.val ∧
    currentAtBoth closureStatement.predicate.issuedAt (minute 37) observedPolicy.skew
      auditorRoot = .ok true ∧
    ¬ selfObserves platform (closureParties none none) auditorRoot ∧
    ¬ selfObserves platform (closureParties (some statement.predicate) (some receiptStatement))
      auditorRoot := by
  decide

theorem observers_closure {action : Option ActionCertificatePredicate}
    {receipt : Option ExecutionReceiptStatement}
    (hindependent : ¬ selfObserves platform (closureParties action receipt) auditorRoot) :
    boundClosure.observers platform closureCall action receipt = .ok ([lit "d-auditor"], none) := by
  obtain ⟨hobserves, hdeclared, hsame, hcurrent, -⟩ := auditorRoot_observes
  have hround : considerOutcomeObserver platform closureStatement.predicate observedPolicy
      (closureParties action receipt) (minute 37) ⟨[], false, false⟩ auditorRoot =
        .ok ⟨[auditorRoot], false, false⟩ := by
    unfold considerOutcomeObserver
    rw [if_neg (not_not.2 hobserves), if_neg (not_not.2 hdeclared), if_neg hindependent, hcurrent]
    rfl
  have hanswer : qualifyingOutcomeObservers platform [auditorRoot] closureStatement.predicate
      observedPolicy (closureParties action receipt) (minute 37) =
        .ok ([lit "d-auditor"], none) := by
    unfold qualifyingOutcomeObservers
    rw [Flow.finish_eq_ok]
    right
    simp only [bind_eq_ok, Flow.returnIf_eq_ok, not_not, not_lt]
    exact ⟨⟨[auditorRoot], false, false⟩, by rw [List.foldlM_cons, hround]; rfl, (), by decide, (),
      by decide, (), hsame, (), by decide, rfl⟩
  exact (congrArg (qualifyingOutcomeObservers platform · _ _ _ _) verified_closureParts).trans
    hanswer

theorem sha256_evidenceBytes : sha256Bytes platform evidenceBytes = digest evidenceDigest :=
  sha256Bytes_platform (n := 1) (x := some 0x65) rfl rfl (by simp [digests])

theorem evidence_closure : resolveOutcomeEvidence platform closureStatement.predicate
    closureCall.evidenceResolver (minute 37) = none := by
  have hkind : closureStatement.predicate.evidenceSource.sourceKind = .localBytes := rfl
  have htime : ¬ (minute 37 < closureStatement.predicate.evidenceSource.observedAt ∨
      closureStatement.predicate.evidenceSource.validUntil < minute 37) := by
    decide
  have hdigests : evidenceDigests closureStatement.predicate =
      List.replicate 5 (digest evidenceDigest) := rfl
  unfold resolveOutcomeEvidence
  rw [if_neg (not_not.2 hkind), if_neg htime]
  simp only [closureCall]
  rw [hdigests]
  refine List.findSome?_eq_none_iff.2 fun d hd => ?_
  rw [List.eq_of_mem_replicate hd]
  unfold resolveDigest
  simp only [sha256_evidenceBytes, ne_eq, not_true_eq_false, if_false]

set_option maxRecDepth 100000 in
theorem agrees_closure :
    closureAgrees closureStatement.predicate statement.predicate receiptStatement.predicate ∧
    ¬ windowInvalid closureStatement.predicate statement.predicate receiptStatement.predicate
      (minute 37) ∧
    closureStatement.predicate.reconciliation.Uniform .succeeded := by
  decide

/-- The sample closure reaches the reconciliation stage. -/
theorem closureBound_sample : ClosureBound platform closureCall boundClosure where
  opened := opened_closure
  observed := ⟨_, observers_closure auditorRoot_observes.2.2.2.2.1⟩
  evidence := evidence_closure
  binding := construct_eq_ok.2 ⟨closureBinding.valid, rfl⟩
  action := action_closure
  receipt := receipt_closure
  observers := observers_closure auditorRoot_observes.2.2.2.2.2
  agrees := agrees_closure.1
  window := agrees_closure.2.1

theorem sha256_closurePayload : sha256Bytes platform closurePayload = digest closurePayloadDigest :=
  sha256Bytes_platform length_closurePayload (head_canonicalJson _) (by simp [digests])

theorem sha256_closureParts :
    sha256Bytes platform closureParts.bytes = digest closureEnvelopeDigest :=
  sha256Bytes_platform length_closureParts closureParts.head_bytes (by simp [digests])

def recordedClosure : OutcomeClosureVerificationResult where
  status := .pass
  reasonCodes := ⟨[.passVerified], by decide⟩
  closureId := some (ident "closure-1")
  payloadSha256 := some (digest closurePayloadDigest)
  envelopeSha256 := digest closureEnvelopeDigest
  verifiedOutcomeObserverRoots := ⟨[lit "d-auditor"], by decide⟩
  recorded := true
  attemptId := some (ident "attempt-1")
  closureSequence := some one
  previousPayloadSha256 := none
  expectedEffectCount := some one
  observedSuccessCount := some ⟨1, by decide⟩
  unresolvedEffectCount := some ⟨0, by decide⟩
  valid := by decide

set_option maxRecDepth 100000 in
theorem conclude_boundClosure :
    boundClosure.conclude platform closureCall .pass .appended = .ok recordedClosure := by
  have henvelope : sha256Bytes platform closureCall.envelopeBytes = digest closureEnvelopeDigest :=
    sha256_closureParts
  have hpayload : sha256Bytes platform boundClosure.toOpenedClosure.payload =
      digest closurePayloadDigest := sha256_closurePayload
  unfold BoundClosure.conclude OpenedClosure.result
  rw [henvelope, hpayload]
  decide

/-- An index for ten closures. -/
def closureIndex : InMemoryOutcomeClosureIndex := .init capacity

theorem verify_closureCall : (verifyOutcomeClosure platform closureCall
    InMemoryOutcomeClosureIndex.protocol closureIndex).1 = .ok recordedClosure := by
  have huniform := agrees_closure.2.2
  have hverdict : boundClosure.reconcile platform closureCall = .ok .pass := by
    rcases boundClosure.reconcile_cases platform closureCall with
      ⟨-, heq⟩ | ⟨hf, -⟩ | ⟨hmixed, -⟩ | ⟨hns, -⟩
    · exact heq
    · exact absurd hf huniform.not_failed
    · exact absurd (.inl huniform) hmixed.not_uniform
    · exact absurd huniform hns
  obtain ⟨index', happend⟩ := InMemoryOutcomeClosureIndex.appendOnce_init capacity
    (a := boundClosure.append platform) rfl rfl
  have hanswer : (InMemoryOutcomeClosureIndex.protocol.appendOnce closureIndex
      (boundClosure.append platform)).1 = some .appended :=
    congrArg Prod.fst (InMemoryOutcomeClosureIndex.protocol_appendOnce happend)
  rw [verifyOutcomeClosure_of_bound closureBound_sample, hverdict]
  simp only
  rw [hanswer]
  exact conclude_boundClosure

end Sample

/-- The sample closure gets the verdict of its reconciliation. -/
theorem sample_verdict_exact :
    (verifyOutcomeClosure Sample.platform Sample.closureCall InMemoryOutcomeClosureIndex.protocol
        Sample.closureIndex).1 = .ok Sample.recordedClosure ∧
      VerdictDerived Sample.platform Sample.closureCall InMemoryOutcomeClosureIndex.protocol
        Sample.closureIndex Sample.boundClosure Sample.recordedClosure :=
  ⟨Sample.verify_closureCall,
    (verifyOutcomeClosure_verdict_exact Sample.closureBound_sample Sample.verify_closureCall).1⟩

end ProofFlow
