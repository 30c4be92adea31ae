import ProofFlow.Outcome.Contract

/-!
# Results of the outcome verifier

The verdicts and reason codes of `verify_outcome_closure`, and the result model, whose validator
pairs each verdict with the reasons it may carry.
-/

namespace ProofFlow

open Kit

inductive OutcomeVerdict where
  | pass
  | fail
  | unknown
  | unsafeSuccess
  deriving DecidableEq

inductive OutcomeClosureVerificationReason where
  | passVerified
  | failVerified
  | passAlreadyPresent
  | failAlreadyPresent
  | envelopeInvalid
  | envelopeTooLarge
  | payloadInvalid
  | payloadTooLarge
  | signatureInvalid
  | trustPolicyMismatch
  | expectedBindingMismatch
  | closureTimeInvalid
  | actionCertificateAcceptanceUnknown
  | actionCertificateHandoffUntrusted
  | executionReceiptAcceptanceUnknown
  | executionReceiptHandoffUntrusted
  | actionCertificateUnsafe
  | executionReceiptUnsafe
  | authorizationBindingMismatch
  | receiptBindingMismatch
  | effectBindingUnknown
  | effectBindingMismatch
  | effectCountMismatch
  | effectReconciliationUnresolved
  | unsafeUnresolvedEffect
  | duplicateEffectSuccess
  | duplicateProviderOperationId
  | outcomeObserverThresholdNotMet
  | rootTimeOrRevocationInvalid
  | producerSignerMismatch
  | selfObservation
  | closureIdConflict
  | attemptSequenceConflict
  | previousDigestConflict
  | idempotencyConflict
  | outcomeIndexUnavailable
  | evidenceSourceInvalid
  | evidenceBytesUnavailable
  | evidenceDigestMismatch
  | effectCoverageIncomplete
  | effectTerminalInvalid
  | outcomeWindowUnsafe
  | outcomeObserverSod
  deriving DecidableEq

/-- `PASS_OUTCOME_REASONS`. -/
def passOutcomeReasons : List OutcomeClosureVerificationReason :=
  [.passVerified, .passAlreadyPresent]

/-- `FAIL_OUTCOME_REASONS`. -/
def failOutcomeReasons : List OutcomeClosureVerificationReason :=
  [.failVerified, .failAlreadyPresent]

/-- `UNSAFE_OUTCOME_REASONS`. -/
def unsafeOutcomeReasons : List OutcomeClosureVerificationReason :=
  [.actionCertificateUnsafe, .executionReceiptUnsafe, .authorizationBindingMismatch,
    .receiptBindingMismatch, .effectBindingMismatch, .duplicateEffectSuccess,
    .duplicateProviderOperationId, .effectCountMismatch, .unsafeUnresolvedEffect,
    .outcomeWindowUnsafe, .outcomeObserverSod]

/-- The members of `UNKNOWN_OUTCOME_REASONS`: all reasons but those of the other verdicts. -/
def isUnknownOutcomeReason (r : OutcomeClosureVerificationReason) : Prop :=
  r ∉ unsafeOutcomeReasons ∧ r ∉ passOutcomeReasons ∧ r ∉ failOutcomeReasons

instance (r : OutcomeClosureVerificationReason) : Decidable (isUnknownOutcomeReason r) :=
  inferInstanceAs (Decidable (_ ∧ _))

structure OutcomeClosureVerificationResultFields where
  status : OutcomeVerdict
  reasonCodes : Items OutcomeClosureVerificationReason 1 16
  closureId : Option Identifier
  payloadSha256 : Option Sha256Text
  envelopeSha256 : Sha256Text
  verifiedOutcomeObserverRoots : Items Str 0 16
  recorded : Bool
  attemptId : Option Identifier
  closureSequence : Option (Ranged 1 1000000)
  previousPayloadSha256 : Option Sha256Text
  expectedEffectCount : Option (Ranged 1 16)
  observedSuccessCount : Option (Ranged 0 maxEffectAttempts)
  unresolvedEffectCount : Option (Ranged 0 maxUnresolvedEffects)
  deriving DecidableEq

namespace OutcomeClosureVerificationResultFields

/-- Something that a recorded verdict needs is missing.  The source also looks the one reason code
up in the same two reasons a second time. -/
def recordIncomplete (r : OutcomeClosureVerificationResultFields)
    (reasons : List OutcomeClosureVerificationReason) : Prop :=
  r.recorded = false ∨ r.reasonCodes.val.length ≠ 1 ∨ ¬ r.reasonCodes.val ⊆ reasons ∨
    r.closureId = none ∨ r.payloadSha256 = none ∨ r.verifiedOutcomeObserverRoots.val = [] ∨
    r.expectedEffectCount = none ∨ r.observedSuccessCount = none ∨
    r.unresolvedEffectCount = none ∨ r.attemptId = none ∨ r.closureSequence = none

instance (r : OutcomeClosureVerificationResultFields)
    (reasons : List OutcomeClosureVerificationReason) : Decidable (r.recordIncomplete reasons) :=
  inferInstanceAs (Decidable (_ ∨ _))

/-- `result_semantics_are_closed`. -/
def validate (r : OutcomeClosureVerificationResultFields) : Except PyErr Unit := do
  raiseIf (¬ r.reasonCodes.val.Nodup) "outcome verification reason codes must be unique"
  raiseIf (¬ r.verifiedOutcomeObserverRoots.val.Nodup)
    "verified outcome observer roots must be unique"
  match r.status with
  | .pass =>
    raiseIf (r.recordIncomplete passOutcomeReasons)
      "PASS requires a recorded, observer-bound closure"
  | .fail =>
    raiseIf (r.recordIncomplete failOutcomeReasons)
      "a recorded FAIL requires an observer-bound closure"
  | .unknown =>
    raiseIf (r.recorded = true ∨ ¬ ∀ c ∈ r.reasonCodes.val, isUnknownOutcomeReason c)
      "UNKNOWN requires only unavailable or unverified reasons"
  | .unsafeSuccess =>
    raiseIf (r.recorded = true ∨ ¬ r.reasonCodes.val ⊆ unsafeOutcomeReasons)
      "UNSAFE_SUCCESS requires only unsafe-success reasons"

end OutcomeClosureVerificationResultFields

structure OutcomeClosureVerificationResult extends OutcomeClosureVerificationResultFields where
  valid : toOutcomeClosureVerificationResultFields.validate = .ok ()
  deriving DecidableEq

/-- What a call of the verifier ends with. -/
abbrev ClosureOutcome := Outcome PyErr OutcomeClosureVerificationResult

namespace EffectReconciliation

/-- The number of successes as a field of the result. -/
def observedSuccessCount (r : EffectReconciliation) : Ranged 0 maxEffectAttempts :=
  ⟨r.successes, Nat.zero_le _, r.successes_le.trans r.attempts.property.2⟩

/-- The number of unresolved effects as a field of the result. -/
def unresolvedEffectCount (r : EffectReconciliation) : Ranged 0 maxUnresolvedEffects :=
  ⟨r.unresolved.val.length, r.unresolved.property⟩

end EffectReconciliation

/-- `_result`, with what is read off the closure when it has been parsed. -/
def outcomeResult (status : OutcomeVerdict) (reasons : List OutcomeClosureVerificationReason)
    (envelopeSha256 : Sha256Text) (payloadSha256 : Option Sha256Text) (observerRoots : List Str)
    (recorded : Bool) (predicate : Option OutcomeClosurePredicate) : ClosureOutcome := do
  let reasonCodes ← boundedItems 1 16 reasons.eraseDups
  let roots ← boundedItems 0 16 (sortedStr observerRoots)
  construct OutcomeClosureVerificationResult.mk
    { status := status
      reasonCodes := reasonCodes
      closureId := predicate.map fun p => p.closureId
      payloadSha256 := payloadSha256
      envelopeSha256 := envelopeSha256
      verifiedOutcomeObserverRoots := roots
      recorded := recorded
      attemptId := predicate.map fun p => p.attemptId
      closureSequence := predicate.map fun p => p.closureSequence
      previousPayloadSha256 := predicate.bind fun p => p.previousPayloadSha256
      expectedEffectCount := predicate.map fun p => p.reconciliation.expectedEffectCount
      observedSuccessCount := predicate.map fun p => p.reconciliation.observedSuccessCount
      unresolvedEffectCount := predicate.map fun p => p.reconciliation.unresolvedEffectCount }

section Result

variable {status : OutcomeVerdict} {reason : OutcomeClosureVerificationReason}
  {envelopeSha256 : Sha256Text} {payloadSha256 : Option Sha256Text} {observerRoots : List Str}
  {recorded : Bool} {predicate : Option OutcomeClosurePredicate}

theorem eraseDups_singleton : [reason].eraseDups = [reason] := by
  simp [List.eraseDups_cons]

/-- The fields of a result the verifier builds. -/
theorem outcomeResult_eq_ok {result : OutcomeClosureVerificationResult}
    (h : outcomeResult status [reason] envelopeSha256 payloadSha256 observerRoots recorded
      predicate =
      .ok result) :
    result.status = status ∧ result.reasonCodes.val = [reason] ∧ result.recorded = recorded ∧
      result.verifiedOutcomeObserverRoots.val = sortedStr observerRoots ∧
      result.payloadSha256 = payloadSha256 ∧ result.envelopeSha256 = envelopeSha256 := by
  simp only [outcomeResult, bind_eq_ok, boundedItems_eq_ok, construct_eq_ok] at h
  obtain ⟨codes, hcodes, roots, hroots, _, rfl⟩ := h
  exact ⟨rfl, hcodes.symm.trans eraseDups_singleton, rfl, hroots.symm, rfl, rfl⟩

/-- A result is built when its root ids are distinct and few and its validator is content. -/
theorem outcomeResult_total (hlen : observerRoots.length ≤ 16) (hnodup : observerRoots.Nodup)
    (hclosed : ∀ r : OutcomeClosureVerificationResultFields, r.status = status →
      r.reasonCodes.val = [reason] → r.recorded = recorded →
      r.verifiedOutcomeObserverRoots.val = sortedStr observerRoots →
      r.verifiedOutcomeObserverRoots.val.Nodup → r.validate = .ok ()) :
    ∃ result, outcomeResult status [reason] envelopeSha256 payloadSha256 observerRoots recorded
      predicate = .ok result := by
  have hsorted := (sortedStr_perm observerRoots).nodup_iff.2 hnodup
  simp only [outcomeResult, boundedItems, eraseDups_singleton, List.length_singleton,
    length_sortedStr, Nat.zero_le, hlen, le_refl, Nat.reduceLeDiff, and_self, dite_true, ok_bind]
  exact ⟨_, construct_eq_ok.2 ⟨hclosed _ rfl rfl rfl rfl hsorted, rfl⟩⟩

/-- An UNKNOWN result with one of its own reasons is built. -/
theorem unknownResult_total (hreason : isUnknownOutcomeReason reason)
    (hlen : observerRoots.length ≤ 16) (hnodup : observerRoots.Nodup) :
    ∃ result, outcomeResult .unknown [reason] envelopeSha256 payloadSha256 observerRoots false
      predicate = .ok result := by
  refine outcomeResult_total hlen hnodup fun r hstatus hcodes hrecorded _ hroots => ?_
  simp [OutcomeClosureVerificationResultFields.validate, hstatus, hcodes, hrecorded, hroots,
    hreason, bind_eq_ok]

/-- An UNSAFE_SUCCESS result with one of its own reasons is built. -/
theorem unsafeResult_total (hreason : reason ∈ unsafeOutcomeReasons)
    (hlen : observerRoots.length ≤ 16) (hnodup : observerRoots.Nodup) :
    ∃ result, outcomeResult .unsafeSuccess [reason] envelopeSha256 payloadSha256 observerRoots false
      predicate = .ok result := by
  refine outcomeResult_total hlen hnodup fun r hstatus hcodes hrecorded _ hroots => ?_
  simp [OutcomeClosureVerificationResultFields.validate, hstatus, hcodes, hrecorded, hroots,
    hreason, bind_eq_ok]

/-- A PASS or FAIL result about a parsed closure with observers is built. -/
theorem recordedResult_total {predicate : OutcomeClosurePredicate} {payloadSha256 : Sha256Text}
    (hreason : (status = .pass ∧ reason ∈ passOutcomeReasons) ∨
      (status = .fail ∧ reason ∈ failOutcomeReasons))
    (hlen : observerRoots.length ≤ 16) (hnodup : observerRoots.Nodup) (hne : observerRoots ≠ []) :
    ∃ result, outcomeResult status [reason] envelopeSha256 (some payloadSha256) observerRoots true
      (some predicate) = .ok result := by
  have hsorted := (sortedStr_perm observerRoots).nodup_iff.2 hnodup
  have hne' : sortedStr observerRoots ≠ [] := fun h =>
    hne (List.length_eq_zero_iff.1 (by rw [← length_sortedStr, h, List.length_nil]))
  simp only [outcomeResult, boundedItems, eraseDups_singleton, List.length_singleton,
    length_sortedStr, Nat.zero_le, hlen, le_refl, Nat.reduceLeDiff, and_self, dite_true, ok_bind]
  refine ⟨_, construct_eq_ok.2 ⟨?_, rfl⟩⟩
  rcases hreason with ⟨rfl, hreason⟩ | ⟨rfl, hreason⟩
  · simp [OutcomeClosureVerificationResultFields.validate,
      OutcomeClosureVerificationResultFields.recordIncomplete, hsorted, hne', hreason, bind_eq_ok]
  · simp [OutcomeClosureVerificationResultFields.validate,
      OutcomeClosureVerificationResultFields.recordIncomplete, hsorted, hne', hreason, bind_eq_ok]

theorem recorded_of_complete {r : OutcomeClosureVerificationResultFields}
    {reasons : List OutcomeClosureVerificationReason} (h : ¬ r.recordIncomplete reasons) :
    r.recorded = true ∧ r.reasonCodes.val ⊆ reasons := by
  simp only [OutcomeClosureVerificationResultFields.recordIncomplete, not_or, not_not,
    Bool.not_eq_false] at h
  exact ⟨h.1, h.2.2.1⟩

/-- What `result_semantics_are_closed` enforces: a verdict comes with its own reasons, and a record
with PASS and FAIL only. -/
def OutcomeClosureVerificationResult.SemanticsClosed (r : OutcomeClosureVerificationResult) :
    Prop :=
  (r.status = .pass → r.recorded = true ∧ r.reasonCodes.val ⊆ passOutcomeReasons) ∧
    (r.status = .fail → r.recorded = true ∧ r.reasonCodes.val ⊆ failOutcomeReasons) ∧
    (r.status = .unknown → r.recorded = false ∧ ∀ c ∈ r.reasonCodes.val, isUnknownOutcomeReason c) ∧
    (r.status = .unsafeSuccess → r.recorded = false ∧ r.reasonCodes.val ⊆ unsafeOutcomeReasons)

theorem OutcomeClosureVerificationResult.semanticsClosed (r : OutcomeClosureVerificationResult) :
    r.SemanticsClosed := by
  have hvalid := r.valid
  simp only [OutcomeClosureVerificationResultFields.validate, bind_eq_ok] at hvalid
  obtain ⟨_, -, _, -, hvalid⟩ := hvalid
  refine ⟨fun h => ?_, fun h => ?_, fun h => ?_, fun h => ?_⟩
  · simp only [h, raiseIf_eq_ok] at hvalid
    exact recorded_of_complete hvalid
  · simp only [h, raiseIf_eq_ok] at hvalid
    exact recorded_of_complete hvalid
  · simpa only [h, raiseIf_eq_ok, not_or, not_not, Bool.not_eq_true] using hvalid
  · simpa only [h, raiseIf_eq_ok, not_or, not_not, Bool.not_eq_true] using hvalid

end Result

end ProofFlow
