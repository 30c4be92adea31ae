import ProofFlow.Receipt.Verify

/-!
# OutcomeClosure contracts

The statement of an outcome closure and the operator's expected binding, with the validators of
each model.  Every timestamp uses the UTC wire profile, so parsing a closure raises nothing but
`ValueError` (`Decode.quiet_outcomeClosureStatement`).
-/

namespace ProofFlow

open Kit

def outcomeClosureAudience : Str := lit "proofflow-outcome-closure"

def maxEffectAttempts : ℕ := 128

def maxUnresolvedEffects : ℕ := 128

inductive ClaimedOutcome where
  | pass
  | fail
  | unknown
  deriving DecidableEq

inductive EffectAttemptStatus where
  | succeeded
  | failed
  deriving DecidableEq

inductive EffectTerminalResult where
  | effectCommitted
  | effectRejected
  | effectNotApplied
  deriving DecidableEq

inductive UnresolvedEffectReason where
  | queryUnavailable
  | pending
  | conflict
  | missingEvidence
  deriving DecidableEq

/-! ## Declarations and references -/

structure OutcomeProducerDeclarationFields where
  producerId : Identifier
  softwareName : LocalText 1 128
  softwareVersion : LocalText 1 64
  observerPrincipals : Items Str 1 16
  deriving DecidableEq

/-- `observer_principals_are_unique`. -/
def OutcomeProducerDeclarationFields.validate (p : OutcomeProducerDeclarationFields) :
    Except PyErr Unit := do
  raiseIf (¬ p.observerPrincipals.val.Nodup) "outcome observer principals must be unique"
  raiseIf (∃ v ∈ p.observerPrincipals.val, isIdentifier v = false)
    "outcome observer principal is invalid"

structure OutcomeProducerDeclaration extends OutcomeProducerDeclarationFields where
  valid : toOutcomeProducerDeclarationFields.validate = .ok ()
  deriving DecidableEq

structure ExecutionReceiptReference where
  receiptId : Identifier
  payloadSha256 : Sha256Text
  envelopeSha256 : Sha256Text
  verificationResultSha256 : Sha256Text
  deriving DecidableEq

structure OutcomeEvidenceSourceFields where
  sourceKind : OutcomeEvidenceSourceKind
  principalId : Identifier
  observedAt : UtcTime
  validUntil : UtcTime
  sourceEventSha256 : Sha256Text
  deriving DecidableEq

/-- `source_window_is_valid`. -/
def OutcomeEvidenceSourceFields.validate (s : OutcomeEvidenceSourceFields) : Except PyErr Unit :=
  raiseIf (s.validUntil < s.observedAt)
    "outcome evidence source valid_until must follow observed_at"

structure OutcomeEvidenceSource extends OutcomeEvidenceSourceFields where
  valid : toOutcomeEvidenceSourceFields.validate = .ok ()
  deriving DecidableEq

/-! ## Reconciliation -/

structure EffectAttemptObservationFields where
  effectId : Identifier
  attemptId : Identifier
  effectType : LocalText 1 128
  target : LocalText 1 512
  intentSha256 : Sha256Text
  idempotencyKey : Identifier
  status : EffectAttemptStatus
  terminalResult : EffectTerminalResult
  providerOperationId : Option Identifier
  beforeStateSha256 : Sha256Text
  afterStateSha256 : Sha256Text
  providerEventSha256 : Sha256Text
  observerEvidenceSha256 : Sha256Text
  deriving DecidableEq

/-- `terminal_result_matches_status`. -/
def EffectAttemptObservationFields.validate (a : EffectAttemptObservationFields) :
    Except PyErr Unit :=
  match a.status with
  | .succeeded =>
    raiseIf (a.terminalResult ≠ .effectCommitted ∨ a.providerOperationId = none)
      "SUCCEEDED effect must have committed result and provider operation"
  | .failed =>
    raiseIf (a.terminalResult = .effectCommitted)
      "FAILED effect must not have EFFECT_COMMITTED terminal result"

structure EffectAttemptObservation extends EffectAttemptObservationFields where
  valid : toEffectAttemptObservationFields.validate = .ok ()
  deriving DecidableEq

structure UnresolvedEffectObservationFields where
  effectId : Identifier
  reason : UnresolvedEffectReason
  observerEvidenceSha256 : Option Sha256Text
  deriving DecidableEq

/-- `unresolved_requires_evidence`. -/
def UnresolvedEffectObservationFields.validate (u : UnresolvedEffectObservationFields) :
    Except PyErr Unit :=
  if u.reason = .missingEvidence then
    raiseIf (u.observerEvidenceSha256 ≠ none) "MISSING_EVIDENCE must not claim observer evidence"
  else
    raiseIf (u.observerEvidenceSha256 = none)
      "an unresolved effect reason requires observer evidence"

structure UnresolvedEffectObservation extends UnresolvedEffectObservationFields where
  valid : toUnresolvedEffectObservationFields.validate = .ok ()
  deriving DecidableEq

structure EffectReconciliationFields where
  effectType : LocalText 1 128
  target : LocalText 1 512
  intentSha256 : Sha256Text
  idempotencyKey : Identifier
  expectedEffectCount : Ranged 1 16
  attempts : Items EffectAttemptObservation 0 maxEffectAttempts
  unresolved : Items UnresolvedEffectObservation 0 maxUnresolvedEffects
  deriving DecidableEq

/-- `observations_are_unambiguous`. -/
def EffectReconciliationFields.validate (r : EffectReconciliationFields) : Except PyErr Unit := do
  let effectIds : List Identifier := r.attempts.val.map fun a => a.effectId
  let unresolvedIds : List Identifier := r.unresolved.val.map fun u => u.effectId
  raiseIf (¬ (r.attempts.val.map fun a => a.attemptId).Nodup) "effect attempt IDs must be unique"
  raiseIf (¬ effectIds.Nodup) "effect IDs must be unique"
  raiseIf (¬ (r.attempts.val.filterMap fun a => a.providerOperationId).Nodup)
    "provider operation IDs must be unique"
  raiseIf (¬ unresolvedIds.Nodup) "unresolved effect IDs must be unique"
  raiseIf (∃ i ∈ effectIds, i ∈ unresolvedIds) "resolved and unresolved effect IDs must be disjoint"
  raiseIf (∃ a ∈ r.attempts.val, a.effectType ≠ r.effectType ∨ a.target ≠ r.target ∨
      a.intentSha256 ≠ r.intentSha256 ∨ a.idempotencyKey ≠ r.idempotencyKey)
    "effect attempt is not bound to the reconciled intent"
  raiseIf (r.expectedEffectCount.val < r.unresolved.val.length)
    "unresolved effect count cannot exceed expected effect count"

structure EffectReconciliation extends EffectReconciliationFields where
  valid : toEffectReconciliationFields.validate = .ok ()
  deriving DecidableEq

namespace EffectReconciliation

/-- `sum(item.status == SUCCEEDED for item in attempts)`. -/
def successes (r : EffectReconciliation) : ℕ := r.attempts.val.countP fun a => a.status = .succeeded

/-- `any(item.status == SUCCEEDED for item in attempts)`. -/
def anySucceeded (r : EffectReconciliation) : Prop := ∃ a ∈ r.attempts.val, a.status = .succeeded

instance (r : EffectReconciliation) : Decidable r.anySucceeded :=
  inferInstanceAs (Decidable (∃ a ∈ _, _))

theorem successes_pos_iff (r : EffectReconciliation) : 0 < r.successes ↔ r.anySucceeded := by
  simp [successes, anySucceeded, List.countP_pos_iff]

theorem successes_le (r : EffectReconciliation) : r.successes ≤ r.attempts.val.length :=
  List.countP_le_length

end EffectReconciliation

/-- An attempt's terminal result follows its status. -/
theorem EffectAttemptObservation.terminalResult_of_succeeded (a : EffectAttemptObservation)
    (h : a.status = .succeeded) : a.terminalResult = .effectCommitted := by
  have hv := a.valid
  simp only [EffectAttemptObservationFields.validate, h, raiseIf_eq_ok, not_or, not_not] at hv
  exact hv.1

theorem EffectAttemptObservation.terminalResult_of_failed (a : EffectAttemptObservation)
    (h : a.status = .failed) : a.terminalResult ≠ .effectCommitted := by
  have hv := a.valid
  simpa only [EffectAttemptObservationFields.validate, h, raiseIf_eq_ok] using hv

/-! ## The statement -/

structure OutcomeClosurePredicate where
  closureId : Identifier
  executionId : Identifier
  taskId : Identifier
  attemptId : Identifier
  closureSequence : Ranged 1 1000000
  previousPayloadSha256 : Option Sha256Text
  tenantId : Identifier
  caseId : Identifier
  issuedAt : UtcTime
  certificateRef : ActionCertificateReference
  receiptRef : ExecutionReceiptReference
  evidenceSource : OutcomeEvidenceSource
  producer : OutcomeProducerDeclaration
  reconciliation : EffectReconciliation
  claimedOutcome : ClaimedOutcome
  deriving DecidableEq

structure OutcomeClosureStatementFields where
  subject : Items InTotoSubject 0 64
  predicate : OutcomeClosurePredicate
  deriving DecidableEq

/-- `subjects_are_unique`. -/
def OutcomeClosureStatementFields.validate (s : OutcomeClosureStatementFields) :
    Except PyErr Unit :=
  raiseIf (¬ (s.subject.val.map InTotoSubject.name).Nodup) "outcome subject names must be unique"

structure OutcomeClosureStatement extends OutcomeClosureStatementFields where
  valid : toOutcomeClosureStatementFields.validate = .ok ()
  deriving DecidableEq

/-! ## Expected binding -/

structure ExpectedOutcomeBindingFields where
  tenantId : Identifier
  caseId : Identifier
  executionId : Identifier
  taskId : Identifier
  attemptId : Identifier
  closureSequence : Ranged 1 1000000
  previousPayloadSha256 : Option Sha256Text
  certificateRef : ActionCertificateReference
  receiptRef : ExecutionReceiptReference
  evidenceSource : OutcomeEvidenceSource
  humanPrincipalKeyFingerprints : Items Str 1 16
  executorWorkloadKeyFingerprints : Items Str 1 16
  effectType : LocalText 1 128
  effectTarget : LocalText 1 512
  effectIntentSha256 : Sha256Text
  idempotencyKey : Identifier
  expectedEffectCount : Ranged 1 16
  deriving DecidableEq

/-- `key_fingerprints_are_unique_and_well_formed`, for both fields. -/
def ExpectedOutcomeBindingFields.validate (b : ExpectedOutcomeBindingFields) :
    Except PyErr Unit := do
  validateKeyFingerprints b.humanPrincipalKeyFingerprints.val
  validateKeyFingerprints b.executorWorkloadKeyFingerprints.val

structure ExpectedOutcomeBinding extends ExpectedOutcomeBindingFields where
  valid : toExpectedOutcomeBindingFields.validate = .ok ()
  deriving DecidableEq

/-- The comparison view of a statement. -/
def outcomeBindingFields (statement : OutcomeClosureStatement)
    (humanPrincipalKeyFingerprints executorWorkloadKeyFingerprints : Items Str 1 16) :
    ExpectedOutcomeBindingFields where
  tenantId := statement.predicate.tenantId
  caseId := statement.predicate.caseId
  executionId := statement.predicate.executionId
  taskId := statement.predicate.taskId
  attemptId := statement.predicate.attemptId
  closureSequence := statement.predicate.closureSequence
  previousPayloadSha256 := statement.predicate.previousPayloadSha256
  certificateRef := statement.predicate.certificateRef
  receiptRef := statement.predicate.receiptRef
  evidenceSource := statement.predicate.evidenceSource
  humanPrincipalKeyFingerprints := humanPrincipalKeyFingerprints
  executorWorkloadKeyFingerprints := executorWorkloadKeyFingerprints
  effectType := statement.predicate.reconciliation.effectType
  effectTarget := statement.predicate.reconciliation.target
  effectIntentSha256 := statement.predicate.reconciliation.intentSha256
  idempotencyKey := statement.predicate.reconciliation.idempotencyKey
  expectedEffectCount := statement.predicate.reconciliation.expectedEffectCount

/-- `expected_outcome_binding_for`. -/
def expectedOutcomeBindingFor (statement : OutcomeClosureStatement)
    (humanPrincipalKeyFingerprints executorWorkloadKeyFingerprints : Items Str 1 16) :
    Except PyErr ExpectedOutcomeBinding :=
  construct ExpectedOutcomeBinding.mk
    (outcomeBindingFields statement humanPrincipalKeyFingerprints executorWorkloadKeyFingerprints)

/-- The view built with the fingerprints of an expected binding is well formed. -/
theorem expectedOutcomeBindingFor_total (statement : OutcomeClosureStatement)
    (expected : ExpectedOutcomeBinding) :
    ∃ b, expectedOutcomeBindingFor statement expected.humanPrincipalKeyFingerprints
      expected.executorWorkloadKeyFingerprints = .ok b :=
  ⟨_, construct_eq_ok.2 ⟨expected.valid, rfl⟩⟩

/-! ## Decoders -/

namespace Decode

def outcomeProducerDeclaration : Decoder OutcomeProducerDeclaration :=
  modelAfter ["producer_id", "software_name", "software_version", "observer_principals"]
      OutcomeProducerDeclaration.mk fun o =>
    OutcomeProducerDeclarationFields.mk <$>
        field o "producer_id" identifier
      <*> field o "software_name" (localText 1 128)
      <*> field o "software_version" (localText 1 64)
      <*> field o "observer_principals" (items 1 16 str)

def executionReceiptReference : Decoder ExecutionReceiptReference :=
  model ["receipt_id", "payload_sha256", "envelope_sha256", "verification_result_sha256"] fun o =>
    ExecutionReceiptReference.mk <$> field o "receipt_id" identifier
      <*> field o "payload_sha256" sha256
      <*> field o "envelope_sha256" sha256
      <*> field o "verification_result_sha256" sha256

def outcomeEvidenceSourceKind : Decoder OutcomeEvidenceSourceKind :=
  enumeration [("LOCAL_BYTES", .localBytes)]

def outcomeEvidenceSource : Decoder OutcomeEvidenceSource :=
  modelAfter ["source_kind", "source_version", "principal_id", "observed_at", "valid_until",
      "source_event_sha256"] OutcomeEvidenceSource.mk fun o =>
    (fun kind (_ : Unit) => OutcomeEvidenceSourceFields.mk kind) <$>
        field o "source_kind" outcomeEvidenceSourceKind
      <*> field o "source_version" (literal "proofflow.outcome-evidence/v0.1")
      <*> field o "principal_id" identifier
      <*> field o "observed_at" (utcTimestamp "outcome evidence source observed_at")
      <*> field o "valid_until" (utcTimestamp "outcome evidence source valid_until")
      <*> field o "source_event_sha256" sha256

def effectAttemptStatus : Decoder EffectAttemptStatus :=
  enumeration [("SUCCEEDED", .succeeded), ("FAILED", .failed)]

def effectTerminalResult : Decoder EffectTerminalResult :=
  enumeration [("EFFECT_COMMITTED", .effectCommitted), ("EFFECT_REJECTED", .effectRejected),
    ("EFFECT_NOT_APPLIED", .effectNotApplied)]

def effectAttemptObservation : Decoder EffectAttemptObservation :=
  modelAfter ["effect_id", "attempt_id", "effect_type", "target", "intent_sha256",
      "idempotency_key", "status", "terminal_result", "provider_operation_id",
      "before_state_sha256", "after_state_sha256", "provider_event_sha256",
      "observer_evidence_sha256"] EffectAttemptObservation.mk fun o =>
    EffectAttemptObservationFields.mk <$>
        field o "effect_id" identifier
      <*> field o "attempt_id" identifier
      <*> field o "effect_type" (localText 1 128)
      <*> field o "target" (localText 1 512)
      <*> field o "intent_sha256" sha256
      <*> field o "idempotency_key" identifier
      <*> field o "status" effectAttemptStatus
      <*> field o "terminal_result" effectTerminalResult
      <*> fieldOr o "provider_operation_id" none (optional identifier)
      <*> field o "before_state_sha256" sha256
      <*> field o "after_state_sha256" sha256
      <*> field o "provider_event_sha256" sha256
      <*> field o "observer_evidence_sha256" sha256

def unresolvedEffectReason : Decoder UnresolvedEffectReason :=
  enumeration [("QUERY_UNAVAILABLE", .queryUnavailable), ("PENDING", .pending),
    ("CONFLICT", .conflict), ("MISSING_EVIDENCE", .missingEvidence)]

def unresolvedEffectObservation : Decoder UnresolvedEffectObservation :=
  modelAfter ["effect_id", "reason", "observer_evidence_sha256"]
      UnresolvedEffectObservation.mk fun o =>
    UnresolvedEffectObservationFields.mk <$>
        field o "effect_id" identifier
      <*> field o "reason" unresolvedEffectReason
      <*> fieldOr o "observer_evidence_sha256" none (optional sha256)

def effectReconciliation : Decoder EffectReconciliation :=
  modelAfter ["effect_type", "target", "intent_sha256", "idempotency_key", "expected_effect_count",
      "attempts", "unresolved"] EffectReconciliation.mk fun o =>
    EffectReconciliationFields.mk <$>
        field o "effect_type" (localText 1 128)
      <*> field o "target" (localText 1 512)
      <*> field o "intent_sha256" sha256
      <*> field o "idempotency_key" identifier
      <*> field o "expected_effect_count" (ranged 1 16)
      <*> field o "attempts" (items 0 maxEffectAttempts effectAttemptObservation)
      <*> field o "unresolved" (items 0 maxUnresolvedEffects unresolvedEffectObservation)

def claimedOutcome : Decoder ClaimedOutcome :=
  enumeration [("PASS", .pass), ("FAIL", .fail), ("UNKNOWN", .unknown)]

def outcomeClosurePredicate : Decoder OutcomeClosurePredicate :=
  model ["version", "closure_id", "execution_id", "task_id", "attempt_id", "closure_sequence",
      "previous_payload_sha256", "tenant_id", "case_id", "issued_at", "certificate_ref",
      "receipt_ref", "evidence_source", "producer", "reconciliation", "claimed_outcome"] fun o =>
    (fun (_ : Unit) => OutcomeClosurePredicate.mk) <$> field o "version" (literal "0.1")
      <*> field o "closure_id" identifier
      <*> field o "execution_id" identifier
      <*> field o "task_id" identifier
      <*> field o "attempt_id" identifier
      <*> field o "closure_sequence" (ranged 1 1000000)
      <*> fieldOr o "previous_payload_sha256" none (optional sha256)
      <*> field o "tenant_id" identifier
      <*> field o "case_id" identifier
      <*> field o "issued_at" (utcTimestamp "OutcomeClosure issued_at")
      <*> field o "certificate_ref" actionCertificateReference
      <*> field o "receipt_ref" executionReceiptReference
      <*> field o "evidence_source" outcomeEvidenceSource
      <*> field o "producer" outcomeProducerDeclaration
      <*> field o "reconciliation" effectReconciliation
      <*> field o "claimed_outcome" claimedOutcome

def outcomeClosureStatement : Decoder OutcomeClosureStatement :=
  modelAfter ["_type", "subject", "predicateType", "predicate"] OutcomeClosureStatement.mk fun o =>
    (fun (_ : Unit) subject (_ : Unit) => OutcomeClosureStatementFields.mk subject) <$>
        field o "_type" (literal "https://in-toto.io/Statement/v1")
      <*> field o "subject" (items 0 64 inTotoSubject)
      <*> field o "predicateType"
        (literal "https://proofflow.dev/attestations/outcome-closure/v0.1")
      <*> field o "predicate" outcomeClosurePredicate

/-! ### Decoding a closure raises nothing -/

@[simp] theorem quiet_outcomeProducerDeclaration (j : Json Str) :
    (outcomeProducerDeclaration j).Quiet := by
  refine quiet_modelAfter (fun o => ?_) fun p => ?_
  · simp [identifier, localText]
  · simp [OutcomeProducerDeclarationFields.validate]

@[simp] theorem quiet_executionReceiptReference (j : Json Str) :
    (executionReceiptReference j).Quiet := by
  simp [executionReceiptReference, identifier, sha256]

@[simp] theorem quiet_outcomeEvidenceSource (j : Json Str) : (outcomeEvidenceSource j).Quiet := by
  refine quiet_modelAfter (fun o => ?_) fun s => onlyValueErrors_raiseIf
  simp [outcomeEvidenceSourceKind, identifier, sha256]

@[simp] theorem quiet_effectAttemptObservation (j : Json Str) :
    (effectAttemptObservation j).Quiet := by
  refine quiet_modelAfter (fun o => ?_) fun a => ?_
  · simp [effectAttemptStatus, effectTerminalResult, identifier, sha256, localText]
  · unfold EffectAttemptObservationFields.validate
    split <;> exact onlyValueErrors_raiseIf

@[simp] theorem quiet_unresolvedEffectObservation (j : Json Str) :
    (unresolvedEffectObservation j).Quiet := by
  refine quiet_modelAfter (fun o => ?_) fun u => ?_
  · simp [unresolvedEffectReason, identifier, sha256]
  · unfold UnresolvedEffectObservationFields.validate
    split <;> exact onlyValueErrors_raiseIf

@[simp] theorem quiet_effectReconciliation (j : Json Str) : (effectReconciliation j).Quiet := by
  refine quiet_modelAfter (fun o => ?_) fun r => ?_
  · simp [identifier, sha256, localText]
  · exact onlyValueErrors_raiseIf.bind fun _ => onlyValueErrors_raiseIf.bind fun _ =>
      onlyValueErrors_raiseIf.bind fun _ => onlyValueErrors_raiseIf.bind fun _ =>
      onlyValueErrors_raiseIf.bind fun _ => onlyValueErrors_raiseIf.bind fun _ =>
      onlyValueErrors_raiseIf

@[simp] theorem quiet_outcomeClosurePredicate (j : Json Str) :
    (outcomeClosurePredicate j).Quiet := by
  refine quiet_model fun o => ?_
  simp [identifier, sha256, claimedOutcome]

/-- Parsing a closure never raises anything but a `ValueError`. -/
theorem quiet_outcomeClosureStatement (j : Json Str) : (outcomeClosureStatement j).Quiet := by
  refine quiet_modelAfter (fun o => ?_) fun s => onlyValueErrors_raiseIf
  simp

end Decode

end ProofFlow
