import ProofFlow.Outcome.Handoff
import ProofFlow.Outcome.Index

/-!
# Verification of outcome closures

`verify_outcome_closure`: the closure is opened and its observers are selected, its evidence is
resolved, the handed-over certificate and receipt are compared with it, and the verdict is derived
from the reconciliation.  Everything before the append depends on the call's own inputs only:
`openClosure` reads the closure, `bindClosure` compares it with everything else up to the
reconciliation stage, and `reconcile` derives the verdict.  The result is computed from the index's
answer (`conclude`).
-/

namespace ProofFlow

open Kit

/-- The arguments of `verify_outcome_closure` but the index. -/
structure OutcomeCall where
  envelopeBytes : Bytes
  trustPolicy : TrustPolicy
  expectedBinding : Option ExpectedOutcomeBinding
  actionCertificateEnvelopeBytes : Bytes
  actionCertificateVerification : Option ActionCertificateVerificationResult
  executionReceiptEnvelopeBytes : Bytes
  executionReceiptVerification : Option ExecutionReceiptVerificationResult
  now : DateTime
  evidenceResolver : Option OutcomeEvidenceResolver
  operatorExpectedBinding : Option ExpectedOutcomeBinding
  operatorActionCertificateVerification : Option ActionCertificateVerificationResult
  operatorExecutionReceiptVerification : Option ExecutionReceiptVerificationResult

/-- `_parse_wire_timestamp` of a `datetime`. -/
def parseWireTimestamp (value : DateTime) (label : String) : Except PyErr UtcTime :=
  match value.utcoffset with
  | none => .error (.valueError (label ++ " must use UTC RFC 3339 with a trailing Z"))
  | some o =>
    if o = 0 then value.astimezoneUtc else .error (.valueError (label ++ " must use UTC"))

/-- The operator's value takes the place of the plain argument, which may not contradict it. -/
def operatorValue {α : Type} [DecidableEq α] (value operator : Option α) (out : ClosureOutcome) :
    Flow PyErr OutcomeClosureVerificationResult (Option α) :=
  match operator with
  | none => .ok value
  | some o => do
    Flow.returnIf (∃ v ∈ value, v ≠ o) out
    return some o

/-- A call whose closure has been read. -/
structure OpenedClosure where
  expected : ExpectedOutcomeBinding
  actionResult : ActionCertificateVerificationResult
  receiptResult : ExecutionReceiptVerificationResult
  now : UtcTime
  envelope : DsseEnvelope
  payload : Bytes
  statement : OutcomeClosureStatement

/-- `verify_outcome_closure` up to the parsed closure. -/
def openClosure (P : Platform) (call : OutcomeCall) :
    Flow PyErr OutcomeClosureVerificationResult OpenedClosure := do
  let envelopeSha256 := sha256Bytes P call.envelopeBytes
  let leave (reason : OutcomeClosureVerificationReason) (payloadSha256 : Option Sha256Text) :
      ClosureOutcome :=
    outcomeResult .unknown [reason] envelopeSha256 payloadSha256 [] false none
  let expected? ← operatorValue call.expectedBinding call.operatorExpectedBinding
    (leave .actionCertificateHandoffUntrusted none)
  let actionResult? ← operatorValue call.actionCertificateVerification
    call.operatorActionCertificateVerification (leave .actionCertificateHandoffUntrusted none)
  let receiptResult? ← operatorValue call.executionReceiptVerification
    call.operatorExecutionReceiptVerification (leave .executionReceiptHandoffUntrusted none)
  let expected ← Flow.orReturn expected? (leave .actionCertificateHandoffUntrusted none)
  let actionResult ← Flow.orReturn actionResult? (leave .actionCertificateHandoffUntrusted none)
  let receiptResult ← Flow.orReturn receiptResult? (leave .actionCertificateHandoffUntrusted none)
  let now ← Flow.tryElse PyErr.isValueError (parseWireTimestamp call.now "verification time")
    (leave .envelopeInvalid none)
  Flow.returnIf (maxEnvelopeBytes < call.envelopeBytes.length) (leave .envelopeTooLarge none)
  let (envelope, payload) ← Flow.tryElse PyErr.isValueError
    (openEnvelope P call.envelopeBytes "OutcomeClosure DSSE envelope" "OutcomeClosure payload")
    (leave .envelopeInvalid none)
  Flow.returnIf (maxPayloadBytes < payload.length) (leave .payloadTooLarge none)
  let payloadSha256 := sha256Bytes P payload
  Flow.returnIf
    (cryptographicallyVerifiedRoots P envelope payload call.trustPolicy.roots.val = [])
    (leave .signatureInvalid (some payloadSha256))
  let statement ← Flow.tryElse PyErr.isValueError
    (parseJsonModel P Decode.outcomeClosureStatement payload "signed OutcomeClosure payload")
    (leave .payloadInvalid (some payloadSha256))
  return { expected, actionResult, receiptResult, now, envelope, payload, statement }

namespace OpenedClosure

/-- A result about the parsed closure: `_unknown`, `_unsafe` and the recorded `_result`. -/
def result (P : Platform) (call : OutcomeCall) (o : OpenedClosure) (status : OutcomeVerdict)
    (reason : OutcomeClosureVerificationReason) (observerRoots : List Str) (recorded : Bool) :
    ClosureOutcome :=
  outcomeResult status [reason] (sha256Bytes P call.envelopeBytes) (some (sha256Bytes P o.payload))
    observerRoots recorded (some o.statement.predicate)

/-- UNSAFE_SUCCESS when some attempt succeeded, UNKNOWN otherwise. -/
def refuse (P : Platform) (call : OutcomeCall) (o : OpenedClosure) (observerRoots : List Str)
    (unsafeReason unknownReason : OutcomeClosureVerificationReason) : ClosureOutcome :=
  if o.statement.predicate.reconciliation.anySucceeded then
    o.result P call .unsafeSuccess unsafeReason observerRoots false
  else o.result P call .unknown unknownReason observerRoots false

/-- The observers of the closure among the roots that verify it. -/
def observers (P : Platform) (call : OutcomeCall) (o : OpenedClosure)
    (action : Option ActionCertificatePredicate) (receipt : Option ExecutionReceiptStatement) :
    Except PyErr ObserverAnswer :=
  qualifyingOutcomeObservers P
    (cryptographicallyVerifiedRoots P o.envelope o.payload call.trustPolicy.roots.val)
    o.statement.predicate call.trustPolicy
    (outcomeParties P o.statement.predicate call.trustPolicy action receipt o.actionResult
      o.receiptResult o.expected) o.now

/-- What the refused handoff of a certificate or a receipt ends with. -/
def refuseHandoff (P : Platform) (call : OutcomeCall) (o : OpenedClosure)
    (observerRoots : List Str) (acceptanceUnknown unsafeReason reason :
      OutcomeClosureVerificationReason) : ClosureOutcome :=
  if reason = acceptanceUnknown ∧ o.statement.predicate.reconciliation.anySucceeded then
    o.result P call .unsafeSuccess unsafeReason observerRoots false
  else o.result P call .unknown reason observerRoots false

end OpenedClosure

/-- The negation of `binding_mismatch`. -/
def closureAgrees (predicate : OutcomeClosurePredicate) (action : ActionCertificatePredicate)
    (receipt : ExecutionReceiptPredicate) : Prop :=
  action.tenantId = predicate.tenantId ∧
    action.subject.subjectId.val = predicate.caseId.val ∧
    action.context.requestId = predicate.executionId ∧
    predicate.attemptId = receipt.attempt.attemptId ∧
    action.effect.effectType.val = predicate.reconciliation.effectType.val ∧
    action.effect.target.val = predicate.reconciliation.target.val ∧
    predicate.certificateRef.intentSha256 = predicate.reconciliation.intentSha256 ∧
    action.effect.idempotencyKey = predicate.reconciliation.idempotencyKey ∧
    receipt.tenantId = predicate.tenantId ∧
    receipt.caseId = predicate.caseId ∧
    receipt.executionId = predicate.executionId ∧
    receipt.taskId = predicate.taskId ∧
    receipt.certificateRef = predicate.certificateRef ∧
    receipt.effect.effectType = predicate.reconciliation.effectType ∧
    receipt.effect.target = predicate.reconciliation.target ∧
    receipt.effect.intentSha256 = predicate.reconciliation.intentSha256 ∧
    receipt.effect.idempotencyKey = predicate.reconciliation.idempotencyKey

instance (predicate : OutcomeClosurePredicate) (action : ActionCertificatePredicate)
    (receipt : ExecutionReceiptPredicate) : Decidable (closureAgrees predicate action receipt) :=
  inferInstanceAs (Decidable (_ ∧ _))

/-- `ordered_times`. -/
def orderedTimes (predicate : OutcomeClosurePredicate) (action : ActionCertificatePredicate)
    (receipt : ExecutionReceiptPredicate) : List ℤ :=
  [action.notBefore.instant, predicate.certificateRef.verificationAt.instant,
    predicate.certificateRef.reservedAt.instant, receipt.attempt.startedAt.instant,
    receipt.issuedAt.instant, predicate.evidenceSource.observedAt.instant,
    predicate.issuedAt.instant]

/-- `window_invalid`. -/
def windowInvalid (predicate : OutcomeClosurePredicate) (action : ActionCertificatePredicate)
    (receipt : ExecutionReceiptPredicate) (now : UtcTime) : Prop :=
  (∃ p ∈ (orderedTimes predicate action receipt).zip (orderedTimes predicate action receipt).tail,
      p.2 < p.1) ∨
    now < predicate.issuedAt ∨
    predicate.evidenceSource.validUntil < predicate.issuedAt ∨
    action.expiresAt.instant ≤ predicate.certificateRef.reservedAt.instant ∨
    action.expiresAt.instant ≤ predicate.issuedAt.instant ∨
    action.policy.expiresAt.instant < action.expiresAt.instant ∨
    predicate.evidenceSource.validUntil < predicate.evidenceSource.observedAt ∨
    action.expiresAt.instant ≤ receipt.issuedAt.instant

instance (predicate : OutcomeClosurePredicate) (action : ActionCertificatePredicate)
    (receipt : ExecutionReceiptPredicate) (now : UtcTime) :
    Decidable (windowInvalid predicate action receipt now) :=
  inferInstanceAs (Decidable (_ ∨ _))

/-- A call that has reached the reconciliation stage. -/
structure BoundClosure extends OpenedClosure where
  action : ActionCertificatePredicate
  receipt : ExecutionReceiptStatement
  observerRoots : List Str

/-- `verify_outcome_closure` from the parsed closure to the reconciliation stage. -/
def bindClosure (P : Platform) (call : OutcomeCall) (o : OpenedClosure) :
    Flow PyErr OutcomeClosureVerificationResult BoundClosure := do
  let policy := call.trustPolicy
  let predicate := o.statement.predicate
  let leave (reason : OutcomeClosureVerificationReason) (observerRoots : List Str) :
      ClosureOutcome :=
    o.result P call .unknown reason observerRoots false
  let (observerRoots, reason) ← Flow.raising (o.observers P call none none)
  Flow.returnSome reason fun reason => leave reason observerRoots
  Flow.returnSome (resolveOutcomeEvidence P predicate call.evidenceResolver o.now)
    fun reason => leave reason observerRoots
  let binding ← Flow.raising (expectedOutcomeBindingFor o.statement
    o.expected.humanPrincipalKeyFingerprints o.expected.executorWorkloadKeyFingerprints)
  Flow.returnIf (binding ≠ o.expected)
    (o.refuse P call observerRoots .effectBindingMismatch .expectedBindingMismatch)
  let (action, reason) ← Flow.raising (parseExternalActionCertificate P
    call.actionCertificateEnvelopeBytes o.actionResult predicate.certificateRef policy o.now)
  Flow.returnSome reason (o.refuseHandoff P call observerRoots .actionCertificateAcceptanceUnknown
    .actionCertificateUnsafe)
  let (receipt, reason) ← Flow.raising (parseExternalReceipt P call.executionReceiptEnvelopeBytes
    o.receiptResult predicate.receiptRef policy o.now)
  Flow.returnSome reason (o.refuseHandoff P call observerRoots .executionReceiptAcceptanceUnknown
    .executionReceiptUnsafe)
  let action ← Flow.orReturn action (leave .executionReceiptAcceptanceUnknown observerRoots)
  let receipt ← Flow.orReturn receipt (leave .executionReceiptAcceptanceUnknown observerRoots)
  let (observerRoots, reason) ← Flow.raising (o.observers P call (some action) (some receipt))
  Flow.returnSome reason fun reason => leave reason observerRoots
  Flow.returnIf (¬ closureAgrees predicate action receipt.predicate)
    (o.refuse P call observerRoots .effectBindingMismatch .effectBindingUnknown)
  Flow.returnIf (windowInvalid predicate action receipt.predicate o.now)
    (o.refuse P call observerRoots .outcomeWindowUnsafe .closureTimeInvalid)
  return { toOpenedClosure := o, action, receipt, observerRoots }

/-- `verify_outcome_closure` up to the reconciliation stage. -/
def reachReconciliation (P : Platform) (call : OutcomeCall) :
    Flow PyErr OutcomeClosureVerificationResult BoundClosure := do
  let o ← openClosure P call
  bindClosure P call o

namespace BoundClosure

/-- The derivation of the verdict: the reconciliation stage of `verify_outcome_closure`. -/
def reconcile (P : Platform) (call : OutcomeCall) (b : BoundClosure) :
    Flow PyErr OutcomeClosureVerificationResult OutcomeVerdict := do
  let reconciliation := b.statement.predicate.reconciliation
  let attempts := reconciliation.attempts.val
  let successes := reconciliation.successes
  let expected := reconciliation.expectedEffectCount.val
  Flow.returnIf (expected < successes)
    (b.result P call .unsafeSuccess .duplicateEffectSuccess b.observerRoots false)
  Flow.returnIf (reconciliation.unresolved.val ≠ [])
    (b.refuse P call b.observerRoots .unsafeUnresolvedEffect .effectReconciliationUnresolved)
  Flow.returnIf (attempts.length + reconciliation.unresolved.val.length ≠ expected)
    (b.refuse P call b.observerRoots .effectCountMismatch .effectCoverageIncomplete)
  if successes = expected ∧ ∀ a ∈ attempts, a.terminalResult = .effectCommitted then
    .ok .pass
  else if successes = 0 ∧ attempts.length = expected ∧ ∀ a ∈ attempts, a.status = .failed ∧
      (a.terminalResult = .effectRejected ∨ a.terminalResult = .effectNotApplied) then
    .ok .fail
  else
    .error (b.refuse P call b.observerRoots .effectTerminalInvalid .effectTerminalInvalid)

/-- The arguments of the append. -/
def append (P : Platform) (b : BoundClosure) : ClosureAppend where
  tenantId := b.statement.predicate.tenantId.val
  closureId := b.statement.predicate.closureId.val
  executionId := b.statement.predicate.executionId.val
  attemptId := b.statement.predicate.attemptId.val
  closureSequence := b.statement.predicate.closureSequence.val
  previousPayloadSha256 := b.statement.predicate.previousPayloadSha256.map Subtype.val
  payloadSha256 := (sha256Bytes P b.payload).val
  idempotencyKey := b.statement.predicate.reconciliation.idempotencyKey.val
  intentSha256 := b.statement.predicate.reconciliation.intentSha256.val

/-- `verify_outcome_closure` from the index's answer on. -/
def conclude (P : Platform) (call : OutcomeCall) (b : BoundClosure) (verdict : OutcomeVerdict)
    (status : OutcomeIndexStatus) : ClosureOutcome :=
  let record (reason : OutcomeClosureVerificationReason) : ClosureOutcome :=
    b.result P call verdict reason b.observerRoots true
  let leave (reason : OutcomeClosureVerificationReason) : ClosureOutcome :=
    b.result P call .unknown reason b.observerRoots false
  match status with
  | .appended => record (if verdict = .pass then .passVerified else .failVerified)
  | .alreadyPresent =>
    record (if verdict = .pass then .passAlreadyPresent else .failAlreadyPresent)
  | .closureIdConflict => leave .closureIdConflict
  | .attemptSequenceConflict => leave .attemptSequenceConflict
  | .previousDigestConflict => leave .previousDigestConflict
  | .idempotencyConflict => leave .idempotencyConflict
  | .unavailable => leave .outcomeIndexUnavailable

end BoundClosure

/-- `verify_outcome_closure` up to the append. -/
def deriveOutcome (P : Platform) (call : OutcomeCall) :
    Flow PyErr OutcomeClosureVerificationResult (BoundClosure × OutcomeVerdict) := do
  let b ← reachReconciliation P call
  let verdict ← b.reconcile P call
  return (b, verdict)

/-- `verify_outcome_closure`; an index that raises counts as unavailable. -/
def verifyOutcomeClosure {σ : Type} (P : Platform) (call : OutcomeCall)
    (outcomeIndex : OutcomeClosureIndex σ) (index : σ) : ClosureOutcome × σ :=
  match deriveOutcome P call with
  | .error out => (out, index)
  | .ok (b, verdict) =>
    let (answer, index) := outcomeIndex.appendOnce index (b.append P)
    (b.conclude P call verdict (answer.getD .unavailable), index)

end ProofFlow
