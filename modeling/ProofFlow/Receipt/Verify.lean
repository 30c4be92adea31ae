import ProofFlow.Receipt.Contract
import ProofFlow.Receipt.Index

/-!
# Verification of execution receipts

`verify_execution_receipt`: the receipt is opened and compared with the caller's expected binding,
the certificate it refers to is recomputed from the handed-over envelope and verification result,
the observers that signed it are selected, and the receipt is appended to the index.  Everything
before the append depends on the call's own inputs only (`examine`); the result is computed from
the index's answer (`conclude`).
-/

namespace ProofFlow

open Kit

/-! ## Results -/

inductive ExecutionReceiptVerificationReason where
  | appended
  | alreadyPresent
  | envelopeInvalid
  | envelopeTooLarge
  | payloadInvalid
  | payloadTooLarge
  | signatureInvalid
  | trustPolicyMismatch
  | expectedBindingMismatch
  | receiptTimeInvalid
  | actionCertificateReferenceMismatch
  | actionCertificateNotAccepted
  | actionCertificateReservationOrderInvalid
  | certificateExecutionWindowMismatch
  | actionCertificateAcceptanceUnknown
  | actionCertificateAuthorityUnknown
  | executionObserverThresholdNotMet
  | rootTimeOrRevocationInvalid
  | producerSignerMismatch
  | selfObservation
  | receiptIdConflict
  | attemptConflict
  | idempotencyConflict
  | receiptIndexUnavailable
  deriving DecidableEq

/-- The value of a reason code. -/
def ExecutionReceiptVerificationReason.value : ExecutionReceiptVerificationReason → Str
  | .appended => lit "APPENDED"
  | .alreadyPresent => lit "ALREADY_PRESENT"
  | .envelopeInvalid => lit "ENVELOPE_INVALID"
  | .envelopeTooLarge => lit "ENVELOPE_TOO_LARGE"
  | .payloadInvalid => lit "PAYLOAD_INVALID"
  | .payloadTooLarge => lit "PAYLOAD_TOO_LARGE"
  | .signatureInvalid => lit "SIGNATURE_INVALID"
  | .trustPolicyMismatch => lit "TRUST_POLICY_MISMATCH"
  | .expectedBindingMismatch => lit "EXPECTED_BINDING_MISMATCH"
  | .receiptTimeInvalid => lit "RECEIPT_TIME_INVALID"
  | .actionCertificateReferenceMismatch => lit "ACTION_CERTIFICATE_REFERENCE_MISMATCH"
  | .actionCertificateNotAccepted => lit "ACTION_CERTIFICATE_NOT_ACCEPTED"
  | .actionCertificateReservationOrderInvalid => lit "ACTION_CERTIFICATE_RESERVATION_ORDER_INVALID"
  | .certificateExecutionWindowMismatch => lit "CERTIFICATE_EXECUTION_WINDOW_MISMATCH"
  | .actionCertificateAcceptanceUnknown => lit "ACTION_CERTIFICATE_ACCEPTANCE_UNKNOWN"
  | .actionCertificateAuthorityUnknown => lit "ACTION_CERTIFICATE_AUTHORITY_UNKNOWN"
  | .executionObserverThresholdNotMet => lit "EXECUTION_OBSERVER_THRESHOLD_NOT_MET"
  | .rootTimeOrRevocationInvalid => lit "ROOT_TIME_OR_REVOCATION_INVALID"
  | .producerSignerMismatch => lit "PRODUCER_SIGNER_MISMATCH"
  | .selfObservation => lit "SELF_OBSERVATION"
  | .receiptIdConflict => lit "RECEIPT_ID_CONFLICT"
  | .attemptConflict => lit "ATTEMPT_CONFLICT"
  | .idempotencyConflict => lit "IDEMPOTENCY_CONFLICT"
  | .receiptIndexUnavailable => lit "RECEIPT_INDEX_UNAVAILABLE"

/-- `REJECT_RECEIPT_REASONS`. -/
def rejectReceiptReasons : List ExecutionReceiptVerificationReason :=
  [.envelopeInvalid, .envelopeTooLarge, .payloadInvalid, .payloadTooLarge, .signatureInvalid,
    .trustPolicyMismatch, .expectedBindingMismatch, .receiptTimeInvalid,
    .actionCertificateReferenceMismatch, .actionCertificateNotAccepted,
    .actionCertificateReservationOrderInvalid, .certificateExecutionWindowMismatch,
    .producerSignerMismatch, .selfObservation, .receiptIdConflict, .attemptConflict,
    .idempotencyConflict, .rootTimeOrRevocationInvalid]

/-- `UNKNOWN_RECEIPT_REASONS`. -/
def unknownReceiptReasons : List ExecutionReceiptVerificationReason :=
  [.actionCertificateAcceptanceUnknown, .actionCertificateAuthorityUnknown,
    .executionObserverThresholdNotMet, .receiptIndexUnavailable]

structure ExecutionReceiptVerificationResultFields where
  status : VerificationStatus
  reasonCodes : Items ExecutionReceiptVerificationReason 1 16
  receiptId : Option Str
  payloadSha256 : Option Sha256Text
  envelopeSha256 : Sha256Text
  verifiedExecutionObserverRoots : Items Str 0 16
  recorded : Bool
  inferenceStatus : ObservationState
  usageStatus : ObservationState
  effectStatus : ObservationState
  costStatus : ObservationState
  durationStatus : ObservationState
  deriving DecidableEq

namespace ExecutionReceiptVerificationResultFields

/-- `observation_states`. -/
def observationStates (r : ExecutionReceiptVerificationResultFields) : List ObservationState :=
  [r.inferenceStatus, r.usageStatus, r.effectStatus, r.costStatus, r.durationStatus]

/-- `result_semantics_are_closed`. -/
def validate (r : ExecutionReceiptVerificationResultFields) : Except PyErr Unit := do
  raiseIf (¬ r.reasonCodes.val.Nodup) "verification reason codes must be unique"
  raiseIf (¬ r.verifiedExecutionObserverRoots.val.Nodup) "verified observer root IDs must be unique"
  match r.status with
  | .accept =>
    raiseIf (r.reasonCodes.val ∉ [[.appended], [.alreadyPresent]] ∨ r.recorded = false ∨
        r.receiptId = none ∨ r.payloadSha256 = none ∨ r.verifiedExecutionObserverRoots.val = [])
      "ACCEPT requires a bound receipt, observer root, and recorded=true"
  | .reject =>
    raiseIf (r.recorded = true ∨ ¬ r.reasonCodes.val ⊆ rejectReceiptReasons ∨
        ∃ s ∈ r.observationStates, s ≠ .unknown)
      "REJECT requires only closed rejection reasons and recorded=false"
  | .unknown =>
    raiseIf (r.recorded = true ∨ ¬ r.reasonCodes.val ⊆ unknownReceiptReasons ∨
        ∃ s ∈ r.observationStates, s ≠ .unknown)
      "UNKNOWN requires only unavailable reasons and recorded=false"

end ExecutionReceiptVerificationResultFields

structure ExecutionReceiptVerificationResult extends ExecutionReceiptVerificationResultFields where
  valid : toExecutionReceiptVerificationResultFields.validate = .ok ()
  deriving DecidableEq

/-- What a call of the verifier ends with. -/
abbrev ReceiptOutcome := Outcome PyErr ExecutionReceiptVerificationResult

/-- `_result`: the observation states of the receipt are reported with ACCEPT only. -/
def receiptResult (status : VerificationStatus) (reasons : List ExecutionReceiptVerificationReason)
    (envelopeSha256 : Sha256Text) (receiptId : Option Identifier)
    (payloadSha256 : Option Sha256Text) (observerRoots : List Str) (recorded : Bool)
    (statement : Option ExecutionReceiptStatement) : ReceiptOutcome := do
  let predicate := if status = .accept then statement.map fun s => s.predicate else none
  let model := predicate.bind fun p => p.modelInvocation
  let reasonCodes ← boundedItems 1 16 reasons.eraseDups
  let roots ← boundedItems 0 16 (sortedStr observerRoots)
  construct ExecutionReceiptVerificationResult.mk
    { status := status
      reasonCodes := reasonCodes
      receiptId := receiptId.map Subtype.val
      payloadSha256 := payloadSha256
      envelopeSha256 := envelopeSha256
      verifiedExecutionObserverRoots := roots
      recorded := recorded
      inferenceStatus := (model.map fun m => m.inferenceStatus).getD .unknown
      usageStatus := (model.map fun m => m.usage.status).getD .unknown
      effectStatus := (predicate.map fun p => p.effect.status).getD .unknown
      costStatus := (predicate.map fun p => p.cost.status).getD .unknown
      durationStatus := (predicate.map fun p => p.duration.status).getD .unknown }

/-! ## The handed-over certificate -/

def ActionCertificateVerificationResult.modelDump (r : ActionCertificateVerificationResult) :
    Canon :=
  .obj [member "verification_version" (.str (lit "proofflow.action-certificate-verification/v0.1")),
    member "status" (.str r.status.value),
    member "reason_codes" (.arr (r.reasonCodes.val.map fun c => .str c.value)),
    member "certificate_id" (.optional r.certificateId),
    member "payload_sha256" (.optional (r.payloadSha256.map Subtype.val)),
    member "verified_action_issuer_roots" (.arr (r.verifiedActionIssuerRoots.val.map .str)),
    member "verified_human_approval_roots" (.arr (r.verifiedHumanApprovalRoots.val.map .str)),
    member "reserved" (.bool r.reserved)]

/-- `action_certificate_verification_sha256`. -/
def actionCertificateVerificationSha256 (P : Platform) (r : ActionCertificateVerificationResult) :
    Sha256Text :=
  sha256Bytes P (canonicalJson r.modelDump)

/-- `_policy_allows_receipt`. -/
def policyAllowsReceipt (policy : TrustPolicy) (expected : ExpectedExecutionBinding) : Prop :=
  expected.tenantId.val ∈ policy.allowedTenants.val ∧
    expected.humanPrincipal.principalId.val ∈ policy.allowedHumanPrincipals.val ∧
    expected.executorWorkload.principalId.val ∈ policy.allowedWorkloadPrincipals.val ∧
    executionReceiptAudience ∈ policy.allowedAudiences.val ∧
    PredicateType.executionReceipt ∈ policy.allowedPredicateTypes.val ∧
    policy.allowedExecutionObserverPrincipals.val ≠ []

instance (policy : TrustPolicy) (expected : ExpectedExecutionBinding) :
    Decidable (policyAllowsReceipt policy expected) :=
  inferInstanceAs (Decidable (_ ∧ _))

/-- The handed-over envelope and verification result have the digests and the id of the
reference. -/
def referenceRecomputes (P : Platform) (envelopeBytes payload : Bytes)
    (verification : ActionCertificateVerificationResult) (expected : ActionCertificateReference) :
    Prop :=
  sha256Bytes P envelopeBytes = expected.envelopeSha256 ∧
    sha256Bytes P payload = expected.payloadSha256 ∧
    actionCertificateVerificationSha256 P verification = expected.verificationResultSha256 ∧
    verification.certificateId = some expected.certificateId.val ∧
    verification.payloadSha256 = some expected.payloadSha256

instance (P : Platform) (envelopeBytes payload : Bytes)
    (verification : ActionCertificateVerificationResult) (expected : ActionCertificateReference) :
    Decidable (referenceRecomputes P envelopeBytes payload verification expected) :=
  inferInstanceAs (Decidable (_ ∧ _))

/-- What `_action_certificate_context` returns. -/
abbrev CertificateContext :=
  VerificationStatus × Option ExecutionReceiptVerificationReason × Option ActionCertificateStatement

/-- `_action_certificate_context`. -/
def actionCertificateContext (P : Platform) (envelopeBytes : Bytes)
    (verification : ActionCertificateVerificationResult) (expected : ActionCertificateReference) :
    Except PyErr CertificateContext :=
  let leave (status : VerificationStatus) (reason : ExecutionReceiptVerificationReason) :
      Outcome PyErr CertificateContext :=
    .ok (status, some reason, none)
  let mismatch := leave .reject .actionCertificateReferenceMismatch
  Flow.finish do
    Flow.returnIf (maxEnvelopeBytes < envelopeBytes.length) mismatch
    let (_, payload) ← Flow.tryElse PyErr.isValueError
      (openEnvelope P envelopeBytes "ActionCertificate DSSE envelope" "ActionCertificate payload")
      mismatch
    -- the envelope's contract admits one payload type only
    Flow.returnIf (maxPayloadBytes < payload.length) mismatch
    Flow.returnIf (¬ referenceRecomputes P envelopeBytes payload verification expected) mismatch
    Flow.returnIf (verification.status = .unknown)
      (leave .unknown .actionCertificateAcceptanceUnknown)
    Flow.returnIf (verification.status ≠ .accept ∨ verification.reserved = false)
      (leave .reject .actionCertificateNotAccepted)
    let statement ← Flow.tryElse PyErr.isValueError
      (parseJsonModel P (Decode.actionCertificateStatement P) payload
        "accepted ActionCertificate payload") mismatch
    Flow.returnIf (statement.predicate.certificateId ≠ expected.certificateId ∨
      approvalScopeSha256 P statement ≠ expected.intentSha256) mismatch
    return .ok (.accept, none, some statement)

/-- The dictionary `{root.root_id: root for root in roots}` of roots with unique ids. -/
def rootById (roots : List TrustRoot) (id : Str) : Option TrustRoot :=
  roots.find? fun r => r.rootId.val = id

/-- A reported root may not have signed for the purpose. -/
def authorityRootRejected (purpose : TrustPurpose) (predicate : ActionCertificatePredicate)
    (policy : TrustPolicy) (verificationAt : UtcTime) (approvers : Option (List Str))
    (r : TrustRoot) : Except PyErr Bool :=
  if r.purpose ≠ purpose ∨ r.tenantId ≠ predicate.tenantId ∨
      predicate.audience.val ∉ r.audiences.val ∨
      PredicateType.actionCertificate ∉ r.predicateTypes.val ∨
      r.principalId.val ∉ allowedPrincipals policy purpose ∨
      ∃ names ∈ approvers, r.principalId.val ∉ names then
    .ok true
  else do
    let current ← trustRootIsCurrent r verificationAt policy.skew
    return !current

/-- Fewer than `threshold` principals, or fewer than `threshold` keys. -/
def tooFewDistinct (P : Platform) (threshold : ℕ) (roots : List TrustRoot) : Prop :=
  (roots.map fun r => r.principalId).dedup.length < threshold ∨
    (roots.map (trustRootFingerprint P)).dedup.length < threshold

instance (P : Platform) (threshold : ℕ) (roots : List TrustRoot) :
    Decidable (tooFewDistinct P threshold roots) :=
  inferInstanceAs (Decidable (_ ∨ _))

/-- The block of `_authority_roots` on the approval roots: it goes on when they are in order. -/
def checkApprovalRoots (P : Platform) (policy : TrustPolicy)
    (predicate : ActionCertificatePredicate) (verificationAt : UtcTime)
    (approvalRoots : List TrustRoot) : Flow PyErr (Option (List TrustRoot)) Unit :=
  if predicate.approval.required then do
    Flow.returnIf (approvalRoots.length < policy.humanApprovalThreshold.val) (.ok none)
    let rejected ← Flow.raising (approvalRoots.anyM
      (authorityRootRejected .humanApproval predicate policy verificationAt
        (some predicate.approval.approverPrincipals.val)))
    Flow.returnIf (rejected = true) (.ok none)
    Flow.returnIf (tooFewDistinct P policy.humanApprovalThreshold.val approvalRoots) (.ok none)
  else Flow.returnIf (approvalRoots ≠ []) (.ok none)

/-- `_authority_roots`. -/
def authorityRoots (P : Platform) (policy : TrustPolicy)
    (actionResult : ActionCertificateVerificationResult)
    (actionStatement : ActionCertificateStatement) (actionEnvelopeBytes : Bytes)
    (verificationAt : UtcTime) : Except PyErr (Option (List TrustRoot)) :=
  let predicate := actionStatement.predicate
  let issuerIds := actionResult.verifiedActionIssuerRoots.val
  let approvalIds := actionResult.verifiedHumanApprovalRoots.val
  Flow.finish do
    Flow.returnIf (¬ (issuerIds ++ approvalIds).Nodup ∨ issuerIds = []) (.ok none)
    let issuerRoots ← Flow.orReturn (issuerIds.mapM (rootById policy.roots.val)) (.ok none)
    let approvalRoots ← Flow.orReturn (approvalIds.mapM (rootById policy.roots.val)) (.ok none)
    let (envelope, payload) ← Flow.tryElse PyErr.isValueError
      (openEnvelope P actionEnvelopeBytes "accepted ActionCertificate DSSE envelope"
        "accepted ActionCertificate payload") (.ok none)
    let verified := cryptographicallyVerifiedRoots P envelope payload policy.roots.val
    Flow.returnIf (¬ issuerIds ++ approvalIds ⊆ verified.map fun r => r.rootId.val) (.ok none)
    let rejected ← Flow.raising (issuerRoots.anyM
      (authorityRootRejected .actionIssuer predicate policy verificationAt none))
    Flow.returnIf (rejected = true) (.ok none)
    Flow.returnIf (tooFewDistinct P policy.actionIssuerThreshold.val issuerRoots) (.ok none)
    checkApprovalRoots P policy predicate verificationAt approvalRoots
    Flow.returnIf (selfApproval P predicate issuerRoots approvalRoots) (.ok none)
    return .ok (some (issuerRoots ++ approvalRoots))

/-- The receipt starts before the certificate's window or ends after it, up to the skew.  The
comparisons are made in this order, and the first that holds ends them. -/
def outsideCertificateWindow (predicate : ExecutionReceiptPredicate)
    (action : ActionCertificatePredicate) (skew : ℕ) : Except PyErr Bool :=
  let early (t : UtcTime) : Except PyErr Bool := do
    let later ← t.add skew
    return decide (later.instant < action.notBefore.instant)
  let late (t : UtcTime) : Except PyErr Bool := do
    let earlier ← t.sub skew
    return decide (action.expiresAt.instant ≤ earlier.instant)
  [early predicate.certificateRef.verificationAt, late predicate.certificateRef.verificationAt,
    early predicate.certificateRef.reservedAt, late predicate.certificateRef.reservedAt,
    early predicate.attempt.startedAt, late predicate.attempt.endedAt].anyM id

/-- The certificate is about the execution that the receipt reports. -/
def certificateAgrees (P : Platform) (expected : ExpectedExecutionBinding)
    (predicate : ExecutionReceiptPredicate) (action : ActionCertificateStatement) : Prop :=
  action.predicate.tenantId = predicate.tenantId ∧
    action.predicate.humanPrincipal = expected.humanPrincipal ∧
    action.predicate.subject.subjectId.val = predicate.caseId.val ∧
    action.predicate.workloadPrincipal = predicate.executorWorkload ∧
    action.predicate.context.traceId.val = predicate.trace.traceId.val ∧
    action.predicate.context.requestId = predicate.executionId ∧
    action.predicate.action.actionName.val = predicate.operation.name.val ∧
    action.predicate.action.parametersSha256 = predicate.operation.requestSha256 ∧
    action.predicate.effect.effectType.val = predicate.effect.effectType.val ∧
    action.predicate.effect.target.val = predicate.effect.target.val ∧
    action.predicate.effect.requestSha256 = predicate.operation.requestSha256 ∧
    action.predicate.effect.idempotencyKey = predicate.effect.idempotencyKey ∧
    approvalScopeSha256 P action = predicate.effect.intentSha256 ∧
    sameSet (action.subject.val.map fun s => (s.name.val, lit "sha256:" ++ s.digest.val))
      (predicate.inputs.val.map fun a => (a.artifactId.val, a.sha256.val)) ∧
    ¬ (action.predicate.resource.resourceType.val = lit "artifact" ∧
      action.predicate.resource.resourceId.val ∉
        predicate.outputs.val.map fun a => a.artifactId.val)

instance (P : Platform) (expected : ExpectedExecutionBinding)
    (predicate : ExecutionReceiptPredicate) (action : ActionCertificateStatement) :
    Decidable (certificateAgrees P expected predicate action) :=
  inferInstanceAs (Decidable (_ ∧ _))

/-! ## Observers -/

/-- The root may sign receipts of the tenant as an observer, whatever the time. -/
def observesReceipts (predicate : ExecutionReceiptPredicate) (policy : TrustPolicy)
    (r : TrustRoot) : Prop :=
  r.purpose = .executionObserver ∧ r.tenantId = predicate.tenantId ∧
    executionReceiptAudience ∈ r.audiences.val ∧
    PredicateType.executionReceipt ∈ r.predicateTypes.val ∧
    r.principalId.val ∈ policy.allowedExecutionObserverPrincipals.val ∧
    sameSet r.executionObserverScopes.val requiredExecutionObserverScopes

instance (predicate : ExecutionReceiptPredicate) (policy : TrustPolicy) (r : TrustRoot) :
    Decidable (observesReceipts predicate policy r) :=
  inferInstanceAs (Decidable (_ ∧ _))

/-- What `_qualifying_observer_roots` returns. -/
structure ObserverSelection where
  distinct : List TrustRoot
  staleOrRevoked : Bool
  selfObservation : Bool
  producerMismatch : Bool

/-- The parties of an execution, who may not observe it. -/
structure Parties where
  principals : List Str
  fingerprints : List Str

/-- The root's principal or its key belongs to one of the parties. -/
def selfObserves (P : Platform) (parties : Parties) (r : TrustRoot) : Prop :=
  r.principalId.val ∈ parties.principals ∨ (trustRootFingerprint P r).val ∈ parties.fingerprints

instance (P : Platform) (parties : Parties) (r : TrustRoot) :
    Decidable (selfObserves P parties r) :=
  inferInstanceAs (Decidable (_ ∨ _))

/-- The root is current at an earlier time and now; the second question is asked only when the
answer to the first is yes. -/
def currentAtBoth (earlier now : UtcTime) (skew : ℕ) (r : TrustRoot) : Except PyErr Bool := do
  let atEarlier ← trustRootIsCurrent r earlier skew
  if atEarlier then trustRootIsCurrent r now skew else return false

/-- The body of the loop of `_qualifying_observer_roots`. -/
def considerObserver (P : Platform) (predicate : ExecutionReceiptPredicate) (policy : TrustPolicy)
    (parties : Parties) (now : UtcTime) (s : ObserverSelection) (r : TrustRoot) :
    Except PyErr ObserverSelection :=
  if ¬ observesReceipts predicate policy r then .ok s
  else if r.principalId.val ∉ predicate.producer.observerPrincipals.val then
    .ok { s with producerMismatch := true }
  else if selfObserves P parties r then .ok { s with selfObservation := true }
  else do
    let current ← currentAtBoth predicate.issuedAt now policy.skew r
    return if current then
      { s with distinct := enroll (trustRootFingerprint P) (fun r => r.principalId) s.distinct r }
    else { s with staleOrRevoked := true }

/-- `_qualifying_observer_roots`. -/
def qualifyingObserverRoots (P : Platform) (roots : List TrustRoot)
    (predicate : ExecutionReceiptPredicate) (policy : TrustPolicy) (parties : Parties)
    (now : UtcTime) : Except PyErr ObserverSelection := do
  let s ← roots.foldlM (considerObserver P predicate policy parties now)
    { distinct := [], staleOrRevoked := false, selfObservation := false, producerMismatch := false }
  return { s with
    distinct := s.distinct.insertionSort fun a b =>
      (trustRootFingerprint P a).val ≤ (trustRootFingerprint P b).val }

/-! ## The verifier -/

/-- The arguments of `verify_execution_receipt` but the index. -/
structure ReceiptCall where
  envelopeBytes : Bytes
  trustPolicy : TrustPolicy
  expectedBinding : ExpectedExecutionBinding
  actionCertificateEnvelopeBytes : Bytes
  actionCertificateVerification : ActionCertificateVerificationResult
  now : DateTime

/-- The executor, the human, the issuers and approvers of the certificate, and the keys that the
operator lists for the first two. -/
def ReceiptCall.parties (P : Platform) (call : ReceiptCall) (predicate : ExecutionReceiptPredicate)
    (action : ActionCertificatePredicate) (authority : List TrustRoot) : Parties where
  principals := predicate.executorWorkload.principalId.val ::
    action.humanPrincipal.principalId.val :: authority.map fun r => r.principalId.val
  fingerprints := authority.map (fun r => (trustRootFingerprint P r).val) ++
    call.expectedBinding.executorWorkloadKeyFingerprints.val ++
    call.expectedBinding.humanPrincipalKeyFingerprints.val

/-- What a call has established when it appends the receipt. -/
structure Examined where
  now : UtcTime
  envelope : DsseEnvelope
  payload : Bytes
  statement : ExecutionReceiptStatement
  action : ActionCertificateStatement
  authority : List TrustRoot
  observers : List TrustRoot

/-- `verify_execution_receipt` up to the append. -/
def examine (P : Platform) (call : ReceiptCall) :
    Flow PyErr ExecutionReceiptVerificationResult Examined := do
  let policy := call.trustPolicy
  let now ← Flow.raising (requireUtc call.now "verification time")
  let envelopeSha256 := sha256Bytes P call.envelopeBytes
  let unread (reason : ExecutionReceiptVerificationReason) (payloadSha256 : Option Sha256Text) :=
    receiptResult .reject [reason] envelopeSha256 none payloadSha256 [] false none
  Flow.returnIf (maxEnvelopeBytes < call.envelopeBytes.length) (unread .envelopeTooLarge none)
  let (envelope, payload) ← Flow.tryElse PyErr.isValueError
    (openEnvelope P call.envelopeBytes "ExecutionReceipt DSSE envelope" "ExecutionReceipt payload")
    (unread .envelopeInvalid none)
  Flow.returnIf (maxPayloadBytes < payload.length) (unread .payloadTooLarge none)
  let payloadSha256 := sha256Bytes P payload
  let verifiedRoots := cryptographicallyVerifiedRoots P envelope payload policy.roots.val
  Flow.returnIf (verifiedRoots = []) (unread .signatureInvalid (some payloadSha256))
  let statement ← Flow.tryElse PyErr.isValueError
    (parseJsonModel P Decode.executionReceiptStatement payload "signed receipt payload")
    (unread .payloadInvalid (some payloadSha256))
  let predicate := statement.predicate
  let leave (status : VerificationStatus) (reason : ExecutionReceiptVerificationReason)
      (observers : List TrustRoot) : ReceiptOutcome :=
    receiptResult status [reason] envelopeSha256 (some predicate.receiptId) (some payloadSha256)
      (observers.map fun r => r.rootId.val) false (some statement)
  let latest ← Flow.raising (now.add policy.skew)
  Flow.returnIf (latest < predicate.issuedAt) (leave .reject .receiptTimeInvalid [])
  Flow.returnIf (¬ policyAllowsReceipt policy call.expectedBinding)
    (leave .reject .trustPolicyMismatch [])
  let binding ← Flow.raising (expectedExecutionBindingFor statement
    call.expectedBinding.humanPrincipal call.expectedBinding.executorWorkloadKeyFingerprints
    call.expectedBinding.humanPrincipalKeyFingerprints)
  Flow.returnIf (binding ≠ call.expectedBinding) (leave .reject .expectedBindingMismatch [])
  let (status, reason, action) ← Flow.raising (actionCertificateContext P
    call.actionCertificateEnvelopeBytes call.actionCertificateVerification predicate.certificateRef)
  Flow.returnIf (status ≠ .accept)
    (match reason with
      | some reason => leave status reason []
      | none => leave .unknown .actionCertificateAcceptanceUnknown [])
  let action ← Flow.orReturn action (leave .unknown .actionCertificateAcceptanceUnknown [])
  Flow.returnIf (predicate.attempt.startedAt < predicate.certificateRef.reservedAt)
    (leave .reject .actionCertificateReservationOrderInvalid [])
  let outside ← Flow.raising (outsideCertificateWindow predicate action.predicate policy.skew)
  Flow.returnIf (outside = true) (leave .reject .certificateExecutionWindowMismatch [])
  Flow.returnIf (¬ certificateAgrees P call.expectedBinding predicate action)
    (leave .reject .actionCertificateReferenceMismatch [])
  let authority ← Flow.raising (authorityRoots P policy call.actionCertificateVerification action
    call.actionCertificateEnvelopeBytes predicate.certificateRef.verificationAt)
  let authority ← Flow.orReturn authority (leave .unknown .actionCertificateAuthorityUnknown [])
  Flow.returnIf (∀ r ∈ verifiedRoots, ¬ observesReceipts predicate policy r)
    (leave .reject .trustPolicyMismatch [])
  let selection ← Flow.raising (qualifyingObserverRoots P verifiedRoots predicate policy
    (call.parties P predicate action.predicate authority) now)
  Flow.returnIf (selection.selfObservation = true) (leave .reject .selfObservation [])
  Flow.returnIf (selection.staleOrRevoked = true)
    (leave .reject .rootTimeOrRevocationInvalid selection.distinct)
  Flow.returnIf (selection.producerMismatch = true ∨
      ¬ sameSet (selection.distinct.map fun r => r.principalId.val)
        predicate.producer.observerPrincipals.val)
    (leave .reject .producerSignerMismatch [])
  Flow.returnIf (selection.distinct.length < policy.executionObserverThreshold.val)
    (leave .unknown .executionObserverThresholdNotMet selection.distinct)
  return { now, envelope, payload, statement, action, authority, observers := selection.distinct }

namespace Examined

/-- The arguments of the append. -/
def append (P : Platform) (e : Examined) : ReceiptAppend where
  tenantId := e.statement.predicate.tenantId.val
  receiptId := e.statement.predicate.receiptId.val
  executionId := e.statement.predicate.executionId.val
  attemptId := e.statement.predicate.attempt.attemptId.val
  payloadSha256 := (sha256Bytes P e.payload).val
  idempotencyKey := e.statement.predicate.effect.idempotencyKey.val
  intentSha256 := e.statement.predicate.effect.intentSha256.val

/-- `verify_execution_receipt` from the index's answer on. -/
def conclude (P : Platform) (call : ReceiptCall) (e : Examined) (status : ReceiptIndexStatus) :
    ReceiptOutcome :=
  let result (status : VerificationStatus) (reason : ExecutionReceiptVerificationReason)
      (recorded : Bool) : ReceiptOutcome :=
    receiptResult status [reason] (sha256Bytes P call.envelopeBytes)
      (some e.statement.predicate.receiptId) (some (sha256Bytes P e.payload))
      (e.observers.map fun r => r.rootId.val) recorded (some e.statement)
  match status with
  | .alreadyPresent => result .accept .alreadyPresent true
  | .receiptIdConflict => result .reject .receiptIdConflict false
  | .attemptConflict => result .reject .attemptConflict false
  | .idempotencyConflict => result .reject .idempotencyConflict false
  | .unavailable => result .unknown .receiptIndexUnavailable false
  | .appended => result .accept .appended true

end Examined

/-- `verify_execution_receipt`; an index that raises counts as unavailable. -/
def verifyExecutionReceipt {σ : Type} (P : Platform) (call : ReceiptCall)
    (receiptIndex : ReceiptIndex σ) (index : σ) : ReceiptOutcome × σ :=
  match examine P call with
  | .error out => (out, index)
  | .ok e =>
    let (answer, index) := receiptIndex.appendOnce index (e.append P)
    (e.conclude P call (answer.getD .unavailable), index)

end ProofFlow
