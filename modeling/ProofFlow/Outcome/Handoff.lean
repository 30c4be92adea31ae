import ProofFlow.Outcome.Result

/-!
# What the outcome verifier is handed

The inputs beside the closure itself: the certificate and the receipt with their verification
results, which are recomputed and re-checked against the policy; the roots that observed the
closure; and the evidence, which an operator's resolver supplies.
-/

namespace ProofFlow

open Kit

/-! ## The handed-over certificate -/

/-- What the parsers of the handoff return: what they read, or a reason. -/
abbrev Handoff (α : Type) := Option α × Option OutcomeClosureVerificationReason

/-- The handed-over certificate and verification result have the digests and the ids of the
reference. -/
def externalCertificateRecomputes (P : Platform) (envelopeBytes payload : Bytes)
    (statement : ActionCertificateStatement) (result : ActionCertificateVerificationResult)
    (expected : ActionCertificateReference) : Prop :=
  sha256Bytes P envelopeBytes = expected.envelopeSha256 ∧
    sha256Bytes P payload = expected.payloadSha256 ∧
    statement.predicate.certificateId = expected.certificateId ∧
    result.certificateId = some expected.certificateId.val ∧
    result.payloadSha256 = some expected.payloadSha256 ∧
    actionCertificateVerificationSha256 P result = expected.verificationResultSha256 ∧
    approvalScopeSha256 P statement = expected.intentSha256

instance (P : Platform) (envelopeBytes payload : Bytes) (statement : ActionCertificateStatement)
    (result : ActionCertificateVerificationResult) (expected : ActionCertificateReference) :
    Decidable (externalCertificateRecomputes P envelopeBytes payload statement result expected) :=
  inferInstanceAs (Decidable (_ ∧ _))

/-- A reported root may sign certificates for the purpose, whatever the time. -/
def handoffRootEntitled (purpose : TrustPurpose) (predicate : ActionCertificatePredicate)
    (policy : TrustPolicy) (approvers : Option (List Str)) (r : TrustRoot) : Prop :=
  r.purpose = purpose ∧ r.tenantId = predicate.tenantId ∧
    predicate.audience.val ∈ r.audiences.val ∧
    PredicateType.actionCertificate ∈ r.predicateTypes.val ∧
    predicate.audience.val ∈ policy.allowedAudiences.val ∧
    PredicateType.actionCertificate ∈ policy.allowedPredicateTypes.val ∧
    r.principalId.val ∈ allowedPrincipals policy purpose ∧
    ∀ names ∈ approvers, r.principalId.val ∈ names

instance (purpose : TrustPurpose) (predicate : ActionCertificatePredicate) (policy : TrustPolicy)
    (approvers : Option (List Str)) (r : TrustRoot) :
    Decidable (handoffRootEntitled purpose predicate policy approvers r) :=
  inferInstanceAs (Decidable (_ ∧ _))

/-- A reported root may not have signed the certificate. -/
def handoffRootRejected (purpose : TrustPurpose) (predicate : ActionCertificatePredicate)
    (policy : TrustPolicy) (verificationAt now : UtcTime) (approvers : Option (List Str))
    (r : TrustRoot) : Except PyErr Bool :=
  if ¬ handoffRootEntitled purpose predicate policy approvers r then .ok true
  else do
    let current ← currentAtBoth verificationAt now policy.skew r
    return !current

/-- An issuer and an approver share a principal or a key. -/
def rootsOverlap (P : Platform) (issuerRoots approvalRoots : List TrustRoot) : Prop :=
  (∃ i ∈ issuerRoots, ∃ a ∈ approvalRoots, i.principalId = a.principalId) ∨
    ∃ i ∈ issuerRoots, ∃ a ∈ approvalRoots, trustRootFingerprint P i = trustRootFingerprint P a

instance (P : Platform) (issuerRoots approvalRoots : List TrustRoot) :
    Decidable (rootsOverlap P issuerRoots approvalRoots) :=
  inferInstanceAs (Decidable (_ ∨ _))

/-- The last conditions of `_parse_external_action_certificate`: the principals are allowed and
distinct, the thresholds are met, and nobody issues and approves. -/
def handoffAuthorized (P : Platform) (predicate : ActionCertificatePredicate) (policy : TrustPolicy)
    (issuerRoots approvalRoots : List TrustRoot) : Prop :=
  predicate.humanPrincipal.principalId.val ∈ policy.allowedHumanPrincipals.val ∧
    predicate.workloadPrincipal.principalId.val ∈ policy.allowedWorkloadPrincipals.val ∧
    predicate.humanPrincipal.principalId ≠ predicate.workloadPrincipal.principalId ∧
    ¬ tooFewDistinct P policy.actionIssuerThreshold.val issuerRoots ∧
    ¬ (predicate.approval.required = true ∧
      tooFewDistinct P policy.humanApprovalThreshold.val approvalRoots) ∧
    ¬ rootsOverlap P issuerRoots approvalRoots

instance (P : Platform) (predicate : ActionCertificatePredicate) (policy : TrustPolicy)
    (issuerRoots approvalRoots : List TrustRoot) :
    Decidable (handoffAuthorized P predicate policy issuerRoots approvalRoots) :=
  inferInstanceAs (Decidable (_ ∧ _))

/-- `_parse_external_action_certificate` up to the reported issuers and approvers. -/
def readExternalActionCertificate (P : Platform) (envelopeBytes : Bytes)
    (result : ActionCertificateVerificationResult) (expected : ActionCertificateReference)
    (policy : TrustPolicy) : Flow PyErr (Handoff ActionCertificatePredicate)
      (ActionCertificateStatement × List TrustRoot × List TrustRoot) := do
  let untrusted : Outcome PyErr (Handoff ActionCertificatePredicate) :=
    .ok (none, some .actionCertificateHandoffUntrusted)
  let issuerIds := result.verifiedActionIssuerRoots.val
  let approvalIds := result.verifiedHumanApprovalRoots.val
  Flow.returnIf (result.status ≠ .accept ∨ result.reserved = false)
    (.ok (none, some .actionCertificateAcceptanceUnknown))
  let (envelope, payload) ← Flow.tryElse PyErr.isValueError (openEnvelope P envelopeBytes
    "external ActionCertificate envelope" "external ActionCertificate payload") untrusted
  let statement ← Flow.tryElse PyErr.isValueError
    (parseJsonModel P (Decode.actionCertificateStatement P) payload
      "external ActionCertificate payload") untrusted
  Flow.returnIf (¬ externalCertificateRecomputes P envelopeBytes payload statement result expected)
    untrusted
  let verified := cryptographicallyVerifiedRoots P envelope payload policy.roots.val
  let required := statement.predicate.approval.required
  Flow.returnIf (issuerIds = [] ∨ (required = true ∧ approvalIds = []) ∨
    (required = false ∧ approvalIds ≠ []) ∨ ¬ issuerIds.Nodup ∨ ¬ approvalIds.Nodup) untrusted
  let issuerRoots ← Flow.orReturn (issuerIds.mapM (rootById verified)) untrusted
  let approvalRoots ← Flow.orReturn (approvalIds.mapM (rootById verified)) untrusted
  return (statement, issuerRoots, approvalRoots)

/-- The check of a reported issuer. -/
abbrev issuerRejected (predicate : ActionCertificatePredicate) (policy : TrustPolicy)
    (verificationAt now : UtcTime) : TrustRoot → Except PyErr Bool :=
  handoffRootRejected .actionIssuer predicate policy verificationAt now none

/-- The check of a reported approver, who must be one of the named approvers. -/
abbrev approverRejected (predicate : ActionCertificatePredicate) (policy : TrustPolicy)
    (verificationAt now : UtcTime) : TrustRoot → Except PyErr Bool :=
  handoffRootRejected .humanApproval predicate policy verificationAt now
    (some predicate.approval.approverPrincipals.val)

/-- `_parse_external_action_certificate`. -/
def parseExternalActionCertificate (P : Platform) (envelopeBytes : Bytes)
    (result : ActionCertificateVerificationResult) (expected : ActionCertificateReference)
    (policy : TrustPolicy) (verificationTime : UtcTime) :
    Except PyErr (Handoff ActionCertificatePredicate) :=
  let untrusted : Outcome PyErr (Handoff ActionCertificatePredicate) :=
    .ok (none, some .actionCertificateHandoffUntrusted)
  Flow.finish do
    let (statement, issuerRoots, approvalRoots) ←
      readExternalActionCertificate P envelopeBytes result expected policy
    let predicate := statement.predicate
    let rejected ← Flow.raising (issuerRoots.anyM
      (issuerRejected predicate policy expected.verificationAt verificationTime))
    Flow.returnIf (rejected = true) untrusted
    let rejected ← Flow.raising (approvalRoots.anyM
      (approverRejected predicate policy expected.verificationAt verificationTime))
    Flow.returnIf (rejected = true) untrusted
    Flow.returnIf (¬ handoffAuthorized P predicate policy issuerRoots approvalRoots) untrusted
    return .ok (some predicate, none)

/-! ## The handed-over receipt -/

def ExecutionReceiptVerificationResult.modelDump (r : ExecutionReceiptVerificationResult) : Canon :=
  .obj [member "verification_version" (.str (lit "proofflow.execution-receipt-verification/v0.1")),
    member "status" (.str r.status.value),
    member "reason_codes" (.arr (r.reasonCodes.val.map fun c => .str c.value)),
    member "receipt_id" (.optional r.receiptId),
    member "payload_sha256" (.optional (r.payloadSha256.map Subtype.val)),
    member "envelope_sha256" (.str r.envelopeSha256.val),
    member "verified_execution_observer_roots"
      (.arr (r.verifiedExecutionObserverRoots.val.map .str)),
    member "recorded" (.bool r.recorded),
    member "inference_status" (.str r.inferenceStatus.value),
    member "usage_status" (.str r.usageStatus.value),
    member "effect_status" (.str r.effectStatus.value),
    member "cost_status" (.str r.costStatus.value),
    member "duration_status" (.str r.durationStatus.value)]

/-- `execution_receipt_verification_sha256`. -/
def executionReceiptVerificationSha256 (P : Platform) (r : ExecutionReceiptVerificationResult) :
    Sha256Text :=
  sha256Bytes P (canonicalJson r.modelDump)

/-- The handed-over receipt and verification result have the digests and the ids of the
reference. -/
def externalReceiptRecomputes (P : Platform) (envelopeBytes payload : Bytes)
    (statement : ExecutionReceiptStatement) (result : ExecutionReceiptVerificationResult)
    (expected : ExecutionReceiptReference) : Prop :=
  sha256Bytes P envelopeBytes = expected.envelopeSha256 ∧
    sha256Bytes P payload = expected.payloadSha256 ∧
    statement.predicate.receiptId = expected.receiptId ∧
    result.receiptId = some expected.receiptId.val ∧
    result.payloadSha256 = some expected.payloadSha256 ∧
    result.envelopeSha256 = expected.envelopeSha256 ∧
    executionReceiptVerificationSha256 P result = expected.verificationResultSha256

instance (P : Platform) (envelopeBytes payload : Bytes) (statement : ExecutionReceiptStatement)
    (result : ExecutionReceiptVerificationResult) (expected : ExecutionReceiptReference) :
    Decidable (externalReceiptRecomputes P envelopeBytes payload statement result expected) :=
  inferInstanceAs (Decidable (_ ∧ _))

/-- A reported root may observe the receipt, whatever the time. -/
def receiptRootEntitled (predicate : ExecutionReceiptPredicate) (policy : TrustPolicy)
    (r : TrustRoot) : Prop :=
  observesReceipts predicate policy r ∧
    executionReceiptAudience ∈ policy.allowedAudiences.val ∧
    PredicateType.executionReceipt ∈ policy.allowedPredicateTypes.val

instance (predicate : ExecutionReceiptPredicate) (policy : TrustPolicy) (r : TrustRoot) :
    Decidable (receiptRootEntitled predicate policy r) :=
  inferInstanceAs (Decidable (_ ∧ _))

/-- A reported root did not verify, or may not have observed the receipt. -/
def receiptRootRejected (predicate : ExecutionReceiptPredicate) (policy : TrustPolicy)
    (now : UtcTime) : Option TrustRoot → Except PyErr Bool
  | none => .ok true
  | some r =>
    if ¬ receiptRootEntitled predicate policy r then .ok true
    else do
      let current ← currentAtBoth predicate.issuedAt now policy.skew r
      return !current

/-- `_parse_external_receipt` up to the reported observers; one that did not verify is missing. -/
def readExternalReceipt (P : Platform) (envelopeBytes : Bytes)
    (result : ExecutionReceiptVerificationResult) (expected : ExecutionReceiptReference)
    (policy : TrustPolicy) : Flow PyErr (Handoff ExecutionReceiptStatement)
      (ExecutionReceiptStatement × List (Option TrustRoot)) := do
  let untrusted : Outcome PyErr (Handoff ExecutionReceiptStatement) :=
    .ok (none, some .executionReceiptHandoffUntrusted)
  let rootIds := result.verifiedExecutionObserverRoots.val
  Flow.returnIf (result.status ≠ .accept ∨ result.recorded = false)
    (.ok (none, some .executionReceiptAcceptanceUnknown))
  let (envelope, payload) ← Flow.tryElse PyErr.isValueError (openEnvelope P envelopeBytes
    "external ExecutionReceipt envelope" "external ExecutionReceipt payload") untrusted
  let statement ← Flow.tryElse PyErr.isValueError
    (parseJsonModel P Decode.executionReceiptStatement payload "external ExecutionReceipt payload")
    untrusted
  Flow.returnIf (¬ externalReceiptRecomputes P envelopeBytes payload statement result expected)
    untrusted
  let verified := cryptographicallyVerifiedRoots P envelope payload policy.roots.val
  Flow.returnIf (rootIds = [] ∨ ¬ rootIds.Nodup) untrusted
  return (statement, rootIds.map (rootById verified))

/-- `_parse_external_receipt`. -/
def parseExternalReceipt (P : Platform) (envelopeBytes : Bytes)
    (result : ExecutionReceiptVerificationResult) (expected : ExecutionReceiptReference)
    (policy : TrustPolicy) (verificationTime : UtcTime) :
    Except PyErr (Handoff ExecutionReceiptStatement) :=
  let untrusted : Outcome PyErr (Handoff ExecutionReceiptStatement) :=
    .ok (none, some .executionReceiptHandoffUntrusted)
  Flow.finish do
    let (statement, receiptRoots) ← readExternalReceipt P envelopeBytes result expected policy
    let rejected ← Flow.raising
      (receiptRoots.anyM (receiptRootRejected statement.predicate policy verificationTime))
    Flow.returnIf (rejected = true) untrusted
    Flow.returnIf (tooFewDistinct P policy.executionObserverThreshold.val receiptRoots.reduceOption)
      untrusted
    return .ok (some statement, none)

/-! ## Observers -/

/-- The root may sign closures of the tenant as an observer, whatever the time. -/
def observesOutcomes (predicate : OutcomeClosurePredicate) (policy : TrustPolicy) (r : TrustRoot) :
    Prop :=
  r.purpose = .outcomeObserver ∧ r.tenantId = predicate.tenantId ∧
    outcomeClosureAudience ∈ r.audiences.val ∧
    PredicateType.outcomeClosure ∈ r.predicateTypes.val ∧
    r.principalId.val ∈ policy.allowedOutcomeObserverPrincipals.val ∧
    sameSet r.outcomeObserverScopes.val requiredOutcomeObserverScopes ∧
    predicate.evidenceSource.sourceKind ∈ r.outcomeEvidenceSourceKinds.val ∧
    predicate.evidenceSource.principalId.val ∈ r.outcomeEvidenceSourcePrincipals.val

instance (predicate : OutcomeClosurePredicate) (policy : TrustPolicy) (r : TrustRoot) :
    Decidable (observesOutcomes predicate policy r) :=
  inferInstanceAs (Decidable (_ ∧ _))

/-- The state of the loop of `_qualifying_outcome_observers`. -/
structure OutcomeSelection where
  qualified : List TrustRoot
  stale : Bool
  selfObserved : Bool

/-- What `_qualifying_outcome_observers` returns: root ids, and a reason to refuse them. -/
abbrev ObserverAnswer := List Str × Option OutcomeClosureVerificationReason

/-- The body of the loop of `_qualifying_outcome_observers`. -/
def considerOutcomeObserver (P : Platform) (predicate : OutcomeClosurePredicate)
    (policy : TrustPolicy) (parties : Parties) (now : UtcTime) (s : OutcomeSelection)
    (r : TrustRoot) : Flow PyErr ObserverAnswer OutcomeSelection :=
  if ¬ observesOutcomes predicate policy r then .ok s
  else if r.principalId.val ∉ predicate.producer.observerPrincipals.val then
    .error (.ok ([], some .producerSignerMismatch))
  else if selfObserves P parties r then .ok { s with selfObserved := true }
  else do
    let current ← Flow.raising (currentAtBoth predicate.issuedAt now policy.skew r)
    return if current then
      { s with qualified := enroll (trustRootFingerprint P) (fun r => r.principalId) s.qualified r }
    else { s with stale := true }

/-- The roots that the handed-over results report and the policy configures. -/
def reportedRoots (policy : TrustPolicy) (actionResult : ActionCertificateVerificationResult)
    (receiptResult : ExecutionReceiptVerificationResult) : List TrustRoot :=
  (actionResult.verifiedActionIssuerRoots.val ++ actionResult.verifiedHumanApprovalRoots.val ++
    receiptResult.verifiedExecutionObserverRoots.val).filterMap (rootById policy.roots.val)

/-- `authority_principals` and `authority_fingerprints`; the certificate's and the receipt's own
principals are not known in the first of the two passes. -/
def outcomeParties (P : Platform) (predicate : OutcomeClosurePredicate) (policy : TrustPolicy)
    (action : Option ActionCertificatePredicate) (receipt : Option ExecutionReceiptStatement)
    (actionResult : ActionCertificateVerificationResult)
    (receiptResult : ExecutionReceiptVerificationResult) (expected : ExpectedOutcomeBinding) :
    Parties where
  principals :=
    (match action with
      | some a => [a.humanPrincipal.principalId.val, a.workloadPrincipal.principalId.val]
      | none => []) ++
    (match receipt with
      | some r => r.predicate.producer.observerPrincipals.val
      | none => []) ++
    predicate.evidenceSource.principalId.val ::
      (reportedRoots policy actionResult receiptResult).map fun r => r.principalId.val
  fingerprints :=
    (reportedRoots policy actionResult receiptResult).map
        (fun r => (trustRootFingerprint P r).val) ++
      expected.humanPrincipalKeyFingerprints.val ++ expected.executorWorkloadKeyFingerprints.val

/-- `tuple(sorted(qualified))`. -/
def OutcomeSelection.rootIds (s : OutcomeSelection) : List Str :=
  sortedStr (s.qualified.map fun r => r.rootId.val)

/-- `_qualifying_outcome_observers`. -/
def qualifyingOutcomeObservers (P : Platform) (roots : List TrustRoot)
    (predicate : OutcomeClosurePredicate) (policy : TrustPolicy) (parties : Parties)
    (now : UtcTime) : Except PyErr ObserverAnswer :=
  Flow.finish do
    let s ← roots.foldlM (considerOutcomeObserver P predicate policy parties now)
      { qualified := [], stale := false, selfObserved := false }
    Flow.returnIf (s.selfObserved = true) (.ok ([], some .selfObservation))
    Flow.returnIf (s.stale = true) (.ok (s.rootIds, some .rootTimeOrRevocationInvalid))
    Flow.returnIf (¬ sameSet (s.qualified.map fun r => r.principalId.val)
      predicate.producer.observerPrincipals.val) (.ok (s.rootIds, some .producerSignerMismatch))
    Flow.returnIf (s.qualified.length < policy.outcomeObserverThreshold.val)
      (.ok (s.rootIds, some .outcomeObserverThresholdNotMet))
    return .ok (s.rootIds, none)

/-- `_policy_allows_outcome`, which no function of the source calls. -/
def policyAllowsOutcome (policy : TrustPolicy) (expected : ExpectedOutcomeBinding) : Prop :=
  expected.tenantId.val ∈ policy.allowedTenants.val ∧
    outcomeClosureAudience ∈ policy.allowedAudiences.val ∧
    PredicateType.outcomeClosure ∈ policy.allowedPredicateTypes.val ∧
    policy.allowedOutcomeObserverPrincipals.val ≠ [] ∧
    expected.evidenceSource.sourceKind ∈ policy.allowedOutcomeEvidenceSourceKinds.val ∧
    expected.evidenceSource.principalId.val ∈ policy.allowedOutcomeEvidenceSourcePrincipals.val

instance (policy : TrustPolicy) (expected : ExpectedOutcomeBinding) :
    Decidable (policyAllowsOutcome policy expected) :=
  inferInstanceAs (Decidable (_ ∧ _))

/-! ## Evidence -/

/-- The operator's resolver; no bytes stand for `None` or an exception. -/
abbrev OutcomeEvidenceResolver :=
  (digest : Str) → (source : OutcomeEvidenceSource) → (now : UtcTime) → Option Bytes

/-- The digests that the closure refers to, in the order in which they are resolved. -/
def evidenceDigests (predicate : OutcomeClosurePredicate) : List Sha256Text :=
  predicate.evidenceSource.sourceEventSha256 ::
    (predicate.reconciliation.attempts.val.flatMap fun a =>
      [a.beforeStateSha256, a.afterStateSha256, a.providerEventSha256, a.observerEvidenceSha256]) ++
    predicate.reconciliation.unresolved.val.filterMap fun u => u.observerEvidenceSha256

/-- One round of the loop of `_resolve_outcome_evidence`. -/
def resolveDigest (P : Platform) (resolve : OutcomeEvidenceResolver)
    (source : OutcomeEvidenceSource) (now : UtcTime) (digest : Sha256Text) :
    Option OutcomeClosureVerificationReason :=
  match resolve digest.val source now with
  | none => some .evidenceBytesUnavailable
  | some raw => if sha256Bytes P raw ≠ digest then some .evidenceDigestMismatch else none

/-- `_resolve_outcome_evidence`. -/
def resolveOutcomeEvidence (P : Platform) (predicate : OutcomeClosurePredicate)
    (resolver : Option OutcomeEvidenceResolver) (now : UtcTime) :
    Option OutcomeClosureVerificationReason :=
  let source := predicate.evidenceSource
  if source.sourceKind ≠ .localBytes then some .evidenceSourceInvalid
  else if now < source.observedAt ∨ source.validUntil < now then some .evidenceSourceInvalid
  else
    match resolver with
    | none => some .evidenceBytesUnavailable
    | some resolve => (evidenceDigests predicate).findSome? (resolveDigest P resolve source now)

end ProofFlow
