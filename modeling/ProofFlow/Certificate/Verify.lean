import ProofFlow.Certificate.Ledger
import ProofFlow.Certificate.Trust

/-!
# Verification of action certificates

`verify_action_certificate`: the envelope is opened, its signatures are checked against the
configured roots, the statement is compared with the caller's expected binding, the issuer and
approval thresholds are counted, and the certificate's nonce and idempotency key are reserved.
Everything before the reservation depends on the call's own inputs only (`authorize`); the result
is computed from the ledger's answer (`conclude`).
-/

namespace ProofFlow

open Kit

/-! ## Expected binding -/

/-- `==` of two policy bindings: the timestamps are compared as instants. -/
def PolicyBinding.pyEq (a b : PolicyBinding) : Prop :=
  a.policyId = b.policyId ∧ a.policyRevision = b.policyRevision ∧
    a.policySha256 = b.policySha256 ∧ a.evaluatedAt.pyEq b.evaluatedAt ∧
    a.expiresAt.pyEq b.expiresAt

instance (a b : PolicyBinding) : Decidable (a.pyEq b) := inferInstanceAs (Decidable (_ ∧ _))

/-- `==` of two optional timestamps. -/
def optionPyEq : Option DateTime → Option DateTime → Prop
  | some a, some b => a.pyEq b
  | none, none => True
  | _, _ => False

instance : (a b : Option DateTime) → Decidable (optionPyEq a b)
  | some a, some b => inferInstanceAs (Decidable (a.pyEq b))
  | none, none => inferInstanceAs (Decidable True)
  | some _, none => inferInstanceAs (Decidable False)
  | none, some _ => inferInstanceAs (Decidable False)

def ApprovalBinding.pyEq (a b : ApprovalBinding) : Prop :=
  a.required = b.required ∧ a.approvalId = b.approvalId ∧ a.scopeSha256 = b.scopeSha256 ∧
    a.approverPrincipals = b.approverPrincipals ∧ optionPyEq a.expiresAt b.expiresAt

instance (a b : ApprovalBinding) : Decidable (a.pyEq b) := inferInstanceAs (Decidable (_ ∧ _))

structure ExpectedBinding where
  certificateId : Identifier
  tenantId : Identifier
  humanPrincipal : PrincipalBinding
  workloadPrincipal : PrincipalBinding
  audience : Text 1 256
  delegationChain : Items DelegationHop 0 16
  statementSubjects : Items InTotoSubject 1 64
  subject : SubjectBinding
  action : ActionBinding
  resource : ResourceBinding
  context : ContextBinding
  dataClassification : DataClassification
  policy : PolicyBinding
  approval : ApprovalBinding
  effect : EffectBinding
  nonce : Identifier

/-- `==` of two expected bindings. -/
def ExpectedBinding.pyEq (a b : ExpectedBinding) : Prop :=
  a.certificateId = b.certificateId ∧ a.tenantId = b.tenantId ∧
    a.humanPrincipal = b.humanPrincipal ∧ a.workloadPrincipal = b.workloadPrincipal ∧
    a.audience = b.audience ∧ a.delegationChain = b.delegationChain ∧
    a.statementSubjects = b.statementSubjects ∧ a.subject = b.subject ∧ a.action = b.action ∧
    a.resource = b.resource ∧ a.context = b.context ∧
    a.dataClassification = b.dataClassification ∧ a.policy.pyEq b.policy ∧
    a.approval.pyEq b.approval ∧ a.effect = b.effect ∧ a.nonce = b.nonce

instance (a b : ExpectedBinding) : Decidable (a.pyEq b) := inferInstanceAs (Decidable (_ ∧ _))

/-- `expected_binding_for`. -/
def expectedBindingFor (statement : ActionCertificateStatement) : ExpectedBinding where
  certificateId := statement.predicate.certificateId
  tenantId := statement.predicate.tenantId
  humanPrincipal := statement.predicate.humanPrincipal
  workloadPrincipal := statement.predicate.workloadPrincipal
  audience := statement.predicate.audience
  delegationChain := statement.predicate.delegationChain
  statementSubjects := statement.subject
  subject := statement.predicate.subject
  action := statement.predicate.action
  resource := statement.predicate.resource
  context := statement.predicate.context
  dataClassification := statement.predicate.dataClassification
  policy := statement.predicate.policy
  approval := statement.predicate.approval
  effect := statement.predicate.effect
  nonce := statement.predicate.nonce

/-! ## The approval subject -/

section ModelDump

def PrincipalBinding.modelDump (b : PrincipalBinding) : Canon :=
  .obj [member "principal_id" (.str b.principalId.val),
    member "identity_issuer" (.str b.identityIssuer.val)]

def DelegationHop.modelDump (h : DelegationHop) : Canon :=
  .obj [member "delegator" (.str h.delegator.val), member "delegatee" (.str h.delegatee.val),
    member "scope_sha256" (.str h.scopeSha256.val)]

def InTotoSubject.modelDump (s : InTotoSubject) : Canon :=
  .obj [member "name" (.str s.name.val),
    member "digest" (.obj [member "sha256" (.str s.digest.val)])]

def SubjectBinding.modelDump (b : SubjectBinding) : Canon :=
  .obj [member "subject_type" (.str b.subjectType.val), member "subject_id" (.str b.subjectId.val),
    member "attributes_sha256" (.str b.attributesSha256.val)]

def ActionBinding.modelDump (b : ActionBinding) : Canon :=
  .obj [member "action_name" (.str b.actionName.val),
    member "parameters_sha256" (.str b.parametersSha256.val)]

def ResourceBinding.modelDump (b : ResourceBinding) : Canon :=
  .obj [member "resource_type" (.str b.resourceType.val),
    member "resource_id" (.str b.resourceId.val),
    member "attributes_sha256" (.str b.attributesSha256.val)]

def ContextBinding.modelDump (b : ContextBinding) : Canon :=
  .obj [member "request_id" (.str b.requestId.val), member "trace_id" (.str b.traceId.val),
    member "environment" (.str b.environment.val),
    member "attributes_sha256" (.str b.attributesSha256.val)]

def PolicyBinding.modelDump (P : Platform) (b : PolicyBinding) : Canon :=
  .obj [member "policy_id" (.str b.policyId.val),
    member "policy_revision" (.str b.policyRevision.val),
    member "policy_sha256" (.str b.policySha256.val), member "decision" (.str (lit "ALLOW")),
    member "evaluated_at" (.str (P.datetimeText b.evaluatedAt)),
    member "expires_at" (.str (P.datetimeText b.expiresAt))]

def EffectBinding.modelDump (b : EffectBinding) : Canon :=
  .obj [member "effect_type" (.str b.effectType.val), member "target" (.str b.target.val),
    member "request_sha256" (.str b.requestSha256.val),
    member "idempotency_key" (.str b.idempotencyKey.val)]

end ModelDump

/-- What an approval is about. -/
def approvalScope (P : Platform) (statement : ActionCertificateStatement) : Canon :=
  let predicate := statement.predicate
  .obj [
    member "tenant_id" (.str predicate.tenantId.val),
    member "human_principal" predicate.humanPrincipal.modelDump,
    member "workload_principal" predicate.workloadPrincipal.modelDump,
    member "audience" (.str predicate.audience.val),
    member "delegation_chain" (.arr (predicate.delegationChain.val.map DelegationHop.modelDump)),
    member "statement_subjects" (.arr (statement.subject.val.map InTotoSubject.modelDump)),
    member "subject" predicate.subject.modelDump,
    member "action" predicate.action.modelDump,
    member "resource" predicate.resource.modelDump,
    member "context" predicate.context.modelDump,
    member "data_classification" (.str predicate.dataClassification.value),
    member "policy" (predicate.policy.modelDump P),
    member "effect" predicate.effect.modelDump]

/-- `approval_scope_sha256`. -/
def approvalScopeSha256 (P : Platform) (statement : ActionCertificateStatement) : Sha256Text :=
  sha256Bytes P (canonicalJson (approvalScope P statement))

/-! ## Results -/

inductive VerificationStatus where
  | accept
  | reject
  | unknown
  deriving DecidableEq

/-- The value of a status. -/
def VerificationStatus.value : VerificationStatus → Str
  | .accept => lit "ACCEPT"
  | .reject => lit "REJECT"
  | .unknown => lit "UNKNOWN"

inductive VerificationReason where
  | accepted
  | envelopeInvalid
  | envelopeTooLarge
  | payloadInvalid
  | payloadTooLarge
  | signatureInvalid
  | actionIssuerThresholdNotMet
  | humanApprovalThresholdNotMet
  | trustPolicyMismatch
  | expectedBindingMismatch
  | certificateTimeInvalid
  | rootTimeOrRevocationInvalid
  | approvalScopeMismatch
  | approvalExpired
  | approvalRevoked
  | approvalRevocationUnknown
  | approvalRevocationUnavailable
  | selfApproval
  | replayDetected
  | idempotencyConflict
  | replayLedgerUnavailable
  deriving DecidableEq

/-- The value of a reason code. -/
def VerificationReason.value : VerificationReason → Str
  | .accepted => lit "ACCEPTED"
  | .envelopeInvalid => lit "ENVELOPE_INVALID"
  | .envelopeTooLarge => lit "ENVELOPE_TOO_LARGE"
  | .payloadInvalid => lit "PAYLOAD_INVALID"
  | .payloadTooLarge => lit "PAYLOAD_TOO_LARGE"
  | .signatureInvalid => lit "SIGNATURE_INVALID"
  | .actionIssuerThresholdNotMet => lit "ACTION_ISSUER_THRESHOLD_NOT_MET"
  | .humanApprovalThresholdNotMet => lit "HUMAN_APPROVAL_THRESHOLD_NOT_MET"
  | .trustPolicyMismatch => lit "TRUST_POLICY_MISMATCH"
  | .expectedBindingMismatch => lit "EXPECTED_BINDING_MISMATCH"
  | .certificateTimeInvalid => lit "CERTIFICATE_TIME_INVALID"
  | .rootTimeOrRevocationInvalid => lit "ROOT_TIME_OR_REVOCATION_INVALID"
  | .approvalScopeMismatch => lit "APPROVAL_SCOPE_MISMATCH"
  | .approvalExpired => lit "APPROVAL_EXPIRED"
  | .approvalRevoked => lit "APPROVAL_REVOKED"
  | .approvalRevocationUnknown => lit "APPROVAL_REVOCATION_UNKNOWN"
  | .approvalRevocationUnavailable => lit "APPROVAL_REVOCATION_UNAVAILABLE"
  | .selfApproval => lit "SELF_APPROVAL"
  | .replayDetected => lit "REPLAY_DETECTED"
  | .idempotencyConflict => lit "IDEMPOTENCY_CONFLICT"
  | .replayLedgerUnavailable => lit "REPLAY_LEDGER_UNAVAILABLE"

/-- `UNKNOWN_VERIFICATION_REASONS`. -/
def unknownVerificationReasons : List VerificationReason :=
  [.approvalRevocationUnknown, .approvalRevocationUnavailable, .replayLedgerUnavailable]

/-- `REJECT_VERIFICATION_REASONS`. -/
def rejectVerificationReasons : List VerificationReason :=
  [.envelopeInvalid, .envelopeTooLarge, .payloadInvalid, .payloadTooLarge, .signatureInvalid,
    .actionIssuerThresholdNotMet, .humanApprovalThresholdNotMet, .trustPolicyMismatch,
    .expectedBindingMismatch, .certificateTimeInvalid, .rootTimeOrRevocationInvalid,
    .approvalScopeMismatch, .approvalExpired, .approvalRevoked, .selfApproval, .replayDetected,
    .idempotencyConflict]

structure ActionCertificateVerificationResultFields where
  status : VerificationStatus
  reasonCodes : Items VerificationReason 1 16
  certificateId : Option Str
  payloadSha256 : Option Sha256Text
  verifiedActionIssuerRoots : Items Str 0 16
  verifiedHumanApprovalRoots : Items Str 0 16
  reserved : Bool
  deriving DecidableEq

/-- `result_semantics_are_closed`. -/
def ActionCertificateVerificationResultFields.validate
    (r : ActionCertificateVerificationResultFields) : Except PyErr Unit := do
  raiseIf (¬ r.reasonCodes.val.Nodup) "verification reason codes must be unique"
  match r.status with
  | .accept =>
    raiseIf (r.reasonCodes.val ≠ [.accepted] ∨ r.reserved = false)
      "ACCEPT requires ACCEPTED and an atomic reservation"
  | .reject =>
    raiseIf (r.reserved = true ∨ ¬ r.reasonCodes.val ⊆ rejectVerificationReasons)
      "REJECT requires only closed rejection reasons and reserved=false"
  | .unknown =>
    raiseIf (r.reserved = true ∨ ¬ r.reasonCodes.val ⊆ unknownVerificationReasons)
      "UNKNOWN requires only unavailable reasons and reserved=false"

structure ActionCertificateVerificationResult extends
    ActionCertificateVerificationResultFields where
  valid : toActionCertificateVerificationResultFields.validate = .ok ()
  deriving DecidableEq

/-- What a call of the verifier ends with. -/
abbrev CertificateOutcome := Outcome PyErr ActionCertificateVerificationResult

/-- `_verification_result`. -/
def verificationResult (status : VerificationStatus) (reasons : List VerificationReason)
    (certificateId : Option Identifier) (payloadSha256 : Option Sha256Text)
    (issuerRoots approvalRoots : List TrustRoot) (reserved : Bool) : CertificateOutcome := do
  let reasonCodes ← boundedItems 1 16 reasons.eraseDups
  let issuers ← boundedItems 0 16 (sortedStr (issuerRoots.map fun r => r.rootId.val))
  let approvals ← boundedItems 0 16 (sortedStr (approvalRoots.map fun r => r.rootId.val))
  construct ActionCertificateVerificationResult.mk
    { status := status
      reasonCodes := reasonCodes
      certificateId := certificateId.map Subtype.val
      payloadSha256 := payloadSha256
      verifiedActionIssuerRoots := issuers
      verifiedHumanApprovalRoots := approvals
      reserved := reserved }

/-! ## The checks -/

/-- The allowlist of a purpose in `_qualifying_roots`. -/
def allowedPrincipals (policy : TrustPolicy) (purpose : TrustPurpose) : List Str :=
  if purpose = .actionIssuer then policy.allowedActionIssuerPrincipals.val
  else policy.allowedApprovalPrincipals.val

/-- The criteria of `_qualifying_roots` for one root. -/
def rootQualifies (purpose : TrustPurpose) (predicate : ActionCertificatePredicate)
    (policy : TrustPolicy) (now : UtcTime) (approvers : Option (List Str)) (r : TrustRoot) :
    Except PyErr Bool :=
  if r.purpose ≠ purpose ∨ r.tenantId ≠ predicate.tenantId ∨
      predicate.audience.val ∉ r.audiences.val ∨
      PredicateType.actionCertificate ∉ r.predicateTypes.val ∨
      r.principalId.val ∉ allowedPrincipals policy purpose then
    .ok false
  else do
    let current ← trustRootIsCurrent r now policy.skew
    return current && decide (∀ names ∈ approvers, r.principalId.val ∈ names)

/-- The body of the loop of `_qualifying_roots`. -/
def considerRoot (P : Platform) (purpose : TrustPurpose) (predicate : ActionCertificatePredicate)
    (policy : TrustPolicy) (now : UtcTime) (approvers : Option (List Str))
    (distinct : List TrustRoot) (r : TrustRoot) : Except PyErr (List TrustRoot) := do
  let qualifies ← rootQualifies purpose predicate policy now approvers r
  return if qualifies then enroll (trustRootFingerprint P) (fun r => r.principalId) distinct r
    else distinct

/-- `_qualifying_roots`. -/
def qualifyingRoots (P : Platform) (roots : List TrustRoot) (purpose : TrustPurpose)
    (predicate : ActionCertificatePredicate) (policy : TrustPolicy) (now : UtcTime)
    (approvers : Option (List Str)) : Except PyErr (List TrustRoot) := do
  let distinct ← roots.foldlM (considerRoot P purpose predicate policy now approvers) []
  return distinct.insertionSort fun a b =>
    (trustRootFingerprint P a).val ≤ (trustRootFingerprint P b).val

/-- `_policy_allows_expected`. -/
def policyAllowsExpected (policy : TrustPolicy) (expected : ExpectedBinding) : Prop :=
  expected.tenantId.val ∈ policy.allowedTenants.val ∧
    expected.humanPrincipal.principalId.val ∈ policy.allowedHumanPrincipals.val ∧
    expected.workloadPrincipal.principalId.val ∈ policy.allowedWorkloadPrincipals.val ∧
    expected.audience.val ∈ policy.allowedAudiences.val ∧
    PredicateType.actionCertificate ∈ policy.allowedPredicateTypes.val ∧
    expected.approval.required = policy.approvalRequired

instance (policy : TrustPolicy) (expected : ExpectedBinding) :
    Decidable (policyAllowsExpected policy expected) :=
  inferInstanceAs (Decidable (_ ∧ _))

/-- `timedelta(seconds=policy.max_certificate_lifetime_seconds)`. -/
def TrustPolicy.maxLifetime (p : TrustPolicy) : ℕ := p.maxCertificateLifetimeSeconds.val * 10 ^ 6

/-- `_certificate_time_is_valid`. -/
def certificateTimeIsValid (predicate : ActionCertificatePredicate) (policy : TrustPolicy)
    (now : UtcTime) : Except PyErr Bool :=
  if policy.maxLifetime < predicate.expiresAt.instant - predicate.issuedAt.instant then .ok false
  else do
    let later ← now.add policy.skew
    if later.instant < predicate.notBefore.instant then
      return false
    let earlier ← now.sub policy.skew
    return decide (earlier.instant < predicate.expiresAt.instant) &&
      decide (earlier.instant < predicate.policy.expiresAt.instant)

inductive ApprovalRevocationStatus where
  | active
  | revoked
  | unknown
  deriving DecidableEq

/-- The operator's resolver; `none` stands for an exception. -/
abbrev ApprovalRevocationResolver :=
  (tenantId approvalId approvalScopeSha256 : Str) → (asOf : UtcTime) →
    Option ApprovalRevocationStatus

/-- The arguments of `verify_action_certificate` but the ledger. -/
structure CertificateCall where
  envelopeBytes : Bytes
  trustPolicy : TrustPolicy
  expectedBinding : ExpectedBinding
  approvalRevocationResolver : Option ApprovalRevocationResolver
  now : DateTime

/-- The root sets overlap, or a named principal approves its own action. -/
def selfApproval (P : Platform) (predicate : ActionCertificatePredicate)
    (issuerRoots approvalRoots : List TrustRoot) : Prop :=
  (∃ a ∈ approvalRoots, a.principalId = predicate.humanPrincipal.principalId) ∨
    (∃ a ∈ approvalRoots, a.principalId = predicate.workloadPrincipal.principalId) ∨
    (∃ i ∈ issuerRoots, ∃ a ∈ approvalRoots, i.principalId = a.principalId) ∨
    ∃ i ∈ issuerRoots, ∃ a ∈ approvalRoots, trustRootFingerprint P i = trustRootFingerprint P a

instance (P : Platform) (predicate : ActionCertificatePredicate)
    (issuerRoots approvalRoots : List TrustRoot) :
    Decidable (selfApproval P predicate issuerRoots approvalRoots) :=
  inferInstanceAs (Decidable (_ ∨ _))

/-- The `if predicate.approval.required:` block: it ends with the approval roots. -/
def requireApproval (P : Platform) (call : CertificateCall) (now : UtcTime)
    (payloadSha256 : Sha256Text) (verifiedRoots : List TrustRoot)
    (statement : ActionCertificateStatement)
    (issuerRoots : List TrustRoot) :
    Flow PyErr ActionCertificateVerificationResult (List TrustRoot) := do
  let predicate := statement.predicate
  let leave (status : VerificationStatus) (reason : VerificationReason)
      (approvalRoots : List TrustRoot) : CertificateOutcome :=
    verificationResult status [reason] (some predicate.certificateId) (some payloadSha256)
      issuerRoots approvalRoots false
  let scope := approvalScopeSha256 P statement
  Flow.returnIf (predicate.approval.scopeSha256 ≠ some scope)
    (leave .reject .approvalScopeMismatch [])
  let approvalRoots ← Flow.raising (qualifyingRoots P verifiedRoots .humanApproval predicate
    call.trustPolicy now (some predicate.approval.approverPrincipals.val))
  Flow.returnIf (approvalRoots.length < call.trustPolicy.humanApprovalThreshold.val)
    (leave .reject .humanApprovalThresholdNotMet [])
  Flow.returnIf (selfApproval P predicate issuerRoots approvalRoots)
    (leave .reject .selfApproval approvalRoots)
  Flow.returnIf (¬ ∃ t ∈ predicate.approval.expiresAt, now.instant < t.instant)
    (leave .reject .approvalExpired approvalRoots)
  match call.approvalRevocationResolver with
  | none => .error (leave .unknown .approvalRevocationUnknown approvalRoots)
  | some resolve =>
    match resolve predicate.tenantId.val ((predicate.approval.approvalId.map Subtype.val).getD [])
        scope.val now with
    | none => .error (leave .unknown .approvalRevocationUnavailable approvalRoots)
    | some .revoked => .error (leave .reject .approvalRevoked approvalRoots)
    | some .unknown => .error (leave .unknown .approvalRevocationUnknown approvalRoots)
    | some .active => .ok approvalRoots

/-- The approval roots that count: none are asked for without a required approval. -/
def approve (P : Platform) (call : CertificateCall) (now : UtcTime) (payloadSha256 : Sha256Text)
    (verifiedRoots : List TrustRoot) (statement : ActionCertificateStatement)
    (issuerRoots : List TrustRoot) :
    Flow PyErr ActionCertificateVerificationResult (List TrustRoot) :=
  if statement.predicate.approval.required then
    requireApproval P call now payloadSha256 verifiedRoots statement issuerRoots
  else .ok []

/-- What a call has established when it attempts the reservation. -/
structure Authorization where
  now : UtcTime
  envelope : DsseEnvelope
  payload : Bytes
  statement : ActionCertificateStatement
  issuerRoots : List TrustRoot
  approvalRoots : List TrustRoot

/-- `verify_action_certificate` up to the reservation. -/
def authorize (P : Platform) (call : CertificateCall) :
    Flow PyErr ActionCertificateVerificationResult Authorization := do
  let policy := call.trustPolicy
  let now ← Flow.raising (requireAware call.now "verification time")
  Flow.returnIf (maxEnvelopeBytes < call.envelopeBytes.length)
    (verificationResult .reject [.envelopeTooLarge] none none [] [] false)
  let (envelope, payload) ← Flow.tryElse PyErr.isValueError
    (openEnvelope P call.envelopeBytes "DSSE envelope" "payload")
    (verificationResult .reject [.envelopeInvalid] none none [] [] false)
  Flow.returnIf (maxPayloadBytes < payload.length)
    (verificationResult .reject [.payloadTooLarge] none none [] [] false)
  let payloadSha256 := sha256Bytes P payload
  let verifiedRoots := cryptographicallyVerifiedRoots P envelope payload policy.roots.val
  Flow.returnIf (verifiedRoots = [])
    (verificationResult .reject [.signatureInvalid] none (some payloadSha256) [] [] false)
  let statement ← Flow.tryElse PyErr.isValueError
    (parseJsonModel P (Decode.actionCertificateStatement P) payload "signed payload")
    (verificationResult .reject [.payloadInvalid] none (some payloadSha256) [] [] false)
  let predicate := statement.predicate
  let leave (reasons : List VerificationReason) : CertificateOutcome :=
    verificationResult .reject reasons (some predicate.certificateId) (some payloadSha256) [] []
      false
  Flow.returnIf (¬ policyAllowsExpected policy call.expectedBinding) (leave [.trustPolicyMismatch])
  Flow.returnIf (¬ (expectedBindingFor statement).pyEq call.expectedBinding)
    (leave [.expectedBindingMismatch])
  let timely ← Flow.raising (certificateTimeIsValid predicate policy now)
  Flow.returnIf (timely = false) (leave [.certificateTimeInvalid])
  let issuerRoots ← Flow.raising
    (qualifyingRoots P verifiedRoots .actionIssuer predicate policy now none)
  Flow.returnIf (issuerRoots.length < policy.actionIssuerThreshold.val)
    (leave [.rootTimeOrRevocationInvalid, .actionIssuerThresholdNotMet])
  let approvalRoots ← approve P call now payloadSha256 verifiedRoots statement issuerRoots
  return { now, envelope, payload, statement, issuerRoots, approvalRoots }

/-- The arguments of the reservation. -/
def Authorization.reservation (P : Platform) (a : Authorization) : Reservation where
  tenantId := a.statement.predicate.tenantId.val
  nonce := a.statement.predicate.nonce.val
  idempotencyKey := a.statement.predicate.effect.idempotencyKey.val
  intentSha256 := (approvalScopeSha256 P a.statement).val

/-- `verify_action_certificate` from the ledger's answer on. -/
def Authorization.conclude (P : Platform) (a : Authorization) (reservation : ReservationStatus) :
    CertificateOutcome :=
  let result (status : VerificationStatus) (reason : VerificationReason) (reserved : Bool) :=
    verificationResult status [reason] (some a.statement.predicate.certificateId)
      (some (sha256Bytes P a.payload)) a.issuerRoots a.approvalRoots reserved
  match reservation with
  | .replay => result .reject .replayDetected false
  | .idempotencyConflict => result .reject .idempotencyConflict false
  | .unavailable => result .unknown .replayLedgerUnavailable false
  | .reserved => result .accept .accepted true

/-- `verify_action_certificate`. -/
def verifyActionCertificate (P : Platform) (call : CertificateCall)
    (ledger : InMemoryReplayLedger) : CertificateOutcome × InMemoryReplayLedger :=
  match authorize P call with
  | .error out => (out, ledger)
  | .ok a =>
    let (reservation, ledger) := ledger.reserveOnce (a.reservation P)
    (a.conclude P reservation, ledger)

end ProofFlow
