import ProofFlow.Certificate.Verify

/-!
# What an accepted certificate has passed

The inversion of `verify_action_certificate` at its ACCEPT exit: the statement is the expected one,
the time is inside every window, and the reported issuer and approval roots are as many as the
policy asks for, distinct, and each entitled to sign.
-/

namespace ProofFlow

open Kit

/-! ## Qualifying roots -/

/-- The criteria on a root that signs certificates for a purpose. -/
structure QualifiedRoot (purpose : TrustPurpose) (predicate : ActionCertificatePredicate)
    (policy : TrustPolicy) (now : UtcTime) (r : TrustRoot) : Prop where
  purpose_eq : r.purpose = purpose
  tenant_eq : r.tenantId = predicate.tenantId
  audience_mem : predicate.audience.val ∈ r.audiences.val
  predicateType_mem : PredicateType.actionCertificate ∈ r.predicateTypes.val
  principal_allowed : r.principalId.val ∈ allowedPrincipals policy purpose
  current : RootCurrent r now policy.skew

section Qualifying

variable {P : Platform} {purpose : TrustPurpose} {predicate : ActionCertificatePredicate}
  {policy : TrustPolicy} {now : UtcTime} {approvers : Option (List Str)} {r : TrustRoot}

theorem qualifiedRoot_of_rootQualifies
    (h : rootQualifies purpose predicate policy now approvers r = .ok true) :
    QualifiedRoot purpose predicate policy now r ∧
      ∀ names ∈ approvers, r.principalId.val ∈ names := by
  unfold rootQualifies at h
  split_ifs at h with hc
  · cases h
  push Not at hc
  obtain ⟨hp, ht, ha, hty, hal⟩ := hc
  obtain ⟨current, hcur, h⟩ := bind_eq_ok.1 h
  have hand := Except.ok.inj h
  rw [Bool.and_eq_true, decide_eq_true_eq] at hand
  obtain ⟨rfl, happ⟩ := hand
  exact ⟨⟨hp, ht, ha, hty, hal, rootCurrent_of_trustRootIsCurrent hcur⟩, happ⟩

/-- A root that meets the criteria is not passed over by the check. -/
theorem rootQualifies_of_qualifiedRoot (h : QualifiedRoot purpose predicate policy now r)
    (hnow : now.Representable policy.skew) (happ : ∀ names ∈ approvers, r.principalId.val ∈ names) :
    rootQualifies purpose predicate policy now approvers r = .ok true := by
  classical
  unfold rootQualifies
  rw [if_neg, trustRootIsCurrent_eq r hnow, ok_bind, decide_eq_true h.current,
    decide_eq_true happ]
  · rfl
  · push Not
    exact ⟨h.purpose_eq, h.tenant_eq, h.audience_mem, h.predicateType_mem, h.principal_allowed⟩

/-- The invariant of the loop of `_qualifying_roots` after it has seen `seen`. -/
structure SelectedFrom (P : Platform) (purpose : TrustPurpose)
    (predicate : ActionCertificatePredicate) (policy : TrustPolicy) (now : UtcTime)
    (approvers : Option (List Str)) (roots kept : List TrustRoot) : Prop where
  distinct : Distinct (trustRootFingerprint P) (fun r => r.principalId) kept
  sound : ∀ r ∈ kept, r ∈ roots ∧
    rootQualifies purpose predicate policy now approvers r = .ok true

theorem SelectedFrom.considerRoot {roots kept kept' : List TrustRoot} (hr : r ∈ roots)
    (h : SelectedFrom P purpose predicate policy now approvers roots kept)
    (hstep : considerRoot P purpose predicate policy now approvers kept r = .ok kept') :
    SelectedFrom P purpose predicate policy now approvers roots kept' := by
  obtain ⟨qualifies, hq, hstep⟩ := bind_eq_ok.1 hstep
  obtain rfl := Except.ok.inj hstep
  cases qualifies with
  | false => exact h
  | true =>
    refine ⟨h.distinct.enroll r, fun r' hr' => ?_⟩
    rcases mem_of_mem_enroll hr' with hr' | rfl
    · exact h.sound r' hr'
    · exact ⟨hr, hq⟩

/-- `_qualifying_roots` keeps roots that meet the criteria, distinct in key and in principal. -/
theorem qualifyingRoots_spec {roots kept : List TrustRoot}
    (h : qualifyingRoots P roots purpose predicate policy now approvers = .ok kept) :
    SelectedFrom P purpose predicate policy now approvers roots kept := by
  obtain ⟨distinct, hd, h⟩ := bind_eq_ok.1 h
  obtain rfl := Except.ok.inj h
  have hsel : SelectedFrom P purpose predicate policy now approvers roots distinct :=
    foldlM_invariant (SelectedFrom P purpose predicate policy now approvers roots)
      ⟨Distinct.nil, by simp⟩ (fun r hr _ _ h hstep => h.considerRoot hr hstep) hd
  exact ⟨hsel.distinct.perm (List.perm_insertionSort _ _),
    fun r hr => hsel.sound r ((List.mem_insertionSort _).1 hr)⟩

/-- A root that meets the criteria is kept, or one with its key or its principal is. -/
theorem exists_kept_of_rootQualifies {roots kept : List TrustRoot}
    (h : qualifyingRoots P roots purpose predicate policy now approvers = .ok kept) (hr : r ∈ roots)
    (hq : rootQualifies purpose predicate policy now approvers r = .ok true) :
    ∃ r' ∈ kept, trustRootFingerprint P r' = trustRootFingerprint P r ∨
      r'.principalId = r.principalId := by
  obtain ⟨distinct, hd, h⟩ := bind_eq_ok.1 h
  obtain rfl := Except.ok.inj h
  simp only [List.mem_insertionSort]
  refine foldlM_establishes (fun kept => ∃ r' ∈ kept,
    trustRootFingerprint P r' = trustRootFingerprint P r ∨ r'.principalId = r.principalId)
    hr ?_ ?_ hd
  · intro kept kept' hstep
    simp only [considerRoot, hq, ok_bind] at hstep
    obtain rfl := Except.ok.inj hstep
    exact exists_mem_enroll kept r
  · rintro b - kept kept' ⟨r', hr', hshare⟩ hstep
    obtain ⟨qualifies, -, hstep⟩ := bind_eq_ok.1 hstep
    obtain rfl := Except.ok.inj hstep
    refine ⟨r', ?_, hshare⟩
    split_ifs
    · exact subset_enroll hr'
    · exact hr'

end Qualifying

/-! ## Inversion of the verifier -/

/-- The roots that count for a purpose: enough of them, distinct in key and in principal, each
configured, verifying a signature over exactly the payload, and meeting the criteria. -/
structure CountedRoots (P : Platform) (call : CertificateCall) (a : Authorization)
    (purpose : TrustPurpose) (threshold : ℕ) (roots : List TrustRoot) : Prop where
  threshold_le : threshold ≤ roots.length
  distinct : Distinct (fun r => r.publicKey.bytes) (fun r => r.principalId) roots
  configured : ∀ r ∈ roots, r ∈ call.trustPolicy.roots.val
  signed : ∀ r ∈ roots, ∃ s ∈ a.envelope.signatures.val,
    signatureVerifies P (dssePae dssePayloadType a.payload) s r = true
  qualified : ∀ r ∈ roots, QualifiedRoot purpose a.statement.predicate call.trustPolicy a.now r

/-- What the required approval of an accepted certificate has passed. -/
structure Approved (P : Platform) (call : CertificateCall) (a : Authorization) : Prop where
  scope_eq : a.statement.predicate.approval.scopeSha256 = some (approvalScopeSha256 P a.statement)
  selected : qualifyingRoots P
    (cryptographicallyVerifiedRoots P a.envelope a.payload call.trustPolicy.roots.val)
    .humanApproval a.statement.predicate call.trustPolicy a.now
    (some a.statement.predicate.approval.approverPrincipals.val) = .ok a.approvalRoots
  roots : CountedRoots P call a .humanApproval call.trustPolicy.humanApprovalThreshold.val
    a.approvalRoots
  named : ∀ r ∈ a.approvalRoots,
    r.principalId.val ∈ a.statement.predicate.approval.approverPrincipals.val
  not_human : ∀ r ∈ a.approvalRoots,
    r.principalId ≠ a.statement.predicate.humanPrincipal.principalId
  not_workload : ∀ r ∈ a.approvalRoots,
    r.principalId ≠ a.statement.predicate.workloadPrincipal.principalId
  not_issuer : ∀ i ∈ a.issuerRoots, ∀ r ∈ a.approvalRoots,
    i.principalId ≠ r.principalId ∧ i.publicKey.bytes ≠ r.publicKey.bytes
  not_issuer_fingerprint : ∀ i ∈ a.issuerRoots, ∀ r ∈ a.approvalRoots,
    trustRootFingerprint P i ≠ trustRootFingerprint P r
  unexpired : ∃ t ∈ a.statement.predicate.approval.expiresAt, a.now.instant < t.instant
  active : ∃ resolve ∈ call.approvalRevocationResolver,
    resolve a.statement.predicate.tenantId.val
      ((a.statement.predicate.approval.approvalId.map Subtype.val).getD [])
      (approvalScopeSha256 P a.statement).val a.now = some .active

/-- What a call has passed when it attempts the reservation. -/
structure Authorized (P : Platform) (call : CertificateCall) (a : Authorization) : Prop where
  time : requireAware call.now "verification time" = .ok a.now
  envelope_parsed : parseJsonModel P Decode.dsseEnvelope call.envelopeBytes "DSSE envelope" =
    .ok a.envelope
  payload_eq : a.payload = a.envelope.payload.bytes
  statement_parsed : parseJsonModel P (Decode.actionCertificateStatement P) a.payload
    "signed payload" = .ok a.statement
  allowed : policyAllowsExpected call.trustPolicy call.expectedBinding
  binding_eq : (expectedBindingFor a.statement).pyEq call.expectedBinding
  representable : a.now.Representable call.trustPolicy.skew
  started : a.statement.predicate.notBefore.instant - call.trustPolicy.skew ≤ a.now.instant
  not_expired : a.now.instant < a.statement.predicate.expiresAt.instant + call.trustPolicy.skew
  policy_not_expired :
    a.now.instant < a.statement.predicate.policy.expiresAt.instant + call.trustPolicy.skew
  lifetime_le : a.statement.predicate.expiresAt.instant - a.statement.predicate.issuedAt.instant ≤
    call.trustPolicy.maxLifetime
  issuers_selected : qualifyingRoots P
    (cryptographicallyVerifiedRoots P a.envelope a.payload call.trustPolicy.roots.val)
    .actionIssuer a.statement.predicate call.trustPolicy a.now none = .ok a.issuerRoots
  issuers : CountedRoots P call a .actionIssuer call.trustPolicy.actionIssuerThreshold.val
    a.issuerRoots
  approval : a.statement.predicate.approval.required = true → Approved P call a
  no_approval : a.statement.predicate.approval.required = false → a.approvalRoots = []

section Inversion

variable {P : Platform} {call : CertificateCall}

theorem certificateTimeIsValid_eq_true {predicate : ActionCertificatePredicate}
    {policy : TrustPolicy} {now : UtcTime}
    (h : certificateTimeIsValid predicate policy now = .ok true) :
    now.Representable policy.skew ∧
      predicate.expiresAt.instant - predicate.issuedAt.instant ≤ policy.maxLifetime ∧
      predicate.notBefore.instant - policy.skew ≤ now.instant ∧
      now.instant < predicate.expiresAt.instant + policy.skew ∧
      now.instant < predicate.policy.expiresAt.instant + policy.skew := by
  unfold certificateTimeIsValid at h
  split_ifs at h with h₁
  · cases h
  obtain ⟨later, hl, h⟩ := bind_eq_ok.1 h
  split_ifs at h with h₂
  · cases h
  obtain ⟨earlier, he, h⟩ := bind_eq_ok.1 h
  have hand := Except.ok.inj h
  rw [Bool.and_eq_true, decide_eq_true_eq, decide_eq_true_eq] at hand
  refine ⟨UtcTime.representable_of_ok hl he, not_lt.1 h₁, ?_⟩
  have hl' := UtcTime.add_eq_ok hl
  have he' := UtcTime.sub_eq_ok he
  omega

/-- Roots kept from the verified ones count towards the threshold. -/
theorem countedRoots_of_qualifyingRoots {a : Authorization} {purpose : TrustPurpose}
    {threshold : ℕ} {approvers : Option (List Str)} {kept : List TrustRoot}
    (h : qualifyingRoots P
      (cryptographicallyVerifiedRoots P a.envelope a.payload call.trustPolicy.roots.val) purpose
      a.statement.predicate call.trustPolicy a.now approvers = .ok kept)
    (hlen : threshold ≤ kept.length) : CountedRoots P call a purpose threshold kept := by
  have hsel := qualifyingRoots_spec h
  have hmem : ∀ r ∈ kept, _ := fun r hr =>
    mem_cryptographicallyVerifiedRoots.1 (hsel.sound r hr).1
  exact {
    threshold_le := hlen
    distinct := Distinct.of_digest hsel.distinct
    configured := fun r hr => (hmem r hr).1
    signed := fun r hr => (hmem r hr).2
    qualified := fun r hr => (qualifiedRoot_of_rootQualifies (hsel.sound r hr).2).1 }

/-- The approval block goes on only with an approval. -/
theorem approved_of_requireApproval {a : Authorization} {payloadSha256 : Sha256Text}
    (h : requireApproval P call a.now payloadSha256
      (cryptographicallyVerifiedRoots P a.envelope a.payload call.trustPolicy.roots.val)
      a.statement a.issuerRoots = .ok a.approvalRoots) : Approved P call a := by
  simp only [requireApproval, bind_eq_ok, Flow.raising_eq_ok, Flow.returnIf_eq_ok, not_not,
    not_lt] at h
  obtain ⟨_, hscope, roots, hroots, _, hlen, _, hself, _, hexp, h⟩ := h
  split at h
  · cases h
  next resolve hres =>
  split at h
  · cases h
  · cases h
  · cases h
  next hactive =>
  obtain rfl := Except.ok.inj h
  simp only [selfApproval, not_or, not_exists, not_and] at hself
  obtain ⟨hhuman, hworkload, hprincipal, hkey⟩ := hself
  exact {
    scope_eq := hscope
    selected := hroots
    roots := countedRoots_of_qualifyingRoots hroots hlen
    named := fun r hr =>
      (qualifiedRoot_of_rootQualifies ((qualifyingRoots_spec hroots).sound r hr).2).2 _ rfl
    not_human := hhuman
    not_workload := hworkload
    not_issuer := fun i hi r hr => ⟨hprincipal i hi r hr, fun heq =>
      hkey i hi r hr (congrArg (sha256Bytes P) heq)⟩
    not_issuer_fingerprint := hkey
    unexpired := hexp
    active := ⟨resolve, hres, hactive⟩ }

/-- The verifier attempts a reservation only for what it has authorized. -/
theorem authorized_of_authorize {a : Authorization} (h : authorize P call = .ok a) :
    Authorized P call a := by
  simp only [authorize, bind_eq_ok, Flow.raising_eq_ok, Flow.returnIf_eq_ok, Flow.tryElse_eq_ok,
    not_not, not_lt] at h
  obtain ⟨now, hnow, _, -, ⟨envelope, payload⟩, hopen, _, -, _, -, statement, hstatement, _,
    hallowed, _, hbinding, timely, htime, _, htimely, issuerRoots, hissuers, _, hlen, approvalRoots,
    happrove, h⟩ := h
  obtain rfl := Except.ok.inj h
  obtain rfl : timely = true := by simpa using htimely
  obtain ⟨hrep, hlife, hstart, hexp, hpol⟩ := certificateTimeIsValid_eq_true htime
  obtain ⟨hparse, hpayload⟩ := openEnvelope_eq_ok hopen
  refine {
    time := hnow
    envelope_parsed := hparse
    payload_eq := hpayload
    statement_parsed := hstatement
    allowed := hallowed
    binding_eq := hbinding
    representable := hrep
    started := hstart
    not_expired := hexp
    policy_not_expired := hpol
    lifetime_le := hlife
    issuers_selected := hissuers
    issuers := countedRoots_of_qualifyingRoots hissuers hlen
    approval := fun hreq => ?_
    no_approval := fun hreq => ?_ }
  · unfold approve at happrove
    rw [if_pos hreq] at happrove
    exact approved_of_requireApproval happrove
  · unfold approve at happrove
    rw [if_neg (ne_true_of_eq_false hreq)] at happrove
    exact (Except.ok.inj happrove).symm

end Inversion

/-- An authorized call ends with what the ledger's answer makes of it. -/
theorem verifyActionCertificate_of_authorize {P : Platform} {call : CertificateCall}
    {a : Authorization} {ledger ledger' : InMemoryReplayLedger} {status : ReservationStatus}
    (h : authorize P call = .ok a)
    (hreserve : ledger.reserveOnce (a.reservation P) = (status, ledger')) :
    verifyActionCertificate P call ledger = (a.conclude P status, ledger') := by
  unfold verifyActionCertificate
  rw [h]
  simp only [hreserve]

/-! ## The exits -/

section Exits

variable {P : Platform} {call : CertificateCall}

/-- The fields of a result the verifier builds. -/
theorem verificationResult_eq_ok {status : VerificationStatus} {reasons : List VerificationReason}
    {certificateId : Option Identifier} {payloadSha256 : Option Sha256Text}
    {issuerRoots approvalRoots : List TrustRoot} {reserved : Bool}
    {result : ActionCertificateVerificationResult}
    (h : verificationResult status reasons certificateId payloadSha256 issuerRoots approvalRoots
      reserved = .ok result) :
    result.status = status ∧ result.reasonCodes.val = reasons.eraseDups ∧
      result.certificateId = certificateId.map Subtype.val ∧
      result.payloadSha256 = payloadSha256 ∧
      result.verifiedActionIssuerRoots.val = sortedStr (issuerRoots.map fun r => r.rootId.val) ∧
      result.verifiedHumanApprovalRoots.val =
        sortedStr (approvalRoots.map fun r => r.rootId.val) ∧
      result.reserved = reserved := by
  simp only [verificationResult, bind_eq_ok, boundedItems_eq_ok, construct_eq_ok] at h
  obtain ⟨codes, hcodes, issuers, hissuers, approvals, happrovals, _, rfl⟩ := h
  exact ⟨rfl, hcodes.symm, rfl, rfl, hissuers.symm, happrovals.symm, rfl⟩

/-- The call did not return ACCEPT. -/
def NotAccepted (out : CertificateOutcome) : Prop := ∀ r, out = .ok r → r.status ≠ .accept

theorem notAccepted_verificationResult {status : VerificationStatus}
    {reasons : List VerificationReason} {certificateId : Option Identifier}
    {payloadSha256 : Option Sha256Text} {issuerRoots approvalRoots : List TrustRoot}
    {reserved : Bool} (h : status ≠ .accept) :
    NotAccepted (verificationResult status reasons certificateId payloadSha256 issuerRoots
      approvalRoots reserved) := by
  intro r hr
  rw [(verificationResult_eq_ok hr).1]
  exact h

theorem notAccepted_error (e : PyErr) : NotAccepted (.error e) := by
  intro r hr
  cases hr

theorem exits_requireApproval {now : UtcTime} {payloadSha256 : Sha256Text}
    {verifiedRoots issuerRoots : List TrustRoot} {statement : ActionCertificateStatement} :
    Flow.Exits NotAccepted
      (requireApproval P call now payloadSha256 verifiedRoots statement issuerRoots) := by
  have leave {status : VerificationStatus} {reason : VerificationReason} {roots : List TrustRoot}
      (h : status ≠ .accept) : NotAccepted (verificationResult status [reason]
        (some statement.predicate.certificateId) (some payloadSha256) issuerRoots roots false) :=
    notAccepted_verificationResult h
  unfold requireApproval
  refine (Flow.exits_returnIf fun _ => leave (by simp)).bind fun _ _ => ?_
  refine (Flow.exits_raising fun e _ => notAccepted_error e).bind fun approvalRoots _ => ?_
  refine (Flow.exits_returnIf fun _ => leave (by simp)).bind fun _ _ => ?_
  refine (Flow.exits_returnIf fun _ => leave (by simp)).bind fun _ _ => ?_
  refine (Flow.exits_returnIf fun _ => leave (by simp)).bind fun _ _ => ?_
  split
  · exact Flow.exits_error (leave (by simp))
  · split
    · exact Flow.exits_error (leave (by simp))
    · exact Flow.exits_error (leave (by simp))
    · exact Flow.exits_error (leave (by simp))
    · exact Flow.exits_ok _

/-- Every way out before the reservation is a rejection, an unknown or an exception. -/
theorem exits_authorize : Flow.Exits NotAccepted (authorize P call) := by
  have leave {reasons : List VerificationReason} {certificateId : Option Identifier}
      {payloadSha256 : Option Sha256Text} : NotAccepted (verificationResult .reject reasons
        certificateId payloadSha256 [] [] false) :=
    notAccepted_verificationResult (by simp)
  unfold authorize
  refine (Flow.exits_raising fun e _ => notAccepted_error e).bind fun now _ => ?_
  refine (Flow.exits_returnIf fun _ => leave).bind fun _ _ => ?_
  refine (Flow.exits_tryElse leave fun e _ _ => notAccepted_error e).bind fun opened _ => ?_
  refine (Flow.exits_returnIf fun _ => leave).bind fun _ _ => ?_
  refine (Flow.exits_returnIf fun _ => leave).bind fun _ _ => ?_
  refine (Flow.exits_tryElse leave fun e _ _ => notAccepted_error e).bind fun statement _ => ?_
  refine (Flow.exits_returnIf fun _ => leave).bind fun _ _ => ?_
  refine (Flow.exits_returnIf fun _ => leave).bind fun _ _ => ?_
  refine (Flow.exits_raising fun e _ => notAccepted_error e).bind fun timely _ => ?_
  refine (Flow.exits_returnIf fun _ => leave).bind fun _ _ => ?_
  refine (Flow.exits_raising fun e _ => notAccepted_error e).bind fun issuerRoots _ => ?_
  refine (Flow.exits_returnIf fun _ => leave).bind fun _ _ => ?_
  refine Flow.Exits.bind ?_ fun approvalRoots _ => Flow.exits_ok _
  unfold approve
  split_ifs
  · exact exits_requireApproval
  · exact Flow.exits_ok _

/-- A call that returns ACCEPT attempted a reservation and was granted it. -/
theorem accept_inversion {ledger ledger' : InMemoryReplayLedger}
    {result : ActionCertificateVerificationResult}
    (h : verifyActionCertificate P call ledger = (.ok result, ledger'))
    (haccept : result.status = .accept) :
    ∃ a, authorize P call = .ok a ∧ ledger.reserveOnce (a.reservation P) = (.reserved, ledger') ∧
      a.conclude P .reserved = .ok result := by
  unfold verifyActionCertificate at h
  cases ha : authorize P call with
  | error out =>
    simp only [ha, Prod.mk.injEq] at h
    exact absurd haccept (exits_authorize out ha result h.1)
  | ok a =>
    simp only [ha, Prod.mk.injEq] at h
    obtain ⟨hconclude, hledger⟩ := h
    refine ⟨a, rfl, ?_⟩
    cases hs : (ledger.reserveOnce (a.reservation P)).1 with
    | reserved =>
      rw [hs] at hconclude
      exact ⟨Prod.ext hs hledger, hconclude⟩
    | replay =>
      rw [hs] at hconclude
      exact absurd haccept (notAccepted_verificationResult (by simp) result hconclude)
    | idempotencyConflict =>
      rw [hs] at hconclude
      exact absurd haccept (notAccepted_verificationResult (by simp) result hconclude)
    | unavailable =>
      rw [hs] at hconclude
      exact absurd haccept (notAccepted_verificationResult (by simp) result hconclude)

end Exits

/-! ## Soundness of ACCEPT -/

/-- Everything that holds when the verifier returns ACCEPT: the call is authorized, the result
reports exactly the counted roots, the policy decision covers the time, and the certificate's
nonce and idempotency key were free and are now reserved. -/
structure Accepted (P : Platform) (call : CertificateCall) (ledger ledger' : InMemoryReplayLedger)
    (result : ActionCertificateVerificationResult) (a : Authorization) : Prop extends
    Authorized P call a where
  policy_evaluated :
    a.statement.predicate.policy.evaluatedAt.instant ≤ a.now.instant + call.trustPolicy.skew
  certificate_reported : result.certificateId = some a.statement.predicate.certificateId.val
  payload_reported : result.payloadSha256 = some (sha256Bytes P a.payload)
  issuers_reported : result.verifiedActionIssuerRoots.val =
    sortedStr (a.issuerRoots.map fun r => r.rootId.val)
  approvals_reported : result.verifiedHumanApprovalRoots.val =
    sortedStr (a.approvalRoots.map fun r => r.rootId.val)
  reserved : result.reserved = true
  nonce_free : ledger.nonces.get (a.reservation P).nonceKey = none
  idempotency_free : ledger.idempotency.get (a.reservation P).idempotency = none
  nonce_taken : ledger'.nonces.get (a.reservation P).nonceKey =
    some (approvalScopeSha256 P a.statement).val
  idempotency_taken : ledger'.idempotency.get (a.reservation P).idempotency =
    some (approvalScopeSha256 P a.statement).val

theorem accepted_of_accept {P : Platform} {call : CertificateCall}
    {ledger ledger' : InMemoryReplayLedger} {result : ActionCertificateVerificationResult}
    (h : verifyActionCertificate P call ledger = (.ok result, ledger'))
    (haccept : result.status = .accept) :
    ∃ a, authorize P call = .ok a ∧ Accepted P call ledger ledger' result a := by
  obtain ⟨a, ha, hreserve, hconclude⟩ := accept_inversion h haccept
  have hauth := authorized_of_authorize ha
  obtain ⟨-, -, hid, hpayload, hissuers, happrovals, hreserved⟩ :=
    verificationResult_eq_ok hconclude
  have hlow := a.statement.predicate.issuedAt_le_notBefore
  have hpol := a.statement.predicate.policy_evaluatedAt_le
  have hstart := hauth.started
  rcases ledger.reserveOnce_cases (a.reservation P) with ⟨hn, hi, -, heq⟩ | ⟨hs, -⟩
  · rw [hreserve] at heq
    obtain rfl := (Prod.mk.inj heq).2
    exact ⟨a, ha, {
      toAuthorized := hauth
      policy_evaluated := by omega
      certificate_reported := hid
      payload_reported := hpayload
      issuers_reported := hissuers
      approvals_reported := happrovals
      reserved := hreserved
      nonce_free := hn
      idempotency_free := hi
      nonce_taken := Dict.get_set_self _ _ _
      idempotency_taken := Dict.get_set_self _ _ _ }⟩
  · rw [hreserve] at hs
    exact absurd rfl hs

/-- ACCEPT is sound: for every envelope, policy, expected binding, resolver, ledger and time. -/
theorem verifyActionCertificate_accept_sound {P : Platform} {call : CertificateCall}
    {ledger ledger' : InMemoryReplayLedger} {result : ActionCertificateVerificationResult}
    (h : verifyActionCertificate P call ledger = (.ok result, ledger'))
    (haccept : result.status = .accept) :
    ∃ a, Accepted P call ledger ledger' result a := by
  obtain ⟨a, -, ha⟩ := accepted_of_accept h haccept
  exact ⟨a, ha⟩

/-! ## A sample certificate -/

namespace Sample

def ident (s : String) : Identifier :=
  if h : isIdentifier (lit s) = true then ⟨lit s, h⟩ else ⟨lit "x", by decide⟩

def text {hi : ℕ} (s : String) : Text 1 (hi + 1) :=
  if h : 1 ≤ (lit s).length ∧ (lit s).length ≤ hi + 1 then ⟨lit s, h⟩ else ⟨['x'], by simp⟩

def localText {hi : ℕ} (s : String) : LocalText 1 (hi + 1) :=
  if h : (1 ≤ (lit s).length ∧ (lit s).length ≤ hi + 1) ∧ isLocalLabel (lit s) = true then
    ⟨lit s, h⟩
  else ⟨['x'], by simp [isLocalLabel]; decide⟩

def one {hi : ℕ} : Ranged 1 (hi + 1) := ⟨1, by simp⟩

def nothing {α : Type} {hi : ℕ} : Items α 0 hi := ⟨[], by simp⟩

/-- Room for ten entries. -/
def capacity : Ranged 1 1000000 := ⟨10, by decide⟩

/-- A digest as its text. -/
def digest (d : BitVec 256) : Sha256Text :=
  ⟨lit "sha256:" ++ hexdigest d, isSha256_append (isHexOfLength_hexdigest _)⟩

/-- The digest whose 64 hexadecimal digits are all `k`. -/
def repeated (k : ℕ) : BitVec 256 := BitVec.ofNat 256 (k * (16 ^ 64 / 15))

/-- Minutes after 2026-01-01T00:00:00Z. -/
def minute (m : ℕ) : UtcTime := ⟨63902822400000000 + m % 240 * 60000000, by
  have hm := Nat.mod_lt m (show 0 < 240 by decide)
  have hmax : maxMicros = 315537897599999999 := by decide
  omega⟩

/-- The bytes of a number, most significant first. -/
def bigEndian (length n : ℕ) : Bytes :=
  (List.range length).map fun i => UInt8.ofNat (n / 256 ^ (length - 1 - i) % 256)

def issuerKey : Bytes :=
  bigEndian 32 0x8a88e3dd7409f195fd52db2d3cba5d72ca6709bf1d94121bf3748801b40f6f5c

def approverKey : Bytes :=
  bigEndian 32 0x8139770ea87d175f56a35466c34c7ecccb8d8a91b4ee37a25df60f5b8fc9b394

def observerKey : Bytes :=
  bigEndian 32 0xed4928c628d1c2c6eae90338905995612959273a5c63f93636c14614ac8737d1

def auditorKey : Bytes :=
  bigEndian 32 0xca93ac1705187071d67b83c7ff0efe8108e8ec4530575d7726879333dbdabe7c

/-- A signature from its two halves. -/
def signature (r s : ℕ) : SignatureBytes := ⟨bigEndian 32 r ++ bigEndian 32 s, by simp [bigEndian]⟩

def issuerSignature : SignatureBytes :=
  signature 0xdc074667ead7fdb9706f8ed459cb0c15e29a5f4a97ace02b3fd35094e36acb74
    0x2c05cb19eeb16985e72db9ea8f48f22f5638c0c218423eb2a1be4c693907800f

def approverSignature : SignatureBytes :=
  signature 0x02c7c896e2a40b6328ba7b7dee87a88f8de3b3fe2feec73d654365714b2b79f0
    0xd5ca484f58aed645ce8189475080f4c040ffac182e796cc6354ae772ad53bf06

def receiptSignature : SignatureBytes :=
  signature 0xf6e51d2722ee9a8d970d6ea29da45782d9c5dd8a32da9c0be9053817ee9fda6b
    0xdd240cbac892f68cf01c01e691918651307080bbec251a90305113239d57ef00

def closureSignature : SignatureBytes :=
  signature 0x208c5e08fd871834617f34904d5726efa7f97cba66e90a1fcd7b67f74b5363c4
    0x8ed3b2ca0ddcb1de1e2671c67e767499b0635794393b877e41b4605e486eea0c

def lateClosureSignature : SignatureBytes :=
  signature 0x0d9e58c4bbce3dace6d5ddefb31fb5e7def2eb0e57aba3a6608a7c174a7f1a5e
    0x57bb940e4c0bfc0030383ad7ed8f3cbff8893f684022dc310af86c9d8138cf05

def scopeDigest : BitVec 256 := 0x4f6581061e7c517f50cebd5e764f0309d5974755803c12ee7f7fbac7c176a19b

def payloadDigest : BitVec 256 :=
  0x80f78ca4596ef1b3d6ef54eced539c13af3ac402ce35e8177102537ea806f4c1

def envelopeDigest : BitVec 256 :=
  0x6decfcded0cd16e43a0b1a21cd09bb5346e998c587f57d79f2a696560eae636f

def resultDigest : BitVec 256 :=
  0xa0fc28046d5008f0908199ae1378434ba800e3c2a706fee8bef2a669d0bcd19f

def receiptPayloadDigest : BitVec 256 :=
  0x10c8419f9f29b4ab8838eef5603a0283869d6187cef4040e8c829811569cb0b4

def receiptEnvelopeDigest : BitVec 256 :=
  0xab64079f8c5bd78f84e9829c0f8249417191d9942dcabf224fad50cfa1030d27

def receiptResultDigest : BitVec 256 :=
  0x77d8c57fdfbb7f65638d7472a47ee1137ec4f571b4f608961d61db5c198c00cc

def closurePayloadDigest : BitVec 256 :=
  0x0e8243dd7f5e7ff6b2dd1a98019023f7ecd92273e6b1f1b9f860013cc8388e0d

def closureEnvelopeDigest : BitVec 256 :=
  0xb609921585af58f50ce1690d6b1a36145d31c70bdef1943adc2ebef31c83a2e2

/-- The digest of the evidence, which is the one byte `e`. -/
def evidenceDigest : BitVec 256 :=
  0x3f79bb7b435b05321651daefd374cdc681dc06faa65e374e38337b88ca046dea

/-- SHA-256 on the byte strings of the sample, which differ in their length or their first byte. -/
def digests : List ((ℕ × Option UInt8) × BitVec 256) :=
  [((32, some 0x8a), 0x34750f98bd59fcfc946da45aaabe933be154a4b5094e1c4abf42866505f3c97e),
    ((32, some 0x81), 0x6a3803d5f059902a1c6dafbc9ba4729212f7caac08634cc3ae76b27529f03827),
    ((32, some 0xed), 0xb62e867fa2f33afe62d5d6b1642e1621d543307846b2a57b897e710919b76709),
    ((32, some 0xca), 0xc5b940ed3f65c391965de8295fc5d25f474fa57b48d36eb10ad363b8539c1b79),
    ((1520, some 0x7b), scopeDigest), ((2025, some 0x7b), payloadDigest),
    ((2972, some 0x7b), envelopeDigest), ((343, some 0x7b), resultDigest),
    ((3662, some 0x7b), receiptPayloadDigest), ((5057, some 0x7b), receiptEnvelopeDigest),
    ((525, some 0x7b), receiptResultDigest), ((1, some 0x65), evidenceDigest),
    ((2571, some 0x7b), closurePayloadDigest), ((3601, some 0x7b), closureEnvelopeDigest),
    ((2574, some 0x7b), 0x7c63a5b443c26a665126ad67dde0deca06c865e65f2eff0107f07c3e7a4bdc94),
    ((3605, some 0x7b), 0xae346d7675d8f75b39604f5708c6532e1a3ac31bdc5133a7abb54cdbaed7139b)]

/-- The keys of the sample with the signatures that verify under them. -/
def signatures : List (Bytes × Bytes) :=
  [(issuerKey, issuerSignature.val), (approverKey, approverSignature.val),
    (observerKey, receiptSignature.val), (auditorKey, closureSignature.val),
    (auditorKey, lateClosureSignature.val)]

/-- A platform that knows the sample. -/
def platform : Platform where
  sha256 b := ((digests.find? fun d => d.1 = (b.length, b.head?)).map Prod.snd).getD 0
  ed25519Verify key signature _ := decide ((key, signature) ∈ signatures)
  jiter b := match jsonLoads 900 b with
    | .ok v => jiterValue v
    | .error _ => none
  parseDatetime s := match parseUtcRfc3339Z s "" with
    | .ok t => some (.ofUtc t)
    | .error _ => none
  datetimeText t :=
    if t = .ofUtc (minute 0) then lit "2026-01-01T00:00:00Z"
    else if t = .ofUtc (minute 60) then lit "2026-01-01T01:00:00Z"
    else lit "2026-01-01T02:00:00Z"
  recursionLimit := 900

theorem readsText_platform : platform.ReadsText := by
  intro b v h
  simp only [platform] at h ⊢
  rw [h]

theorem find_digests : ∀ e ∈ digests, digests.find? (fun e' => e'.1 = e.1) = some e := by
  decide

theorem sha256Bytes_platform {b : Bytes} {n : ℕ} {x : Option UInt8} {d : BitVec 256}
    (hlen : b.length = n) (hhead : b.head? = x) (hmem : ((n, x), d) ∈ digests) :
    sha256Bytes platform b = digest d := by
  have hd := find_digests _ hmem
  have hsha : platform.sha256 b = d := by
    simp only [platform, hlen, hhead, hd, Option.map_some, Option.getD_some]
  exact Subtype.ext (congrArg (lit "sha256:" ++ hexdigest ·) hsha)

def statement : ActionCertificateStatement where
  subject := ⟨[{
    name := localText "input"
    digest := ⟨hexdigest (repeated 1), isHexOfLength_hexdigest _⟩ }], by decide⟩
  predicate := {
    certificateId := ident "cert-1"
    tenantId := ident "tenant"
    humanPrincipal := { principalId := ident "human", identityIssuer := text "idp" }
    workloadPrincipal := { principalId := ident "worker", identityIssuer := text "idp" }
    audience := text "runtime"
    delegationChain := ⟨[{
      delegator := ident "human"
      delegatee := ident "worker"
      scopeSha256 := digest (repeated 2)
      valid := by decide +kernel }], by decide⟩
    subject := {
      subjectType := text "case"
      subjectId := text "case-1"
      attributesSha256 := digest (repeated 3) }
    action := { actionName := text "send", parametersSha256 := digest (repeated 4) }
    resource := {
      resourceType := text "mail"
      resourceId := text "box"
      attributesSha256 := digest (repeated 5) }
    context := {
      requestId := ident "exec-1"
      traceId := ident "0123456789abcdef0123456789abcdef"
      environment := text "test"
      attributesSha256 := digest (repeated 6) }
    dataClassification := .internal
    policy := {
      policyId := ident "policy-1"
      policyRevision := text "1"
      policySha256 := digest (repeated 7)
      evaluatedAt := .ofUtc (minute 0)
      expiresAt := .ofUtc (minute 120)
      valid := by decide +kernel }
    approval := {
      required := true
      approvalId := some (ident "approval-1")
      scopeSha256 := some (digest scopeDigest)
      approverPrincipals := ⟨[lit "approver"], by decide⟩
      expiresAt := some (.ofUtc (minute 120))
      valid := by decide +kernel }
    effect := {
      effectType := text "mail"
      target := text "inbox"
      requestSha256 := digest (repeated 4)
      idempotencyKey := ident "key-1" }
    nonce := ident "nonce-1"
    issuedAt := .ofUtc (minute 0)
    notBefore := .ofUtc (minute 0)
    expiresAt := .ofUtc (minute 60)
    valid := by decide +kernel }
  valid := by decide +kernel

def statementMembers (P : Platform) (statement : ActionCertificateStatement) : List (Str × Canon) :=
  let p := statement.predicate
  [member "_type" (.str (lit "https://in-toto.io/Statement/v1")),
    member "subject" (.arr (statement.subject.val.map InTotoSubject.modelDump)),
    member "predicateType"
      (.str (lit "https://proofflow.dev/attestations/action-certificate/v0.1")),
    member "predicate" (.obj [
      member "version" (.str (lit "0.1")),
      member "certificate_id" (.str p.certificateId.val),
      member "tenant_id" (.str p.tenantId.val),
      member "human_principal" p.humanPrincipal.modelDump,
      member "workload_principal" p.workloadPrincipal.modelDump,
      member "audience" (.str p.audience.val),
      member "delegation_chain" (.arr (p.delegationChain.val.map DelegationHop.modelDump)),
      member "subject" p.subject.modelDump,
      member "action" p.action.modelDump,
      member "resource" p.resource.modelDump,
      member "context" p.context.modelDump,
      member "data_classification" (.str p.dataClassification.value),
      member "policy" (p.policy.modelDump P),
      member "approval" (.obj [
        member "required" (.bool p.approval.required),
        member "approval_id" (.optional (p.approval.approvalId.map Subtype.val)),
        member "scope_sha256" (.optional (p.approval.scopeSha256.map Subtype.val)),
        member "approver_principals" (.arr (p.approval.approverPrincipals.val.map .str)),
        member "expires_at" (.optional (p.approval.expiresAt.map P.datetimeText))]),
      member "effect" p.effect.modelDump,
      member "nonce" (.str p.nonce.val),
      member "issued_at" (.str (P.datetimeText p.issuedAt)),
      member "not_before" (.str (P.datetimeText p.notBefore)),
      member "expires_at" (.str (P.datetimeText p.expiresAt))])]

def payload : Bytes := canonicalJson (.obj (statementMembers platform statement))

set_option maxRecDepth 100000 in
theorem length_payload : payload.length = 2025 := by decide

theorem sha256_payload : sha256Bytes platform payload =
    digest payloadDigest :=
  sha256Bytes_platform length_payload (head_canonicalJson _) (by simp [digests])

set_option maxRecDepth 100000 in
theorem approvalScopeSha256_statement :
    approvalScopeSha256 platform statement = digest scopeDigest :=
  sha256Bytes_platform (n := 1520) (by decide) (head_canonicalJson _) (by simp [digests])

set_option maxRecDepth 100000 in
theorem parse_payload (label : String) :
    parseJsonModel platform (Decode.actionCertificateStatement platform) payload label =
      .ok statement :=
  parseJsonModel_canonicalJson readsText_platform (by decide) (by decide)
    (by decide)

def parts : EnvelopeParts where
  payload := payload
  signatures := [issuerSignature, approverSignature]
  payload_length := by rw [length_payload]; decide
  signatures_length := by decide

/-- A root for one purpose, valid for three hours. -/
def rootFields (rootId principal : Identifier) (purpose : TrustPurpose)
    (publicKey : Base64Text (some 32) false) (audience : String) (predicateType : PredicateType) :
    TrustRootFields where
  rootId := rootId
  keyidHints := nothing
  purpose := purpose
  publicKey := publicKey
  tenantId := ident "tenant"
  principalId := principal
  audiences := ⟨[lit audience], by simp⟩
  predicateTypes := ⟨[predicateType], by simp⟩
  executionObserverScopes := nothing
  outcomeObserverScopes := nothing
  outcomeEvidenceSourceKinds := nothing
  outcomeEvidenceSourcePrincipals := nothing
  notBefore := .ofUtc (minute 0)
  notAfter := .ofUtc (minute 180)
  revokedAt := none

def issuerRoot : TrustRoot where
  toTrustRootFields := rootFields (ident "a-issuer") (ident "issuer") .actionIssuer
    (.ofBytes issuerKey (by decide +kernel)) "runtime" .actionCertificate
  valid := by decide +kernel

def approverRoot : TrustRoot where
  toTrustRootFields := rootFields (ident "b-approver") (ident "approver") .humanApproval
    (.ofBytes approverKey (by decide +kernel)) "runtime" .actionCertificate
  valid := by decide +kernel

def policyFields (roots : Items TrustRoot 1 maxTrustRoots) : TrustPolicyFields where
  allowedTenants := ⟨[lit "tenant"], by simp⟩
  allowedHumanPrincipals := ⟨[lit "human"], by simp⟩
  allowedWorkloadPrincipals := ⟨[lit "worker"], by simp⟩
  allowedActionIssuerPrincipals := ⟨[lit "issuer"], by simp⟩
  allowedApprovalPrincipals := ⟨[lit "approver"], by simp⟩
  allowedExecutionObserverPrincipals := ⟨[lit "observer"], by simp⟩
  allowedOutcomeObserverPrincipals := ⟨[lit "auditor"], by simp⟩
  allowedOutcomeEvidenceSourceKinds := nothing
  allowedOutcomeEvidenceSourcePrincipals := nothing
  allowedAudiences := ⟨[lit "runtime", lit "proofflow-execution-receipt"], by simp⟩
  allowedPredicateTypes := ⟨[.actionCertificate, .executionReceipt], by simp⟩
  approvalRequired := true
  actionIssuerThreshold := one
  humanApprovalThreshold := one
  executionObserverThreshold := one
  outcomeObserverThreshold := one
  maxCertificateLifetimeSeconds := ⟨3600, by decide⟩
  maxClockSkewSeconds := ⟨0, by decide⟩
  roots := roots

def policy : TrustPolicy where
  toTrustPolicyFields := policyFields ⟨[issuerRoot, approverRoot], by decide⟩
  valid := by decide +kernel

/-- The sample certificate under a policy, half an hour after its issuance. -/
def call (policy : TrustPolicy) : CertificateCall where
  envelopeBytes := parts.bytes
  trustPolicy := policy
  expectedBinding := expectedBindingFor statement
  approvalRevocationResolver := some fun _ _ _ _ => some .active
  now := .ofUtc (minute 30)

def authorization : Authorization where
  now := minute 30
  envelope := parts.envelope
  payload := payload
  statement := statement
  issuerRoots := [issuerRoot]
  approvalRoots := [approverRoot]

def acceptedResult : ActionCertificateVerificationResult where
  status := .accept
  reasonCodes := ⟨[.accepted], by decide⟩
  certificateId := some (lit "cert-1")
  payloadSha256 := some (digest payloadDigest)
  verifiedActionIssuerRoots := ⟨[lit "a-issuer"], by decide⟩
  verifiedHumanApprovalRoots := ⟨[lit "b-approver"], by decide⟩
  reserved := true
  valid := by decide

theorem openEnvelope_parts (label payloadLabel : String) :
    openEnvelope platform parts.bytes label payloadLabel = .ok (parts.envelope, payload) :=
  parts.openEnvelope_bytes readsText_platform (by decide) label payloadLabel

theorem length_parts : parts.bytes.length = 2972 := by
  have hparts := parts.length_bytes
  have hpayload : parts.payload.length = 2025 := length_payload
  have hcount : parts.signatures.length = 2 := rfl
  omega

theorem not_oversized : ¬ maxEnvelopeBytes < parts.bytes.length ∧
    ¬ maxPayloadBytes < payload.length := by
  rw [length_parts, length_payload]
  decide

theorem scope_stated : statement.predicate.approval.scopeSha256 =
    some (approvalScopeSha256 platform statement) := by
  rw [approvalScopeSha256_statement]
  rfl

section Authorize

variable {policy : TrustPolicy} {verified : List TrustRoot}

/-- The roots that a policy with thresholds of one selects from the sample's signatures. -/
structure Selects (policy : TrustPolicy) (verified : List TrustRoot) : Prop where
  verifies : cryptographicallyVerifiedRoots platform parts.envelope payload policy.roots.val =
    verified
  issuers : qualifyingRoots platform verified .actionIssuer statement.predicate policy (minute 30)
    none = .ok [issuerRoot]
  approvers : qualifyingRoots platform verified .humanApproval statement.predicate policy
    (minute 30) (some [lit "approver"]) = .ok [approverRoot]
  thresholds : policy.actionIssuerThreshold.val = 1 ∧ policy.humanApprovalThreshold.val = 1
  allowed : policyAllowsExpected policy (expectedBindingFor statement)
  timely : certificateTimeIsValid statement.predicate policy (minute 30) = .ok true

theorem Selects.approve (h : Selects policy verified) :
    approve platform (call policy) (minute 30) (sha256Bytes platform payload) verified statement
      [issuerRoot] = .ok [approverRoot] := by
  have hself : ¬ selfApproval platform statement.predicate [issuerRoot] [approverRoot] := by
    decide
  have hlive : ∃ t ∈ statement.predicate.approval.expiresAt, (minute 30).instant < t.instant := by
    decide
  have hrequired : statement.predicate.approval.required = true := rfl
  unfold ProofFlow.approve requireApproval
  rw [if_pos hrequired]
  simp only [bind_eq_ok, Flow.raising_eq_ok, Flow.returnIf_eq_ok, not_not, not_lt]
  exact ⟨(), scope_stated, [approverRoot], h.approvers, (), h.thresholds.2.le, (), hself, (), hlive,
    rfl⟩

set_option maxRecDepth 100000 in
theorem expectedBinding_pyEq :
    (expectedBindingFor statement).pyEq (expectedBindingFor statement) := by
  decide

/-- The verifier reaches the reservation. -/
theorem Selects.authorize (h : Selects policy verified) :
    authorize platform (call policy) = .ok authorization := by
  have hne : verified ≠ [] := by
    rintro rfl
    exact absurd (Except.ok.inj h.issuers) (by decide)
  simp only [ProofFlow.authorize, bind_eq_ok, Flow.raising_eq_ok, Flow.returnIf_eq_ok,
    Flow.tryElse_eq_ok, not_not, not_lt, Bool.not_eq_false]
  refine ⟨minute 30, requireAware_ofUtc _ _, (), not_lt.1 not_oversized.1,
    (parts.envelope, payload), openEnvelope_parts _ _, (), not_lt.1 not_oversized.2, (), ?_,
    statement, parse_payload _, (),
    h.allowed, (), expectedBinding_pyEq, true, h.timely, (), rfl, [issuerRoot], ?_, (),
    h.thresholds.1.le, [approverRoot], ?_, rfl⟩
  · exact fun hnil => hne (h.verifies.symm.trans hnil)
  · exact (congrArg (qualifyingRoots platform · _ _ _ _ _) h.verifies).trans h.issuers
  · exact (congrArg (ProofFlow.approve platform _ _ _ · _ _) h.verifies).trans h.approve

/-- A ledger for ten reservations. -/
def ledger : InMemoryReplayLedger := .init capacity

theorem conclude_authorization :
    authorization.conclude platform .reserved = .ok acceptedResult := by
  unfold Authorization.conclude
  have hpayload : sha256Bytes platform authorization.payload =
      digest payloadDigest := sha256_payload
  rw [hpayload]
  decide

theorem Selects.accepts (h : Selects policy verified) :
    ∃ ledger', verifyActionCertificate platform (call policy) ledger =
      (.ok acceptedResult, ledger') := by
  obtain ⟨ledger', hreserve⟩ :=
    InMemoryReplayLedger.reserveOnce_init capacity (authorization.reservation platform)
  refine ⟨ledger', (verifyActionCertificate_of_authorize h.authorize hreserve).trans ?_⟩
  rw [conclude_authorization]

end Authorize

set_option maxRecDepth 100000 in
theorem selects_policy : Selects policy [issuerRoot, approverRoot] where
  verifies := by decide
  issuers := by decide
  approvers := by decide
  thresholds := ⟨rfl, rfl⟩
  allowed := by decide
  timely := by decide

end Sample

/-- The sample certificate is accepted, and soundly so. -/
theorem sample_accept_sound : ∃ ledger',
    verifyActionCertificate Sample.platform (Sample.call Sample.policy) Sample.ledger =
        (.ok Sample.acceptedResult, ledger') ∧
      ∃ a, Accepted Sample.platform (Sample.call Sample.policy) Sample.ledger ledger'
        Sample.acceptedResult a := by
  obtain ⟨ledger', h⟩ := Sample.selects_policy.accepts
  exact ⟨ledger', h, verifyActionCertificate_accept_sound h rfl⟩

/-! ## Separation of duties -/

section Separation

variable {P : Platform} {call : CertificateCall}

/-- A configured root that verifies the envelope and meets every criterion for an issuer, whether
or not it was counted. -/
structure EligibleIssuer (P : Platform) (call : CertificateCall) (a : Authorization)
    (i : TrustRoot) : Prop where
  configured : i ∈ call.trustPolicy.roots.val
  signed : ∃ s ∈ a.envelope.signatures.val,
    signatureVerifies P (dssePae dssePayloadType a.payload) s i = true
  qualified : QualifiedRoot .actionIssuer a.statement.predicate call.trustPolicy a.now i

/-- A configured root that the result reports as a human approval. -/
def ReportedApproval (call : CertificateCall) (result : ActionCertificateVerificationResult)
    (r : TrustRoot) : Prop :=
  r ∈ call.trustPolicy.roots.val ∧ r.rootId.val ∈ result.verifiedHumanApprovalRoots.val

/-- No key and no principal belongs both to a reported approval and to an eligible issuer. -/
def SeparationOfDuties (P : Platform) (call : CertificateCall) (a : Authorization)
    (result : ActionCertificateVerificationResult) : Prop :=
  ∀ i, EligibleIssuer P call a i → ∀ r, ReportedApproval call result r →
    i.principalId ≠ r.principalId ∧ i.publicKey.bytes ≠ r.publicKey.bytes

/-- A root that `_qualifying_roots` selects for the human approval. -/
def SelectedApproval (P : Platform) (call : CertificateCall) (a : Authorization) (r : TrustRoot) :
    Prop :=
  ∃ roots, qualifyingRoots P
    (cryptographicallyVerifiedRoots P a.envelope a.payload call.trustPolicy.roots.val)
    .humanApproval a.statement.predicate call.trustPolicy a.now
    (some a.statement.predicate.approval.approverPrincipals.val) = .ok roots ∧ r ∈ roots

/-- Two eligible issuer roots belong to one principal and one of them has the key of a selected
approval, or two of them hold one key and one of them has the principal of a selected approval. -/
def AliasedIssuer (P : Platform) (call : CertificateCall) (a : Authorization) : Prop :=
  ∃ i i', EligibleIssuer P call a i ∧ EligibleIssuer P call a i' ∧ i ≠ i' ∧
    ∃ r, SelectedApproval P call a r ∧
      ((i.principalId = i'.principalId ∧ i.publicKey.bytes = r.publicKey.bytes) ∨
        (trustRootFingerprint P i = trustRootFingerprint P i' ∧ i.principalId = r.principalId))

theorem selectedApproval_iff {a : Authorization} (h : Approved P call a) {r : TrustRoot} :
    SelectedApproval P call a r ↔ r ∈ a.approvalRoots := by
  constructor
  · rintro ⟨roots, hroots, hr⟩
    rwa [Except.ok.inj (hroots.symm.trans h.selected)] at hr
  · exact fun hr => ⟨a.approvalRoots, h.selected, hr⟩

theorem reportedApproval_iff {ledger ledger' : InMemoryReplayLedger}
    {result : ActionCertificateVerificationResult} {a : Authorization}
    (h : Accepted P call ledger ledger' result a) {r : TrustRoot} :
    ReportedApproval call result r ↔ r ∈ a.approvalRoots := by
  have hconf : ∀ r ∈ a.approvalRoots, r ∈ call.trustPolicy.roots.val := by
    intro r hr
    cases hreq : a.statement.predicate.approval.required with
    | true => exact (h.approval hreq).roots.configured r hr
    | false =>
      rw [h.no_approval hreq] at hr
      cases hr
  unfold ReportedApproval
  rw [h.approvals_reported, mem_sortedStr, List.mem_map]
  constructor
  · rintro ⟨hr, r', hr', hid⟩
    rwa [call.trustPolicy.root_eq_of_id hr (hconf r' hr') (Subtype.ext hid.symm)]
  · exact fun hr => ⟨hconf r hr, r, hr, rfl⟩

/-- An eligible issuer that clashes with a counted approval was skipped by the de-duplication, in
favour of a counted issuer with its key or its principal. -/
theorem exists_counted_of_clash {a : Authorization} (h : Authorized P call a)
    (hreq : a.statement.predicate.approval.required = true) {i r : TrustRoot}
    (hi : EligibleIssuer P call a i) (hr : r ∈ a.approvalRoots)
    (hclash : i.principalId = r.principalId ∨ i.publicKey.bytes = r.publicKey.bytes) :
    i ∉ a.issuerRoots ∧ ∃ i' ∈ a.issuerRoots,
      trustRootFingerprint P i' = trustRootFingerprint P i ∨ i'.principalId = i.principalId := by
  have happ := h.approval hreq
  refine ⟨fun hmem => ?_, ?_⟩
  · have hne := happ.not_issuer i hmem r hr
    rcases hclash with hc | hc
    · exact hne.1 hc
    · exact hne.2 hc
  · refine exists_kept_of_rootQualifies h.issuers_selected
      (mem_cryptographicallyVerifiedRoots.2 ⟨hi.configured, hi.signed⟩) ?_
    exact rootQualifies_of_qualifiedRoot hi.qualified h.representable (by simp)

/-- For every accepted certificate with a required approval, the duties are separate exactly when
no eligible issuer has an alias that hides it from the overlap test. -/
theorem verifyActionCertificate_separation_iff {ledger ledger' : InMemoryReplayLedger}
    {result : ActionCertificateVerificationResult}
    (h : verifyActionCertificate P call ledger = (.ok result, ledger'))
    (haccept : result.status = .accept) :
    ∃ a, authorize P call = .ok a ∧ (a.statement.predicate.approval.required = true →
      (SeparationOfDuties P call a result ↔ ¬ AliasedIssuer P call a)) := by
  obtain ⟨a, ha, haccepted⟩ := accepted_of_accept h haccept
  refine ⟨a, ha, fun hreq => ⟨?_, ?_⟩⟩
  · rintro hsep ⟨i, i', hi, -, -, r, hr, halias⟩
    have hr' := (selectedApproval_iff (haccepted.approval hreq)).1 hr
    obtain ⟨hprincipal, hkey⟩ := hsep i hi r ((reportedApproval_iff haccepted).2 hr')
    rcases halias with ⟨-, hk⟩ | ⟨-, hp⟩
    · exact hkey hk
    · exact hprincipal hp
  · intro hnone i hi r hr
    by_contra hclash
    have hclash : i.principalId = r.principalId ∨ i.publicKey.bytes = r.publicKey.bytes := by
      tauto
    have hr' := (reportedApproval_iff haccepted).1 hr
    have happ := haccepted.approval hreq
    obtain ⟨hskipped, i', hi', hshare⟩ :=
      exists_counted_of_clash haccepted.toAuthorized hreq hi hr' hclash
    have hne : i ≠ i' := fun heq => hskipped (heq ▸ hi')
    have helig : EligibleIssuer P call a i' :=
      ⟨haccepted.issuers.configured i' hi', haccepted.issuers.signed i' hi',
        haccepted.issuers.qualified i' hi'⟩
    refine hnone ⟨i, i', hi, helig, hne, r, (selectedApproval_iff happ).2 hr', ?_⟩
    -- the counted alias shares with `i` the one thing that the approval does not
    rcases hclash with hp | hk
    · rcases hshare with hf | hp'
      · exact .inr ⟨hf.symm, hp⟩
      · exact absurd (hp'.trans hp) (happ.not_issuer i' hi' r hr').1
    · rcases hshare with hf | hp'
      · exact absurd (hf.trans (congrArg (sha256Bytes P) hk))
          (happ.not_issuer_fingerprint i' hi' r hr')
      · exact .inl ⟨hp'.symm, hk⟩

end Separation

namespace Sample

/-- A second issuer root of the same principal, with the approver's key. -/
def aliasRoot : TrustRoot where
  toTrustRootFields := rootFields (ident "z-issuer") (ident "issuer") .actionIssuer
    (.ofBytes approverKey (by decide +kernel)) "runtime" .actionCertificate
  valid := by decide +kernel

def aliasedPolicy : TrustPolicy where
  toTrustPolicyFields := policyFields ⟨[issuerRoot, approverRoot, aliasRoot], by decide⟩
  valid := by decide +kernel

set_option maxRecDepth 100000 in
theorem selects_aliasedPolicy : Selects aliasedPolicy [issuerRoot, approverRoot, aliasRoot] where
  verifies := by decide
  issuers := by decide
  approvers := by decide
  thresholds := ⟨rfl, rfl⟩
  allowed := by decide
  timely := by decide

theorem eligible_aliasRoot :
    EligibleIssuer platform (call aliasedPolicy) authorization aliasRoot where
  configured := by
    change aliasRoot ∈ [issuerRoot, approverRoot, aliasRoot]
    simp
  signed := ⟨.unnamed approverSignature, by
    change _ ∈ [issuerSignature, approverSignature].map DsseSignature.unnamed
    simp, by decide⟩
  qualified := by
    have hqualifies : rootQualifies .actionIssuer statement.predicate aliasedPolicy (minute 30) none
        aliasRoot = .ok true := by decide
    exact (qualifiedRoot_of_rootQualifies hqualifies).1

/-- The duties are not separate: the approver's key is also an eligible issuer's. -/
theorem not_separate :
    ¬ SeparationOfDuties platform (call aliasedPolicy) authorization acceptedResult := by
  intro h
  have hreported : ReportedApproval (call aliasedPolicy) acceptedResult approverRoot := by
    refine ⟨?_, by decide⟩
    change approverRoot ∈ [issuerRoot, approverRoot, aliasRoot]
    simp
  exact (h aliasRoot eligible_aliasRoot approverRoot hreported).2 rfl

end Sample

/-- A certificate is accepted although an eligible issuer of it holds the approver's key. -/
theorem sample_separation_violated : ∃ ledger',
    verifyActionCertificate Sample.platform (Sample.call Sample.aliasedPolicy) Sample.ledger =
        (.ok Sample.acceptedResult, ledger') ∧
      Sample.acceptedResult.status = .accept ∧
      authorize Sample.platform (Sample.call Sample.aliasedPolicy) = .ok Sample.authorization ∧
      Sample.authorization.statement.predicate.approval.required = true ∧
      ¬ SeparationOfDuties Sample.platform (Sample.call Sample.aliasedPolicy) Sample.authorization
        Sample.acceptedResult := by
  obtain ⟨ledger', h⟩ := Sample.selects_aliasedPolicy.accepts
  exact ⟨ledger', h, rfl, Sample.selects_aliasedPolicy.authorize, rfl, Sample.not_separate⟩

/-- Under the policy without the alias the duties are separate exactly as stated. -/
theorem sample_separation_iff : ∃ a,
    authorize Sample.platform (Sample.call Sample.policy) = .ok a ∧
      (a.statement.predicate.approval.required = true →
        (SeparationOfDuties Sample.platform (Sample.call Sample.policy) a Sample.acceptedResult ↔
          ¬ AliasedIssuer Sample.platform (Sample.call Sample.policy) a)) := by
  obtain ⟨ledger', h⟩ := Sample.selects_policy.accepts
  exact verifyActionCertificate_separation_iff h rfl

end ProofFlow
