import ProofFlow.Outcome.Reach
import ProofFlow.Receipt.Authority

/-!
# The authority of a certificate at the two handoffs

The receipt verifier and the outcome verifier qualify the reported roots of a certificate with two
pieces of code.  What the outcome verifier takes over satisfies every condition of the receipt
verifier but one: that no counted approver is the human or the workload of the certificate.
-/

namespace ProofFlow

open Kit

section Handoff

variable {P : Platform} {envelopeBytes : Bytes} {result : ActionCertificateVerificationResult}
  {expected : ActionCertificateReference} {policy : TrustPolicy} {now : UtcTime}
  {statement : ActionCertificateStatement} {issuerRoots approvalRoots : List TrustRoot}

/-- A root that the outcome verifier takes over is entitled and was current when the certificate was
verified, so the receipt verifier does not reject it. -/
theorem authorityRootRejected_of_handoff {purpose : TrustPurpose}
    {predicate : ActionCertificatePredicate} {verificationAt : UtcTime}
    {approvers : Option (List Str)} {r : TrustRoot}
    (h : handoffRootRejected purpose predicate policy verificationAt now approvers r = .ok false) :
    r.purpose = purpose ∧
      authorityRootRejected purpose predicate policy verificationAt approvers r = .ok false := by
  unfold handoffRootRejected at h
  split_ifs at h with hentitled
  · obtain ⟨hpurpose, htenant, haudience, htype, -, -, hprincipal, happrovers⟩ := hentitled
    obtain ⟨current, hcurrent, h⟩ := bind_eq_ok.1 h
    obtain rfl : current = true := by simpa [pure, Except.pure] using h
    obtain ⟨earlier, hearlier, hcurrent⟩ := bind_eq_ok.1 hcurrent
    have hbefore : earlier = true := by
      by_contra hnot
      rw [if_neg hnot] at hcurrent
      cases hcurrent
    refine ⟨hpurpose, ?_⟩
    unfold authorityRootRejected
    rw [if_neg, hearlier, ok_bind, hbefore]
    · rfl
    · push Not
      exact ⟨hpurpose, htenant, haudience, htype, hprincipal, happrovers⟩
  · cases h

/-- Fewer roots than a threshold are too few however they are counted. -/
theorem le_length_of_not_tooFewDistinct {threshold : ℕ} {roots : List TrustRoot}
    (h : ¬ tooFewDistinct P threshold roots) : threshold ≤ roots.length := by
  have hkeys : threshold ≤ (roots.map (trustRootFingerprint P)).dedup.length := by
    by_contra hfew
    exact h (.inr (not_le.1 hfew))
  have hle := (List.dedup_sublist (roots.map (trustRootFingerprint P))).length_le
  rw [List.length_map] at hle
  omega

/-- The roots of a certificate that was handed over are in order for the receipt verifier. -/
theorem CertificateHandedOver.requalified (h : CertificateHandedOver P envelopeBytes result expected
    policy now statement issuerRoots approvalRoots) :
    Requalified P policy result statement envelopeBytes expected.verificationAt issuerRoots
      approvalRoots := by
  obtain ⟨envelope, hparse, -, -, hissuers, happrovals⟩ := h.read.opened
  obtain ⟨hissuerIds, hissuerRoots⟩ := mapM_rootById_spec hissuers
  obtain ⟨happrovalIds, happrovalRoots⟩ := mapM_rootById_spec happrovals
  obtain ⟨-, -, -, hissuersDistinct, happrovalsDistinct, -⟩ := h.authorized
  have hissuersEntitled := fun r hr =>
    authorityRootRejected_of_handoff (anyM_eq_false.1 h.issuers r hr)
  have happroversEntitled := fun r hr =>
    authorityRootRejected_of_handoff (anyM_eq_false.1 h.approvers r hr)
  have hissuersNodup : issuerRoots.Nodup := by
    have hids := h.read.issuers_nodup
    rw [← hissuerIds] at hids
    exact hids.of_map
  have happrovalsNodup : approvalRoots.Nodup := by
    have hids := h.read.approvals_nodup
    rw [← happrovalIds] at hids
    exact hids.of_map
  refine {
    issuers_named := hissuerIds
    approvals_named := happrovalIds
    nodup := hissuersNodup.append happrovalsNodup fun r hi ha => ?_
    issuers_ne_nil := fun hnil => ?_
    signed := ⟨envelope, parseJsonModel_relabel hparse _, fun r hr => ?_⟩
    issuers_entitled := fun r hr => (hissuersEntitled r hr).2
    issuers_distinct := hissuersDistinct
    approvals_checked := checkApprovalRoots_eq_ok (fun hreq => ?_) fun hreq => ?_ }
  · have hpurpose := (hissuersEntitled r hi).1
    rw [(happroversEntitled r ha).1] at hpurpose
    cases hpurpose
  · rw [hnil, List.map_nil] at hissuerIds
    exact h.read.issuers_ne_nil hissuerIds.symm
  · rcases List.mem_append.1 hr with hr | hr
    · exact hissuerRoots r hr
    · exact happrovalRoots r hr
  · have hdistinct : ¬ tooFewDistinct P policy.humanApprovalThreshold.val approvalRoots :=
      fun hfew => happrovalsDistinct ⟨hreq, hfew⟩
    exact ⟨fun r hr => (happroversEntitled r hr).2, le_length_of_not_tooFewDistinct hdistinct,
      hdistinct⟩
  · have hids : result.verifiedHumanApprovalRoots.val = [] := by
      by_contra hne
      rw [h.read.approvals_iff.1 hne] at hreq
      cases hreq
    rw [hids] at happrovalIds
    exact List.map_eq_nil_iff.1 happrovalIds

/-- No configured root that the result names as an approval belongs to the certificate's human or
workload. -/
def ApproversIndependent (policy : TrustPolicy) (result : ActionCertificateVerificationResult)
    (predicate : ActionCertificatePredicate) : Prop :=
  ∀ r ∈ policy.roots.val, r.rootId.val ∈ result.verifiedHumanApprovalRoots.val →
    r.principalId ≠ predicate.humanPrincipal.principalId ∧
      r.principalId ≠ predicate.workloadPrincipal.principalId

/-- The outcome verifier has excluded every self-approval but the named principals' own. -/
theorem CertificateHandedOver.selfApproval_iff (h : CertificateHandedOver P envelopeBytes result
    expected policy now statement issuerRoots approvalRoots) :
    selfApproval P statement.predicate issuerRoots approvalRoots ↔
      ¬ ApproversIndependent policy result statement.predicate := by
  have hrequalified := h.requalified
  have hnamed : ∀ r ∈ approvalRoots, r ∈ policy.roots.val ∧
      r.rootId.val ∈ result.verifiedHumanApprovalRoots.val := by
    intro r hr
    refine ⟨hrequalified.configured r (List.mem_append_right _ hr), ?_⟩
    rw [← hrequalified.approvals_named]
    exact List.mem_map_of_mem hr
  obtain ⟨-, -, -, -, -, hoverlap⟩ := h.authorized
  constructor
  · rintro (⟨r, hr, heq⟩ | ⟨r, hr, heq⟩ | hprincipal | hkey) hindependent
    · exact (hindependent r (hnamed r hr).1 (hnamed r hr).2).1 heq
    · exact (hindependent r (hnamed r hr).1 (hnamed r hr).2).2 heq
    · exact hoverlap (.inl hprincipal)
    · exact hoverlap (.inr hkey)
  · intro hdependent
    by_contra hself
    refine hdependent fun r hr hid => ?_
    rw [← hrequalified.approvals_named] at hid
    obtain ⟨r', hr', heq⟩ := List.mem_map.1 hid
    obtain rfl := policy.root_eq_of_id (hnamed r' hr').1 hr (Subtype.ext heq)
    exact ⟨fun hhuman => hself (.inl ⟨r', hr', hhuman⟩),
      fun hworkload => hself (.inr (.inl ⟨r', hr', hworkload⟩))⟩

end Handoff

/-- The certificate in an envelope. -/
def EnvelopeStates (P : Platform) (envelopeBytes : Bytes) (statement : ActionCertificateStatement) :
    Prop :=
  ∃ envelope,
    parseJsonModel P Decode.dsseEnvelope envelopeBytes "external ActionCertificate envelope" =
      .ok envelope ∧
    parseJsonModel P (Decode.actionCertificateStatement P) envelope.payload.bytes
      "external ActionCertificate payload" = .ok statement

/-- What the outcome verifier takes over, the receipt verifier finds in order exactly when no
counted approver is the certificate's human or workload. -/
theorem authorityRoots_iff_of_handoff {P : Platform} {envelopeBytes : Bytes}
    {result : ActionCertificateVerificationResult} {expected : ActionCertificateReference}
    {policy : TrustPolicy} {now : UtcTime} {predicate : ActionCertificatePredicate}
    {reason : Option OutcomeClosureVerificationReason}
    (h : parseExternalActionCertificate P envelopeBytes result expected policy now =
      .ok (some predicate, reason)) :
    ∃ statement, EnvelopeStates P envelopeBytes statement ∧ statement.predicate = predicate ∧
      ((∃ roots, authorityRoots P policy result statement envelopeBytes expected.verificationAt =
          .ok (some roots)) ↔ ApproversIndependent policy result predicate) := by
  rcases parseExternalActionCertificate_cases h with heq | heq |
    ⟨statement, issuerRoots, approvalRoots, heq, hhanded⟩
  · cases heq
  · cases heq
  obtain ⟨rfl, rfl⟩ : predicate = statement.predicate ∧ reason = none := by simpa using heq
  obtain ⟨envelope, hparse, hstatement, -⟩ := hhanded.read.opened
  refine ⟨statement, ⟨envelope, hparse, hstatement⟩, rfl, ?_⟩
  rw [hhanded.requalified.authorityRoots_eq]
  by_cases hself : selfApproval P statement.predicate issuerRoots approvalRoots
  · rw [if_pos hself]
    exact iff_of_false (by simp) (hhanded.selfApproval_iff.1 hself)
  · rw [if_neg hself]
    refine iff_of_true ⟨_, rfl⟩ ?_
    by_contra hdependent
    exact hself (hhanded.selfApproval_iff.2 hdependent)

namespace Sample

/-! ## A certificate whose human approves it -/

def ownIssuerSignature : SignatureBytes :=
  signature 0xc13c9465fc32c2dd9cbf2624621cf03f041a46ed0dea76069f01676dc6fa3630
    0xe7ad3c6d27da232c732ef8e5dae0f49b6a7fd2f588c679d755abe6ffca5f3c07

def ownApproverSignature : SignatureBytes :=
  signature 0xa8e1e9b22e0fff107f50cf8e6bfeb73a96bca4bd33d494007b38479090dff039
    0xcad79989da15066a25dda110e440c1af8916ddf04d7b4ad3fc1b12138a4ddb03

def ownPayloadDigest : BitVec 256 :=
  0xc2624dc95f8768f05a73ed7f4624d26bda1fcb7be89e0b915a94ef94f4a4bfd1

def ownEnvelopeDigest : BitVec 256 :=
  0x8adc9b22f02e86a0d28830bce25268efa7d26f808e8e8d9ccadbfa9836f22fcd

def ownResultDigest : BitVec 256 :=
  0x06dcb9ef0e831e9ab4ba3b28849197ad12bab8d4bdb9921854a0eb45a9f54f43

/-- SHA-256 on the two keys, the approval scope and the three objects of this sample. -/
def ownDigests : List ((ℕ × Option UInt8) × BitVec 256) :=
  [((32, some 0x8a), 0x34750f98bd59fcfc946da45aaabe933be154a4b5094e1c4abf42866505f3c97e),
    ((32, some 0x81), 0x6a3803d5f059902a1c6dafbc9ba4729212f7caac08634cc3ae76b27529f03827),
    ((1520, some 0x7b), scopeDigest), ((2022, some 0x7b), ownPayloadDigest),
    ((2968, some 0x7b), ownEnvelopeDigest), ((340, some 0x7b), ownResultDigest)]

/-- A platform that knows the sample in which the human approves. -/
def ownPlatform : Platform :=
  { platform with
    sha256 := fun b =>
      ((ownDigests.find? fun d => d.1 = (b.length, b.head?)).map Prod.snd).getD 0
    ed25519Verify := fun key signature _ =>
      decide ((key, signature) = (issuerKey, ownIssuerSignature.val) ∨
        (key, signature) = (approverKey, ownApproverSignature.val)) }

theorem readsText_ownPlatform : ownPlatform.ReadsText := readsText_platform

theorem find_ownDigests : ∀ e ∈ ownDigests, ownDigests.find? (fun e' => e'.1 = e.1) = some e := by
  decide

theorem sha256Bytes_ownPlatform {b : Bytes} {n : ℕ} {x : Option UInt8} {d : BitVec 256}
    (hlen : b.length = n) (hhead : b.head? = x) (hmem : ((n, x), d) ∈ ownDigests) :
    sha256Bytes ownPlatform b = digest d := by
  have hd := find_ownDigests _ hmem
  have hsha : ownPlatform.sha256 b = d := by
    simp only [ownPlatform, hlen, hhead, hd, Option.map_some, Option.getD_some]
  exact Subtype.ext (congrArg (lit "sha256:" ++ hexdigest ·) hsha)

/-- The approval of the sample, to be given by its human. -/
def ownApproval : ApprovalBinding where
  required := true
  approvalId := some (ident "approval-1")
  scopeSha256 := some (digest scopeDigest)
  approverPrincipals := ⟨[lit "human"], by decide⟩
  expiresAt := some (.ofUtc (minute 120))
  valid := by decide +kernel

def ownPredicate : ActionCertificatePredicate where
  toActionCertificatePredicateFields :=
    { statement.predicate.toActionCertificatePredicateFields with approval := ownApproval }
  valid := by decide +kernel

def ownStatement : ActionCertificateStatement where
  toActionCertificateStatementFields :=
    { statement.toActionCertificateStatementFields with predicate := ownPredicate }
  valid := by decide +kernel

def ownPayload : Bytes := canonicalJson (.obj (statementMembers ownPlatform ownStatement))

set_option maxRecDepth 100000 in
theorem length_ownPayload : ownPayload.length = 2022 := by decide

def ownParts : EnvelopeParts where
  payload := ownPayload
  signatures := [ownIssuerSignature, ownApproverSignature]
  payload_length := by rw [length_ownPayload]; decide
  signatures_length := by decide

theorem length_ownParts : ownParts.bytes.length = 2968 := by
  have hparts := ownParts.length_bytes
  have hpayload : ownParts.payload.length = 2022 := length_ownPayload
  have hcount : ownParts.signatures.length = 2 := rfl
  omega

/-- The approval root of the human. -/
def humanRoot : TrustRoot where
  toTrustRootFields := rootFields (ident "b-human") (ident "human") .humanApproval
    approverRoot.publicKey "runtime" .actionCertificate
  valid := by decide +kernel

def ownPolicy : TrustPolicy where
  toTrustPolicyFields := { policyFields ⟨[issuerRoot, humanRoot], by decide⟩ with
    allowedApprovalPrincipals := ⟨[lit "human"], by decide⟩ }
  valid := by decide +kernel

def ownResult : ActionCertificateVerificationResult where
  toActionCertificateVerificationResultFields :=
    { acceptedResult.toActionCertificateVerificationResultFields with
      payloadSha256 := some (digest ownPayloadDigest)
      verifiedHumanApprovalRoots := ⟨[lit "b-human"], by decide⟩ }
  valid := by decide

def ownReference : ActionCertificateReference where
  certificateId := ident "cert-1"
  payloadSha256 := digest ownPayloadDigest
  envelopeSha256 := digest ownEnvelopeDigest
  verificationResultSha256 := digest ownResultDigest
  intentSha256 := digest scopeDigest
  verificationAt := minute 30
  reservedAt := minute 30
  valid := by decide +kernel

set_option maxRecDepth 100000 in
theorem recomputes_own : externalCertificateRecomputes ownPlatform ownParts.bytes ownPayload
    ownStatement ownResult ownReference := by
  have henvelope : sha256Bytes ownPlatform ownParts.bytes = digest ownEnvelopeDigest :=
    sha256Bytes_ownPlatform length_ownParts ownParts.head_bytes (by simp [ownDigests])
  have hpayload : sha256Bytes ownPlatform ownPayload = digest ownPayloadDigest :=
    sha256Bytes_ownPlatform length_ownPayload (head_canonicalJson _) (by simp [ownDigests])
  have hresult : actionCertificateVerificationSha256 ownPlatform ownResult =
      digest ownResultDigest :=
    sha256Bytes_ownPlatform (n := 340) (by decide) (head_canonicalJson _)
      (by simp [ownDigests])
  have hscope : approvalScopeSha256 ownPlatform ownStatement = digest scopeDigest :=
    sha256Bytes_ownPlatform (n := 1520) (by decide) (head_canonicalJson _)
      (by simp [ownDigests])
  unfold externalCertificateRecomputes
  rw [henvelope, hpayload, hresult, hscope]
  exact ⟨rfl, rfl, rfl, rfl, rfl, rfl, rfl⟩

set_option maxRecDepth 100000 in
theorem verified_ownParts : cryptographicallyVerifiedRoots ownPlatform ownParts.envelope ownPayload
    ownPolicy.roots.val = [issuerRoot, humanRoot] := by
  decide

theorem openEnvelope_ownParts (label payloadLabel : String) :
    openEnvelope ownPlatform ownParts.bytes label payloadLabel =
      .ok (ownParts.envelope, ownPayload) :=
  ownParts.openEnvelope_bytes readsText_ownPlatform (by decide) label payloadLabel

set_option maxRecDepth 100000 in
theorem parse_ownPayload (label : String) :
    parseJsonModel ownPlatform (Decode.actionCertificateStatement ownPlatform) ownPayload label =
      .ok ownStatement :=
  parseJsonModel_canonicalJson readsText_ownPlatform (by decide) (by decide)
    (by decide)

theorem certificateRead_own : CertificateRead ownPlatform ownParts.bytes ownResult ownReference
    ownPolicy ownStatement [issuerRoot] [humanRoot] where
  accepted := rfl
  reserved := rfl
  opened := by
    obtain ⟨hparse, hpayload⟩ := openEnvelope_eq_ok (openEnvelope_ownParts
      "external ActionCertificate envelope" "external ActionCertificate payload")
    refine ⟨ownParts.envelope, hparse, ?_, ?_, ?_, ?_⟩
    · rw [← hpayload]
      exact parse_ownPayload _
    · rw [← hpayload]
      exact recomputes_own
    · rw [← hpayload, verified_ownParts]
      decide
    · rw [← hpayload, verified_ownParts]
      decide
  issuers_ne_nil := by decide
  approvals_iff := by decide
  issuers_nodup := by decide
  approvals_nodup := by decide

set_option maxRecDepth 100000 in
theorem handedOver_own : CertificateHandedOver ownPlatform ownParts.bytes ownResult ownReference
    ownPolicy (minute 37) ownStatement [issuerRoot] [humanRoot] where
  read := certificateRead_own
  issuers := by decide
  approvers := by decide
  authorized := by decide

/-- The outcome verifier takes the certificate over. -/
theorem handoff_own : parseExternalActionCertificate ownPlatform ownParts.bytes ownResult
    ownReference ownPolicy (minute 37) = .ok (some ownPredicate, none) := by
  unfold parseExternalActionCertificate
  rw [Flow.finish_eq_ok]
  right
  simp only [bind_eq_ok, Flow.returnIf_eq_ok, Flow.raising_eq_ok, not_not,
    readExternalActionCertificate_eq_ok, Prod.exists]
  exact ⟨ownStatement, [issuerRoot], [humanRoot], certificateRead_own, false,
    handedOver_own.issuers, (), by decide, false, handedOver_own.approvers, (), by decide, (),
    handedOver_own.authorized, rfl⟩

end Sample

/-- At the sample whose human approves, the two handoffs disagree exactly as stated. -/
theorem sample_authorityRoots_iff : ∃ statement,
    EnvelopeStates Sample.ownPlatform Sample.ownParts.bytes statement ∧
      statement.predicate = Sample.ownPredicate ∧
      ((∃ roots, authorityRoots Sample.ownPlatform Sample.ownPolicy Sample.ownResult statement
          Sample.ownParts.bytes Sample.ownReference.verificationAt = .ok (some roots)) ↔
        ApproversIndependent Sample.ownPolicy Sample.ownResult Sample.ownPredicate) :=
  authorityRoots_iff_of_handoff Sample.handoff_own

/-- The outcome verifier takes over a certificate that its own human approved; the receipt verifier
finds no authority behind it. -/
theorem sample_handoff_without_authority :
    parseExternalActionCertificate Sample.ownPlatform Sample.ownParts.bytes Sample.ownResult
        Sample.ownReference Sample.ownPolicy (Sample.minute 37) =
      .ok (some Sample.ownPredicate, none) ∧
    EnvelopeStates Sample.ownPlatform Sample.ownParts.bytes Sample.ownStatement ∧
    authorityRoots Sample.ownPlatform Sample.ownPolicy Sample.ownResult Sample.ownStatement
      Sample.ownParts.bytes Sample.ownReference.verificationAt = .ok none := by
  obtain ⟨envelope, hparse, hstatement, -⟩ := Sample.certificateRead_own.opened
  refine ⟨Sample.handoff_own, ⟨envelope, hparse, hstatement⟩, ?_⟩
  rw [Sample.handedOver_own.requalified.authorityRoots_eq, if_pos]
  -- the counted approver is the certificate's human
  exact .inl ⟨Sample.humanRoot, by simp, rfl⟩

end ProofFlow
