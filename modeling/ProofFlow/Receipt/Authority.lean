import ProofFlow.Receipt.Accept

/-!
# The authority behind a handed-over certificate

`_authority_roots` qualifies the reported issuers and approvers of a certificate once more, with
code of its own.  This file says when it finds them in order (`Requalified`), and that whatever
`verify_action_certificate` accepts is in order at the time of its acceptance.
-/

namespace ProofFlow

open Kit

/-! ## Roots found by their ids -/

section Ids

variable {roots found : List TrustRoot}

/-- Roots with unique ids are found under their ids. -/
theorem mapM_rootById (hid : ∀ a ∈ roots, ∀ b ∈ roots, a.rootId = b.rootId → a = b)
    (hsub : ∀ r ∈ found, r ∈ roots) :
    (found.map fun r => r.rootId.val).mapM (rootById roots) = some found := by
  induction found with
  | nil => rfl
  | cons r found ih =>
    obtain ⟨hr, hsub⟩ := List.forall_mem_cons.1 hsub
    have hfound : rootById roots r.rootId.val = some r := by
      cases hfind : rootById roots r.rootId.val with
      | none =>
        have hnone := List.find?_eq_none.1 hfind r hr
        simp at hnone
      | some r' =>
        obtain ⟨hr', heq⟩ := rootById_spec hfind
        rw [hid r' hr' r hr (Subtype.ext heq)]
    simp [List.mapM_cons, hfound, ih hsub]

/-- The reported order is that of the ids. -/
theorem map_rootId_insertionSort (l : List TrustRoot) :
    (l.insertionSort fun a b => a.rootId.val ≤ b.rootId.val).map (fun r => r.rootId.val) =
      sortedStr (l.map fun r => r.rootId.val) :=
  List.map_insertionSort _ _ _ _ fun _ _ _ _ => Iff.rfl

end Ids

/-! ## Requalification -/

section Requalified

variable {P : Platform} {policy : TrustPolicy} {predicate : ActionCertificatePredicate}
  {purpose : TrustPurpose} {verificationAt : UtcTime} {approvers : Option (List Str)}

/-- Enough roots, distinct in key and in principal, meet a threshold however they are counted. -/
theorem not_tooFewDistinct {threshold : ℕ} {roots : List TrustRoot}
    (h : Distinct (trustRootFingerprint P) (fun r => r.principalId) roots)
    (hlen : threshold ≤ roots.length) : ¬ tooFewDistinct P threshold roots := by
  unfold tooFewDistinct
  rw [h.nodup_owners.dedup, h.nodup_keys.dedup, List.length_map, List.length_map]
  omega

/-- `_authority_roots` does not reject a root that `_qualifying_roots` would keep. -/
theorem authorityRootRejected_eq_false {r : TrustRoot}
    (hq : QualifiedRoot purpose predicate policy verificationAt r)
    (hrep : verificationAt.Representable policy.skew)
    (happ : ∀ names ∈ approvers, r.principalId.val ∈ names) :
    authorityRootRejected purpose predicate policy verificationAt approvers r = .ok false := by
  classical
  unfold authorityRootRejected
  rw [if_neg, trustRootIsCurrent_eq r hrep, ok_bind, decide_eq_true hq.current]
  · rfl
  · push Not
    exact ⟨hq.purpose_eq, hq.tenant_eq, hq.audience_mem, hq.predicateType_mem, hq.principal_allowed,
      happ⟩

/-- When the block on the approval roots goes on. -/
theorem checkApprovalRoots_eq_ok {roots : List TrustRoot}
    (hrequired : predicate.approval.required = true →
      (∀ r ∈ roots, authorityRootRejected .humanApproval predicate policy verificationAt
        (some predicate.approval.approverPrincipals.val) r = .ok false) ∧
      policy.humanApprovalThreshold.val ≤ roots.length ∧
      ¬ tooFewDistinct P policy.humanApprovalThreshold.val roots)
    (hnone : predicate.approval.required = false → roots = []) :
    checkApprovalRoots P policy predicate verificationAt roots = .ok () := by
  unfold checkApprovalRoots
  cases hreq : predicate.approval.required with
  | true =>
    obtain ⟨hall, hlen, hdistinct⟩ := hrequired hreq
    rw [if_pos rfl]
    simp only [bind_eq_ok, Flow.returnIf_eq_ok, Flow.raising_eq_ok, not_lt]
    exact ⟨(), hlen, false, anyM_eq_false.2 hall, (), by simp, hdistinct⟩
  | false =>
    rw [if_neg (by simp), Flow.returnIf_eq_ok]
    simpa using hnone hreq

/-- The reported roots of a certificate are in order at a time: every condition of
`_authority_roots` but the last, which is about who approves what. -/
structure Requalified (P : Platform) (policy : TrustPolicy)
    (result : ActionCertificateVerificationResult) (statement : ActionCertificateStatement)
    (envelopeBytes : Bytes) (verificationAt : UtcTime) (issuers approvals : List TrustRoot) :
    Prop where
  issuers_named : issuers.map (fun r => r.rootId.val) = result.verifiedActionIssuerRoots.val
  approvals_named : approvals.map (fun r => r.rootId.val) = result.verifiedHumanApprovalRoots.val
  nodup : (issuers ++ approvals).Nodup
  issuers_ne_nil : issuers ≠ []
  signed : ∃ envelope,
    parseJsonModel P Decode.dsseEnvelope envelopeBytes "accepted ActionCertificate DSSE envelope" =
      .ok envelope ∧
    ∀ r ∈ issuers ++ approvals, r ∈ cryptographicallyVerifiedRoots P envelope
      envelope.payload.bytes policy.roots.val
  issuers_entitled : ∀ r ∈ issuers,
    authorityRootRejected .actionIssuer statement.predicate policy verificationAt none r = .ok false
  issuers_distinct : ¬ tooFewDistinct P policy.actionIssuerThreshold.val issuers
  approvals_checked : checkApprovalRoots P policy statement.predicate verificationAt approvals =
    .ok ()

namespace Requalified

variable {result : ActionCertificateVerificationResult} {statement : ActionCertificateStatement}
  {envelopeBytes : Bytes} {issuers approvals : List TrustRoot}

theorem configured (h : Requalified P policy result statement envelopeBytes verificationAt issuers
    approvals) : ∀ r ∈ issuers ++ approvals, r ∈ policy.roots.val := by
  obtain ⟨envelope, -, hverified⟩ := h.signed
  exact fun r hr => (mem_cryptographicallyVerifiedRoots.1 (hverified r hr)).1

/-- Roots in order are returned, unless someone approves their own action. -/
theorem authorityRoots_eq (h : Requalified P policy result statement envelopeBytes verificationAt
    issuers approvals) :
    authorityRoots P policy result statement envelopeBytes verificationAt =
      .ok (if selfApproval P statement.predicate issuers approvals then none
        else some (issuers ++ approvals)) := by
  obtain ⟨envelope, hparse, hverified⟩ := h.signed
  have hconf := h.configured
  have hunique : ∀ a ∈ policy.roots.val, ∀ b ∈ policy.roots.val, a.rootId = b.rootId → a = b :=
    fun a ha b hb => policy.root_eq_of_id ha hb
  have hids : (issuers ++ approvals).map (fun r => r.rootId.val) =
      result.verifiedActionIssuerRoots.val ++ result.verifiedHumanApprovalRoots.val := by
    rw [List.map_append, h.issuers_named, h.approvals_named]
  have hnodup : (result.verifiedActionIssuerRoots.val ++
      result.verifiedHumanApprovalRoots.val).Nodup := by
    rw [← hids]
    refine h.nodup.map_on fun a ha b hb heq => ?_
    exact hunique a (hconf a ha) b (hconf b hb) (Subtype.ext heq)
  have hne : result.verifiedActionIssuerRoots.val ≠ [] := by
    rw [← h.issuers_named]
    simpa using h.issuers_ne_nil
  have hissuers : result.verifiedActionIssuerRoots.val.mapM (rootById policy.roots.val) =
      some issuers := by
    rw [← h.issuers_named]
    exact mapM_rootById hunique fun r hr => hconf r (List.mem_append_left _ hr)
  have happrovals : result.verifiedHumanApprovalRoots.val.mapM (rootById policy.roots.val) =
      some approvals := by
    rw [← h.approvals_named]
    exact mapM_rootById hunique fun r hr => hconf r (List.mem_append_right _ hr)
  have hopen : openEnvelope P envelopeBytes "accepted ActionCertificate DSSE envelope"
      "accepted ActionCertificate payload" = .ok (envelope, envelope.payload.bytes) := by
    simp [openEnvelope, hparse, Base64Text.decode_eq, ok_bind, pure, Except.pure]
  have hsub : result.verifiedActionIssuerRoots.val ++ result.verifiedHumanApprovalRoots.val ⊆
      (cryptographicallyVerifiedRoots P envelope envelope.payload.bytes policy.roots.val).map
        fun r => r.rootId.val := by
    rw [← hids]
    exact List.map_subset _ hverified
  have hentitled := anyM_eq_false.2 h.issuers_entitled
  unfold authorityRoots
  simp only [Flow.returnIf, Flow.orReturn, Flow.tryElse, Flow.raising, hnodup, hne, hissuers,
    happrovals, hopen, hsub, hentitled, h.issuers_distinct, h.approvals_checked, ok_bind,
    not_true_eq_false, or_self, Bool.false_eq_true, if_false]
  by_cases hself : selfApproval P statement.predicate issuers approvals
  · rw [if_pos hself, if_pos hself]
    rfl
  · rw [if_neg hself, if_neg hself]
    rfl

end Requalified

end Requalified

/-! ## Accepted certificates -/

section Accepted

variable {P : Platform} {call : CertificateCall} {ledger ledger' : InMemoryReplayLedger}
  {result : ActionCertificateVerificationResult} {a : Authorization}

/-- The roots in the order in which a result names them. -/
def inIdOrder (roots : List TrustRoot) : List TrustRoot :=
  roots.insertionSort fun a b => a.rootId.val ≤ b.rootId.val

theorem inIdOrder_perm (roots : List TrustRoot) : (inIdOrder roots).Perm roots :=
  List.perm_insertionSort _ _

@[simp] theorem mem_inIdOrder {roots : List TrustRoot} {r : TrustRoot} :
    r ∈ inIdOrder roots ↔ r ∈ roots :=
  (inIdOrder_perm roots).mem_iff

theorem selfApproval_inIdOrder {predicate : ActionCertificatePredicate}
    {issuers approvals : List TrustRoot} :
    selfApproval P predicate (inIdOrder issuers) (inIdOrder approvals) ↔
      selfApproval P predicate issuers approvals := by
  simp only [selfApproval, mem_inIdOrder]

/-- Selected roots stay distinct and enough in any order. -/
theorem SelectedFrom.not_tooFewDistinct {purpose : TrustPurpose}
    {predicate : ActionCertificatePredicate} {policy : TrustPolicy} {now : UtcTime}
    {approvers : Option (List Str)} {roots kept : List TrustRoot} {threshold : ℕ}
    (h : SelectedFrom P purpose predicate policy now approvers roots kept)
    (hlen : threshold ≤ kept.length) : ¬ tooFewDistinct P threshold (inIdOrder kept) := by
  refine ProofFlow.not_tooFewDistinct (h.distinct.perm (inIdOrder_perm kept)) ?_
  rw [(inIdOrder_perm kept).length_eq]
  exact hlen

/-- The approval roots of an accepted certificate pass the block on them. -/
theorem Authorized.checkApprovalRoots (h : Authorized P call a) :
    checkApprovalRoots P call.trustPolicy a.statement.predicate a.now (inIdOrder a.approvalRoots) =
      .ok () := by
  refine checkApprovalRoots_eq_ok (fun hreq => ?_) fun hreq => ?_
  · have happ := h.approval hreq
    refine ⟨fun r hr => ?_, ?_, ?_⟩
    · rw [mem_inIdOrder] at hr
      refine authorityRootRejected_eq_false (happ.roots.qualified r hr) h.representable ?_
      rintro names ⟨⟩
      exact happ.named r hr
    · rw [(inIdOrder_perm _).length_eq]
      exact happ.roots.threshold_le
    · exact (qualifyingRoots_spec happ.selected).not_tooFewDistinct happ.roots.threshold_le
  · rw [h.no_approval hreq]
    rfl

/-- Nobody approves their own action in an accepted certificate. -/
theorem Authorized.not_selfApproval (h : Authorized P call a) :
    ¬ selfApproval P a.statement.predicate a.issuerRoots a.approvalRoots := by
  unfold selfApproval
  cases hreq : a.statement.predicate.approval.required with
  | true =>
    have happ := h.approval hreq
    rintro (⟨r, hr, heq⟩ | ⟨r, hr, heq⟩ | ⟨i, hi, r, hr, heq⟩ | ⟨i, hi, r, hr, heq⟩)
    · exact happ.not_human r hr heq
    · exact happ.not_workload r hr heq
    · exact (happ.not_issuer i hi r hr).1 heq
    · exact happ.not_issuer_fingerprint i hi r hr heq
  | false =>
    rw [h.no_approval hreq]
    simp

/-- Issuers and approvers have different purposes, and each list has its roots once. -/
theorem Authorized.nodup_roots (h : Authorized P call a) :
    (inIdOrder a.issuerRoots ++ inIdOrder a.approvalRoots).Nodup := by
  have hissuers : a.issuerRoots.Nodup := (qualifyingRoots_spec h.issuers_selected).distinct.nodup
  refine ((inIdOrder_perm _).append (inIdOrder_perm _)).nodup_iff.2 ?_
  cases hreq : a.statement.predicate.approval.required with
  | true =>
    have happ := h.approval hreq
    refine hissuers.append (qualifyingRoots_spec happ.selected).distinct.nodup ?_
    intro r hi hr
    have hpurpose := (h.issuers.qualified r hi).purpose_eq
    rw [(happ.roots.qualified r hr).purpose_eq] at hpurpose
    cases hpurpose
  | false =>
    rw [h.no_approval hreq, List.append_nil]
    exact hissuers

/-- The roots of an accepted certificate are in order for the receipt verifier. -/
theorem Accepted.requalified (h : Accepted P call ledger ledger' result a) :
    Requalified P call.trustPolicy result a.statement call.envelopeBytes a.now
      (inIdOrder a.issuerRoots) (inIdOrder a.approvalRoots) := by
  have hverified : ∀ r ∈ a.issuerRoots ++ a.approvalRoots, r ∈ cryptographicallyVerifiedRoots P
      a.envelope a.envelope.payload.bytes call.trustPolicy.roots.val := by
    rw [← h.payload_eq]
    intro r hr
    rcases List.mem_append.1 hr with hr | hr
    · exact ((qualifyingRoots_spec h.issuers_selected).sound r hr).1
    · cases hreq : a.statement.predicate.approval.required with
      | true => exact ((qualifyingRoots_spec (h.approval hreq).selected).sound r hr).1
      | false =>
        rw [h.no_approval hreq] at hr
        cases hr
  have hpositive := call.trustPolicy.actionIssuerThreshold.property.1
  have hlen := h.issuers.threshold_le
  refine {
    issuers_named := (map_rootId_insertionSort _).trans h.issuers_reported.symm
    approvals_named := (map_rootId_insertionSort _).trans h.approvals_reported.symm
    nodup := h.nodup_roots
    issuers_ne_nil := fun hnil => ?_
    signed := ⟨a.envelope, parseJsonModel_relabel h.envelope_parsed _, fun r hr => ?_⟩
    issuers_entitled := fun r hr => ?_
    issuers_distinct := (qualifyingRoots_spec h.issuers_selected).not_tooFewDistinct hlen
    approvals_checked := h.checkApprovalRoots }
  · have hzero := congrArg List.length hnil
    rw [(inIdOrder_perm _).length_eq, List.length_nil] at hzero
    omega
  · exact hverified r (((inIdOrder_perm _).append (inIdOrder_perm _)).subset hr)
  · refine authorityRootRejected_eq_false ?_ h.representable (by simp)
    exact h.issuers.qualified r (mem_inIdOrder.1 hr)

end Accepted

/-! ## The receipt verifier on an accepted certificate -/

section Receipt

variable {P : Platform} {call : ReceiptCall}

/-- The call did not end with `ACTION_CERTIFICATE_AUTHORITY_UNKNOWN`. -/
def AuthorityKnown (out : ReceiptOutcome) : Prop :=
  ∀ r, out = .ok r → .actionCertificateAuthorityUnknown ∉ r.reasonCodes.val

theorem authorityKnown_result {status : VerificationStatus}
    {reason : ExecutionReceiptVerificationReason} {envelopeSha256 : Sha256Text}
    {receiptId : Option Identifier} {payloadSha256 : Option Sha256Text} {observerRoots : List Str}
    {recorded : Bool} {statement : Option ExecutionReceiptStatement}
    (h : reason ≠ .actionCertificateAuthorityUnknown) :
    AuthorityKnown (receiptResult status [reason] envelopeSha256 receiptId payloadSha256
      observerRoots recorded statement) := by
  intro r hr
  rw [(receiptResult_eq_ok hr).2.1]
  simpa using h.symm

theorem authorityKnown_error (e : PyErr) : AuthorityKnown (.error e) := by
  intro r hr
  cases hr

/-- The certificate's context never reports an unknown authority. -/
theorem actionCertificateContext_reason {envelopeBytes : Bytes}
    {verification : ActionCertificateVerificationResult} {ref : ActionCertificateReference}
    {context : CertificateContext}
    (h : actionCertificateContext P envelopeBytes verification ref = .ok context) :
    context.2.1 ≠ some .actionCertificateAuthorityUnknown := by
  rcases Flow.finish_eq_ok.1 h with h | h
  · refine (?_ : Flow.Exits (fun out : Outcome PyErr CertificateContext => ∀ context,
      out = .ok context → context.2.1 ≠ some .actionCertificateAuthorityUnknown) _) _ h context rfl
    refine (Flow.exits_returnIf fun _ => by simp).bind fun _ _ => ?_
    refine (Flow.exits_tryElse (by simp) fun e _ _ => by simp).bind fun opened _ => ?_
    refine (Flow.exits_returnIf fun _ => by simp).bind fun _ _ => ?_
    refine (Flow.exits_returnIf fun _ => by simp).bind fun _ _ => ?_
    refine (Flow.exits_returnIf fun _ => by simp).bind fun _ _ => ?_
    refine (Flow.exits_returnIf fun _ => by simp).bind fun _ _ => ?_
    refine (Flow.exits_tryElse (by simp) fun e _ _ => by simp).bind fun statement _ => ?_
    exact (Flow.exits_returnIf fun _ => by simp).bind fun _ _ => Flow.exits_ok _
  · simp only [bind_eq_ok, Flow.returnIf_eq_ok, Flow.tryElse_eq_ok] at h
    obtain ⟨_, -, _, -, _, -, _, -, _, -, _, -, statement, -, _, -, h⟩ := h
    obtain rfl := Except.ok.inj (Except.ok.inj h)
    simp

/-- Where `_authority_roots` finds the roots of the handed-over certificate in order, whatever the
receipt says beside the reference, the verifier knows the certificate's authority. -/
theorem exits_examine_authorityKnown {action : ActionCertificateStatement}
    {authority : List TrustRoot} (hread : ∀ envelope statement,
      parseJsonModel P Decode.dsseEnvelope call.actionCertificateEnvelopeBytes
        "ActionCertificate DSSE envelope" = .ok envelope →
      parseJsonModel P (Decode.actionCertificateStatement P) envelope.payload.bytes
        "accepted ActionCertificate payload" = .ok statement → statement = action)
    (hauthority : authorityRoots P call.trustPolicy call.actionCertificateVerification action
      call.actionCertificateEnvelopeBytes call.expectedBinding.certificateRef.verificationAt =
        .ok (some authority)) :
    Flow.Exits AuthorityKnown (examine P call) := by
  have known {status : VerificationStatus} {reason : ExecutionReceiptVerificationReason}
      {envelopeSha256 : Sha256Text} {receiptId : Option Identifier}
      {payloadSha256 : Option Sha256Text} {observerRoots : List Str}
      {statement : Option ExecutionReceiptStatement}
      (h : reason ≠ .actionCertificateAuthorityUnknown) :
      AuthorityKnown (receiptResult status [reason] envelopeSha256 receiptId payloadSha256
        observerRoots false statement) :=
    authorityKnown_result h
  unfold examine
  refine (Flow.exits_raising fun e _ => authorityKnown_error e).bind fun now _ => ?_
  refine (Flow.exits_returnIf fun _ => known (by simp)).bind fun _ _ => ?_
  refine (Flow.exits_tryElse (known (by simp)) fun e _ _ => authorityKnown_error e).bind
    fun opened _ => ?_
  refine (Flow.exits_returnIf fun _ => known (by simp)).bind fun _ _ => ?_
  refine (Flow.exits_returnIf fun _ => known (by simp)).bind fun _ _ => ?_
  refine (Flow.exits_tryElse (known (by simp)) fun e _ _ => authorityKnown_error e).bind
    fun statement _ => ?_
  refine (Flow.exits_raising fun e _ => authorityKnown_error e).bind fun latest _ => ?_
  refine (Flow.exits_returnIf fun _ => known (by simp)).bind fun _ _ => ?_
  refine (Flow.exits_returnIf fun _ => known (by simp)).bind fun _ _ => ?_
  refine (Flow.exits_raising fun e _ => authorityKnown_error e).bind fun binding hbinding => ?_
  refine (Flow.exits_returnIf fun _ => known (by simp)).bind fun _ hequal => ?_
  refine (Flow.exits_raising fun e _ => authorityKnown_error e).bind fun context hcontext => ?_
  refine (Flow.exits_returnIf fun _ => ?_).bind fun _ haccept => ?_
  · have hreason := actionCertificateContext_reason (Flow.raising_eq_ok.1 hcontext)
    split
    · next reason heq =>
      exact known fun hunknown => hreason (by rw [heq, hunknown])
    · exact known (by simp)
  refine (Flow.exits_orReturn (known (by simp))).bind fun action' haction => ?_
  refine (Flow.exits_returnIf fun _ => known (by simp)).bind fun _ _ => ?_
  refine (Flow.exits_raising fun e _ => authorityKnown_error e).bind fun outside _ => ?_
  refine (Flow.exits_returnIf fun _ => known (by simp)).bind fun _ _ => ?_
  refine (Flow.exits_returnIf fun _ => known (by simp)).bind fun _ _ => ?_
  refine (Flow.exits_raising fun e _ => authorityKnown_error e).bind fun authority? hcall => ?_
  -- the certificate and the time are the ones that the authority is known for
  have hfound : authority? = some authority := by
    obtain ⟨status, reason, action?⟩ := context
    obtain rfl : status = .accept := not_not.1 (Flow.returnIf_eq_ok.1 haccept)
    obtain rfl : action? = some action' := Flow.orReturn_eq_ok.1 haction
    have hhandoff := certificateHandoff_of_context (Flow.raising_eq_ok.1 hcontext)
    obtain ⟨envelope, hparse, -, hstatement⟩ := hhandoff.payload
    obtain rfl := hread envelope action' hparse hstatement
    obtain ⟨_, hfields⟩ := construct_eq_ok.1 (Flow.raising_eq_ok.1 hbinding)
    obtain rfl : binding = call.expectedBinding := not_not.1 (Flow.returnIf_eq_ok.1 hequal)
    have href : statement.predicate.certificateRef = call.expectedBinding.certificateRef := by
      rw [← hfields]
      rfl
    have hcall := Flow.raising_eq_ok.1 hcall
    rw [href, hauthority] at hcall
    exact (Except.ok.inj hcall).symm
  subst hfound
  refine Flow.Exits.bind (fun out hout => ?_) fun authority _ => ?_
  · cases hout
  refine (Flow.exits_returnIf fun _ => known (by simp)).bind fun _ _ => ?_
  refine (Flow.exits_raising fun e _ => authorityKnown_error e).bind fun selection _ => ?_
  refine (Flow.exits_returnIf fun _ => known (by simp)).bind fun _ _ => ?_
  refine (Flow.exits_returnIf fun _ => known (by simp)).bind fun _ _ => ?_
  refine (Flow.exits_returnIf fun _ => known (by simp)).bind fun _ _ => ?_
  exact (Flow.exits_returnIf fun _ => known (by simp)).bind fun _ _ => Flow.exits_ok _

/-- The index's answer says nothing about the certificate. -/
theorem authorityKnown_of_examine {σ : Type} {receiptIndex : ReceiptIndex σ} {index : σ}
    (h : Flow.Exits AuthorityKnown (examine P call)) :
    AuthorityKnown (verifyExecutionReceipt P call receiptIndex index).1 := by
  unfold verifyExecutionReceipt
  cases he : examine P call with
  | error out => exact h out he
  | ok e =>
    show AuthorityKnown (e.conclude P call _)
    unfold Examined.conclude
    split <;> exact authorityKnown_result (by simp)

end Receipt

/-- The receipt is verified with what the certificate's verification left: the policy, the envelope,
the result, and a reference to the time of the verification. -/
structure HandsOver (certificate : CertificateCall) (result : ActionCertificateVerificationResult)
    (verificationAt : UtcTime) (receipt : ReceiptCall) : Prop where
  policy_eq : receipt.trustPolicy = certificate.trustPolicy
  envelope_eq : receipt.actionCertificateEnvelopeBytes = certificate.envelopeBytes
  result_eq : receipt.actionCertificateVerification = result
  time_eq : receipt.expectedBinding.certificateRef.verificationAt = verificationAt

/-- What a result names of an accepted certificate is found in order at the time of the acceptance,
issuers first, and no receipt is turned away for the certificate's authority. -/
theorem authorityRoots_of_accept {P : Platform} {call : CertificateCall}
    {ledger ledger' : InMemoryReplayLedger} {result : ActionCertificateVerificationResult}
    (h : verifyActionCertificate P call ledger = (.ok result, ledger'))
    (haccept : result.status = .accept) :
    ∃ a issuers approvals, authorize P call = .ok a ∧
      issuers.map (fun r => r.rootId.val) = result.verifiedActionIssuerRoots.val ∧
      approvals.map (fun r => r.rootId.val) = result.verifiedHumanApprovalRoots.val ∧
      (∀ r ∈ issuers ++ approvals, r ∈ call.trustPolicy.roots.val) ∧
      authorityRoots P call.trustPolicy result a.statement call.envelopeBytes a.now =
        .ok (some (issuers ++ approvals)) ∧
      ∀ (σ : Type) (receipt : ReceiptCall) (receiptIndex : ReceiptIndex σ) (index : σ),
        HandsOver call result a.now receipt →
          AuthorityKnown (verifyExecutionReceipt P receipt receiptIndex index).1 := by
  obtain ⟨a, ha, haccepted⟩ := accepted_of_accept h haccept
  have hrequalified := haccepted.requalified
  have hauthority := hrequalified.authorityRoots_eq
  rw [if_neg (selfApproval_inIdOrder.not.2 haccepted.not_selfApproval)] at hauthority
  refine ⟨a, inIdOrder a.issuerRoots, inIdOrder a.approvalRoots, ha, hrequalified.issuers_named,
    hrequalified.approvals_named, hrequalified.configured, hauthority, ?_⟩
  rintro σ receipt receiptIndex index ⟨hpolicy, henvelope, hresult, htime⟩
  rw [← hpolicy, ← henvelope, ← hresult, ← htime] at hauthority
  refine authorityKnown_of_examine (exits_examine_authorityKnown ?_ hauthority)
  intro envelope statement hparse hstatement
  rw [henvelope] at hparse
  have hparse := parseJsonModel_relabel hparse "DSSE envelope"
  obtain rfl := Except.ok.inj (haccepted.envelope_parsed.symm.trans hparse)
  have hstatement := parseJsonModel_relabel hstatement "signed payload"
  rw [← haccepted.payload_eq, haccepted.statement_parsed] at hstatement
  exact (Except.ok.inj hstatement).symm

/-- The sample certificate's roots are found in order. -/
theorem sample_authorityRoots : ∃ ledger',
    verifyActionCertificate Sample.platform (Sample.call Sample.policy) Sample.ledger =
        (.ok Sample.acceptedResult, ledger') ∧
      ∃ a issuers approvals,
        authorize Sample.platform (Sample.call Sample.policy) = .ok a ∧
        issuers.map (fun r => r.rootId.val) = Sample.acceptedResult.verifiedActionIssuerRoots.val ∧
        approvals.map (fun r => r.rootId.val) =
          Sample.acceptedResult.verifiedHumanApprovalRoots.val ∧
        (∀ r ∈ issuers ++ approvals, r ∈ Sample.policy.roots.val) ∧
        authorityRoots Sample.platform Sample.policy Sample.acceptedResult a.statement
          (Sample.call Sample.policy).envelopeBytes a.now = .ok (some (issuers ++ approvals)) ∧
        ∀ (σ : Type) (receipt : ReceiptCall) (receiptIndex : ReceiptIndex σ) (index : σ),
          HandsOver (Sample.call Sample.policy) Sample.acceptedResult a.now receipt →
            AuthorityKnown
              (verifyExecutionReceipt Sample.platform receipt receiptIndex index).1 := by
  obtain ⟨ledger', h⟩ := Sample.selects_policy.accepts
  exact ⟨ledger', h, authorityRoots_of_accept h rfl⟩

end ProofFlow
