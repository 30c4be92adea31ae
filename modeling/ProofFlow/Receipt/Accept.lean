import ProofFlow.Certificate.Accept
import ProofFlow.Receipt.Verify

/-!
# What an accepted receipt has passed

The inversion of `verify_execution_receipt` at its ACCEPT exits: the receipt is the expected one,
the certificate it refers to was accepted and is about this execution, the times are in order and
inside the certificate's window, and the reported observers are independent of the execution.
-/

namespace ProofFlow

open Kit

/-! ## The receipt's own order of events -/

theorem ActionCertificateReference.verificationAt_le (r : ActionCertificateReference) :
    r.verificationAt ≤ r.reservedAt :=
  not_lt.1 (raiseIf_eq_ok.1 r.valid)

theorem AttemptObservation.startedAt_le (a : AttemptObservation) : a.startedAt ≤ a.endedAt :=
  not_lt.1 (raiseIf_eq_ok.1 a.valid)

theorem ExecutionReceiptPredicate.endedAt_le (p : ExecutionReceiptPredicate) :
    p.attempt.endedAt ≤ p.issuedAt := by
  have h := p.valid
  simp only [ExecutionReceiptPredicateFields.validate, bind_eq_ok, raiseIf_eq_ok] at h
  obtain ⟨_, -, _, -, _, -, _, -, _, h, -⟩ := h
  exact not_lt.1 h

/-! ## The certificate -/

/-- The handed-over envelope and verification result are the ones the reference names, and they
were accepted. -/
structure CertificateHandoff (P : Platform) (envelopeBytes : Bytes)
    (verification : ActionCertificateVerificationResult) (ref : ActionCertificateReference)
    (action : ActionCertificateStatement) : Prop where
  envelope_sha256 : sha256Bytes P envelopeBytes = ref.envelopeSha256
  payload : ∃ envelope,
    parseJsonModel P Decode.dsseEnvelope envelopeBytes "ActionCertificate DSSE envelope" =
      .ok envelope ∧
    sha256Bytes P envelope.payload.bytes = ref.payloadSha256 ∧
    parseJsonModel P (Decode.actionCertificateStatement P) envelope.payload.bytes
      "accepted ActionCertificate payload" = .ok action
  verification_sha256 :
    actionCertificateVerificationSha256 P verification = ref.verificationResultSha256
  verification_id : verification.certificateId = some ref.certificateId.val
  verification_payload : verification.payloadSha256 = some ref.payloadSha256
  accepted : verification.status = .accept
  reserved : verification.reserved = true
  certificate_id : action.predicate.certificateId = ref.certificateId
  intent_sha256 : approvalScopeSha256 P action = ref.intentSha256

theorem certificateHandoff_of_context {P : Platform} {envelopeBytes : Bytes}
    {verification : ActionCertificateVerificationResult} {ref : ActionCertificateReference}
    {reason : Option ExecutionReceiptVerificationReason} {action : ActionCertificateStatement}
    (h : actionCertificateContext P envelopeBytes verification ref =
      .ok (.accept, reason, some action)) :
    CertificateHandoff P envelopeBytes verification ref action := by
  -- an early return never carries a statement
  have hend := Flow.eq_ok_of_finish h (by
    refine (Flow.exits_returnIf fun _ => by simp).bind fun _ _ => ?_
    refine (Flow.exits_tryElse (by simp) fun e _ _ => by simp).bind fun opened _ => ?_
    refine (Flow.exits_returnIf fun _ => by simp).bind fun _ _ => ?_
    refine (Flow.exits_returnIf fun _ => by simp).bind fun _ _ => ?_
    refine (Flow.exits_returnIf fun _ => by simp).bind fun _ _ => ?_
    refine (Flow.exits_returnIf fun _ => by simp).bind fun _ _ => ?_
    refine (Flow.exits_tryElse (by simp) fun e _ _ => by simp).bind fun statement _ => ?_
    exact (Flow.exits_returnIf fun _ => by simp).bind fun _ _ => Flow.exits_ok _)
  simp only [bind_eq_ok, Flow.returnIf_eq_ok, Flow.tryElse_eq_ok, not_not, not_or] at hend
  obtain ⟨_, -, ⟨envelope, payload⟩, hopen, _, -, _, hrecompute, _, -, _, ⟨haccept, hreserved⟩,
    statement, hstatement, _, ⟨hid, hintent⟩, hend⟩ := hend
  simp only [pure, Except.pure, Except.ok.injEq, Prod.mk.injEq, Option.some.injEq, true_and] at hend
  obtain ⟨-, rfl⟩ := hend
  obtain ⟨hparse, rfl⟩ := openEnvelope_eq_ok hopen
  obtain ⟨henvelope, hpayload, hverification, hresultId, hresultPayload⟩ := hrecompute
  exact {
    envelope_sha256 := henvelope
    payload := ⟨envelope, hparse, hpayload, hstatement⟩
    verification_sha256 := hverification
    verification_id := hresultId
    verification_payload := hresultPayload
    accepted := haccept
    reserved := by simpa using hreserved
    certificate_id := hid
    intent_sha256 := hintent }

/-- The time is in the certificate's window, widened by the skew. -/
def InCertificateWindow (action : ActionCertificatePredicate) (skew : ℕ) (t : UtcTime) : Prop :=
  action.notBefore.instant - skew ≤ t.instant ∧ t.instant < action.expiresAt.instant + skew

theorem inCertificateWindow_of_not_outside {predicate : ExecutionReceiptPredicate}
    {action : ActionCertificatePredicate} {skew : ℕ}
    (h : outsideCertificateWindow predicate action skew = .ok false) :
    InCertificateWindow action skew predicate.certificateRef.verificationAt ∧
      InCertificateWindow action skew predicate.certificateRef.reservedAt ∧
      InCertificateWindow action skew predicate.attempt.startedAt ∧
      InCertificateWindow action skew predicate.attempt.endedAt := by
  have early {t : UtcTime} (ht : (do
      let later ← t.add skew
      return decide (later.instant < action.notBefore.instant) : Except PyErr Bool) = .ok false) :
      action.notBefore.instant - skew ≤ t.instant := by
    obtain ⟨later, hl, ht⟩ := bind_eq_ok.1 ht
    have hl := UtcTime.add_eq_ok hl
    have ht := of_decide_eq_false (Except.ok.inj ht)
    omega
  have late {t : UtcTime} (ht : (do
      let earlier ← t.sub skew
      return decide (action.expiresAt.instant ≤ earlier.instant) : Except PyErr Bool) =
        .ok false) :
      t.instant < action.expiresAt.instant + skew := by
    obtain ⟨earlier, he, ht⟩ := bind_eq_ok.1 ht
    have he := UtcTime.sub_eq_ok he
    have ht := of_decide_eq_false (Except.ok.inj ht)
    omega
  have hall := anyM_eq_false.1 h
  simp only [List.mem_cons, List.not_mem_nil, or_false, forall_eq_or_imp, forall_eq, id] at hall
  obtain ⟨h₁, h₂, h₃, h₄, h₅, h₆⟩ := hall
  have hattempt := UtcTime.instant_le.2 predicate.attempt.startedAt_le
  have hstart := early h₅
  have hend := late h₆
  exact ⟨⟨early h₁, late h₂⟩, ⟨early h₃, late h₄⟩, ⟨hstart, by omega⟩, ⟨by omega, hend⟩⟩

/-- The roots that the handed-over result reports: configured, and verifying a signature over the
certificate. -/
structure AuthorityOf (P : Platform) (policy : TrustPolicy)
    (verification : ActionCertificateVerificationResult) (envelopeBytes : Bytes)
    (roots : List TrustRoot) : Prop where
  ids_eq : roots.map (fun r => r.rootId.val) =
    verification.verifiedActionIssuerRoots.val ++ verification.verifiedHumanApprovalRoots.val
  configured : ∀ r ∈ roots, r ∈ policy.roots.val
  signed : ∃ envelope,
    parseJsonModel P Decode.dsseEnvelope envelopeBytes "accepted ActionCertificate DSSE envelope" =
      .ok envelope ∧
    ∀ r ∈ roots, ∃ s ∈ envelope.signatures.val,
      signatureVerifies P (dssePae dssePayloadType envelope.payload.bytes) s r = true

theorem rootById_spec {roots : List TrustRoot} {id : Str} {r : TrustRoot}
    (h : rootById roots id = some r) : r ∈ roots ∧ r.rootId.val = id :=
  ⟨List.mem_of_find?_eq_some h, by simpa using List.find?_some h⟩

theorem mapM_rootById_spec {roots found : List TrustRoot} {ids : List Str}
    (h : ids.mapM (rootById roots) = some found) :
    found.map (fun r => r.rootId.val) = ids ∧ ∀ r ∈ found, r ∈ roots := by
  induction ids generalizing found with
  | nil =>
    obtain rfl : [] = found := by simpa using h
    simp
  | cons id ids ih =>
    rw [List.mapM_cons] at h
    simp only [Option.bind_eq_bind, Option.bind_eq_some_iff, Option.pure_def,
      Option.some.injEq] at h
    obtain ⟨r, hr, rest, hrest, rfl⟩ := h
    obtain ⟨hmem, hid⟩ := rootById_spec hr
    obtain ⟨hids, hconf⟩ := ih hrest
    exact ⟨by simp [hid, hids], List.forall_mem_cons.2 ⟨hmem, hconf⟩⟩

/-- The block on the approval roots leaves with `None` or an exception. -/
theorem exits_checkApprovalRoots {P : Platform} {policy : TrustPolicy}
    {predicate : ActionCertificatePredicate} {verificationAt : UtcTime} {roots : List TrustRoot}
    {Q : Outcome PyErr (Option (List TrustRoot)) → Prop} (hnone : Q (.ok none))
    (herror : ∀ e, Q (.error e)) :
    Flow.Exits Q (checkApprovalRoots P policy predicate verificationAt roots) := by
  unfold checkApprovalRoots
  split_ifs
  · refine (Flow.exits_returnIf fun _ => hnone).bind fun _ _ => ?_
    refine (Flow.exits_raising fun e _ => herror e).bind fun _ _ => ?_
    refine (Flow.exits_returnIf fun _ => hnone).bind fun _ _ => ?_
    exact Flow.exits_returnIf fun _ => hnone
  · exact Flow.exits_returnIf fun _ => hnone

/-- `_authority_roots` returns the reported roots, all of which signed the certificate. -/
theorem authorityOf_of_authorityRoots {P : Platform} {policy : TrustPolicy}
    {verification : ActionCertificateVerificationResult} {action : ActionCertificateStatement}
    {envelopeBytes : Bytes} {verificationAt : UtcTime} {roots : List TrustRoot}
    (h : authorityRoots P policy verification action envelopeBytes verificationAt =
      .ok (some roots)) :
    AuthorityOf P policy verification envelopeBytes roots := by
  have hend := Flow.eq_ok_of_finish h (by
    refine (Flow.exits_returnIf fun _ => by simp).bind fun _ _ => ?_
    refine (Flow.exits_orReturn (by simp)).bind fun _ _ => ?_
    refine (Flow.exits_orReturn (by simp)).bind fun _ _ => ?_
    refine (Flow.exits_tryElse (by simp) fun e _ _ => by simp).bind fun opened _ => ?_
    refine (Flow.exits_returnIf fun _ => by simp).bind fun _ _ => ?_
    refine (Flow.exits_raising fun e _ => by simp).bind fun _ _ => ?_
    refine (Flow.exits_returnIf fun _ => by simp).bind fun _ _ => ?_
    refine (Flow.exits_returnIf fun _ => by simp).bind fun _ _ => ?_
    refine (exits_checkApprovalRoots (by simp) (by simp)).bind fun _ _ => ?_
    exact (Flow.exits_returnIf fun _ => by simp).bind fun _ _ => Flow.exits_ok _)
  simp only [bind_eq_ok, Flow.returnIf_eq_ok, Flow.tryElse_eq_ok, Flow.orReturn_eq_ok,
    Flow.raising_eq_ok, not_not] at hend
  obtain ⟨_, -, issuers, hissuers, approvals, happrovals, ⟨envelope, payload⟩, hopen, _, hsub, _,
    -, _, -, _, -, _, -, _, -, hend⟩ := hend
  simp only [pure, Except.pure, Except.ok.injEq, Option.some.injEq] at hend
  subst hend
  obtain ⟨hids, hconf⟩ := mapM_rootById_spec hissuers
  obtain ⟨hids', hconf'⟩ := mapM_rootById_spec happrovals
  obtain ⟨hparse, rfl⟩ := openEnvelope_eq_ok hopen
  have hids'' : (issuers ++ approvals).map (fun r => r.rootId.val) =
      verification.verifiedActionIssuerRoots.val ++
        verification.verifiedHumanApprovalRoots.val := by
    rw [List.map_append, hids, hids']
  have hconf'' : ∀ r ∈ issuers ++ approvals, r ∈ policy.roots.val := fun r hr =>
    (List.mem_append.1 hr).elim (hconf r) (hconf' r)
  refine ⟨hids'', hconf'', envelope, hparse, fun r hr => ?_⟩
  have hr' : r.rootId.val ∈ (issuers ++ approvals).map fun r => r.rootId.val :=
    List.mem_map_of_mem hr
  rw [hids''] at hr'
  obtain ⟨v, hv, hid⟩ := List.mem_map.1 (hsub hr')
  obtain ⟨hvconf, hsigned⟩ := mem_cryptographicallyVerifiedRoots.1 hv
  rwa [policy.root_eq_of_id (hconf'' r hr) hvconf (Subtype.ext hid.symm)]

/-! ## Observers -/

section Observers

variable {P : Platform} {predicate : ExecutionReceiptPredicate} {policy : TrustPolicy}
  {parties : Parties} {now : UtcTime} {r : TrustRoot}

/-- The root may observe the receipt: it is entitled to, declared, independent of the parties, and
current at both times. -/
structure QualifiedObserver (P : Platform) (predicate : ExecutionReceiptPredicate)
    (policy : TrustPolicy) (parties : Parties) (now : UtcTime) (r : TrustRoot) : Prop where
  observes : observesReceipts predicate policy r
  declared : r.principalId.val ∈ predicate.producer.observerPrincipals.val
  independent : ¬ selfObserves P parties r
  current_at_issue : RootCurrent r predicate.issuedAt policy.skew
  current_now : RootCurrent r now policy.skew

theorem rootCurrent_of_currentAtBoth {earlier : UtcTime} {skew : ℕ}
    (h : currentAtBoth earlier now skew r = .ok true) :
    RootCurrent r earlier skew ∧ RootCurrent r now skew := by
  obtain ⟨atEarlier, hearlier, h⟩ := bind_eq_ok.1 h
  cases atEarlier with
  | false => cases h
  | true =>
    exact ⟨rootCurrent_of_trustRootIsCurrent hearlier, rootCurrent_of_trustRootIsCurrent h⟩

/-- One round of the loop: the root is passed over, raises a flag, or is admitted. -/
theorem considerObserver_cases {s s' : ObserverSelection}
    (h : considerObserver P predicate policy parties now s r = .ok s') :
    (¬ observesReceipts predicate policy r ∧ s' = s) ∨
      s' = { s with producerMismatch := true } ∨ s' = { s with selfObservation := true } ∨
      s' = { s with staleOrRevoked := true } ∨
      (QualifiedObserver P predicate policy parties now r ∧ s' = { s with
        distinct := enroll (trustRootFingerprint P) (fun r => r.principalId) s.distinct r }) := by
  unfold considerObserver at h
  split_ifs at h with hobs hdecl hself
  · exact .inr (.inr (.inl (Except.ok.inj h).symm))
  · obtain ⟨current, hcur, h⟩ := bind_eq_ok.1 h
    obtain rfl := Except.ok.inj h
    cases current with
    | false => exact .inr (.inr (.inr (.inl rfl)))
    | true =>
      obtain ⟨hissue, hnow⟩ := rootCurrent_of_currentAtBoth hcur
      exact .inr (.inr (.inr (.inr ⟨⟨hobs, hdecl, hself, hissue, hnow⟩, rfl⟩)))
  · exact .inr (.inl (Except.ok.inj h).symm)
  · exact .inl ⟨hobs, (Except.ok.inj h).symm⟩

/-- A flag of the selection is raised. -/
def ObserverSelection.Flagged (s : ObserverSelection) : Prop :=
  s.staleOrRevoked = true ∨ s.selfObservation = true ∨ s.producerMismatch = true

/-- What `_qualifying_observer_roots` keeps is distinct and qualified; and unless it raises a flag,
every root that is entitled to observe is qualified. -/
structure ObserversSelected (P : Platform) (predicate : ExecutionReceiptPredicate)
    (policy : TrustPolicy) (parties : Parties) (now : UtcTime) (roots : List TrustRoot)
    (s : ObserverSelection) : Prop where
  distinct : Distinct (trustRootFingerprint P) (fun r => r.principalId) s.distinct
  sound : ∀ r ∈ s.distinct, r ∈ roots ∧ QualifiedObserver P predicate policy parties now r
  complete : ¬ s.Flagged → ∀ r ∈ roots, observesReceipts predicate policy r →
    QualifiedObserver P predicate policy parties now r

theorem qualifyingObserverRoots_spec {roots : List TrustRoot} {s : ObserverSelection}
    (h : qualifyingObserverRoots P roots predicate policy parties now = .ok s) :
    ObserversSelected P predicate policy parties now roots s := by
  obtain ⟨s', hs', h⟩ := bind_eq_ok.1 h
  obtain rfl := Except.ok.inj h
  have hkept : Distinct (trustRootFingerprint P) (fun r => r.principalId) s'.distinct ∧
      ∀ r ∈ s'.distinct, r ∈ roots ∧ QualifiedObserver P predicate policy parties now r := by
    refine foldlM_invariant (fun s : ObserverSelection =>
      Distinct (trustRootFingerprint P) (fun r => r.principalId) s.distinct ∧
        ∀ r ∈ s.distinct, r ∈ roots ∧ QualifiedObserver P predicate policy parties now r)
      ⟨Distinct.nil, by simp⟩ ?_ hs'
    rintro r hr s s' ⟨hdistinct, hsound⟩ hstep
    rcases considerObserver_cases hstep with ⟨-, rfl⟩ | rfl | rfl | rfl | ⟨hq, rfl⟩
    · exact ⟨hdistinct, hsound⟩
    · exact ⟨hdistinct, hsound⟩
    · exact ⟨hdistinct, hsound⟩
    · exact ⟨hdistinct, hsound⟩
    · refine ⟨hdistinct.enroll r, fun r' hr' => ?_⟩
      rcases mem_of_mem_enroll hr' with hr' | rfl
      · exact hsound r' hr'
      · exact ⟨hr, hq⟩
  refine ⟨hkept.1.perm (List.perm_insertionSort _ _),
    fun r hr => hkept.2 r ((List.mem_insertionSort _).1 hr), fun hflag r hr hobs => ?_⟩
  -- a root that is entitled but not qualified raises a flag, and flags are never lowered
  by_contra hnot
  have hflagged : s'.Flagged := by
    refine foldlM_establishes ObserverSelection.Flagged hr ?_ ?_ hs'
    · intro s s' hstep
      rcases considerObserver_cases hstep with ⟨hno, -⟩ | rfl | rfl | rfl | ⟨hq, -⟩
      · exact absurd hobs hno
      · exact .inr (.inr rfl)
      · exact .inr (.inl rfl)
      · exact .inl rfl
      · exact absurd hq hnot
    · rintro b - s s' hs hstep
      rcases considerObserver_cases hstep with ⟨-, rfl⟩ | rfl | rfl | rfl | ⟨-, rfl⟩
      · exact hs
      · exact .inr (.inr rfl)
      · exact .inr (.inl rfl)
      · exact .inl rfl
      · exact hs
  exact hflag hflagged

end Observers

/-! ## Inversion of the verifier -/

/-- The parties of the examined execution. -/
def Examined.parties (P : Platform) (call : ReceiptCall) (e : Examined) : Parties :=
  call.parties P e.statement.predicate e.action.predicate e.authority

/-- The observers that count: enough of them, distinct in key and in principal, each configured,
verifying a signature over exactly the payload and qualified; their principals are the declared
ones, and nobody entitled to observe who signed was passed over. -/
structure CountedObservers (P : Platform) (call : ReceiptCall) (e : Examined) : Prop where
  threshold_le : call.trustPolicy.executionObserverThreshold.val ≤ e.observers.length
  distinct : Distinct (fun r => r.publicKey.bytes) (fun r => r.principalId) e.observers
  configured : ∀ r ∈ e.observers, r ∈ call.trustPolicy.roots.val
  signed : ∀ r ∈ e.observers, ∃ s ∈ e.envelope.signatures.val,
    signatureVerifies P (dssePae dssePayloadType e.payload) s r = true
  qualified : ∀ r ∈ e.observers, QualifiedObserver P e.statement.predicate call.trustPolicy
    (e.parties P call) e.now r
  declared : sameSet (e.observers.map fun r => r.principalId.val)
    e.statement.predicate.producer.observerPrincipals.val
  none_passed_over : ∀ r ∈ call.trustPolicy.roots.val,
    (∃ s ∈ e.envelope.signatures.val,
      signatureVerifies P (dssePae dssePayloadType e.payload) s r = true) →
    observesReceipts e.statement.predicate call.trustPolicy r →
    QualifiedObserver P e.statement.predicate call.trustPolicy (e.parties P call) e.now r

/-- What a call has passed when it appends the receipt. -/
structure ReceiptChecked (P : Platform) (call : ReceiptCall) (e : Examined) : Prop where
  time : requireUtc call.now "verification time" = .ok e.now
  envelope_parsed : parseJsonModel P Decode.dsseEnvelope call.envelopeBytes
    "ExecutionReceipt DSSE envelope" = .ok e.envelope
  payload_eq : e.payload = e.envelope.payload.bytes
  statement_parsed : parseJsonModel P Decode.executionReceiptStatement e.payload
    "signed receipt payload" = .ok e.statement
  allowed : policyAllowsReceipt call.trustPolicy call.expectedBinding
  binding_eq : executionBindingFields e.statement call.expectedBinding.humanPrincipal
    call.expectedBinding.executorWorkloadKeyFingerprints
    call.expectedBinding.humanPrincipalKeyFingerprints =
      call.expectedBinding.toExpectedExecutionBindingFields
  handoff : CertificateHandoff P call.actionCertificateEnvelopeBytes
    call.actionCertificateVerification e.statement.predicate.certificateRef e.action
  agrees : certificateAgrees P call.expectedBinding e.statement.predicate e.action
  verified_before_reserved : e.statement.predicate.certificateRef.verificationAt ≤
    e.statement.predicate.certificateRef.reservedAt
  reserved_before_started : e.statement.predicate.certificateRef.reservedAt ≤
    e.statement.predicate.attempt.startedAt
  started_before_ended :
    e.statement.predicate.attempt.startedAt ≤ e.statement.predicate.attempt.endedAt
  ended_before_issued : e.statement.predicate.attempt.endedAt ≤ e.statement.predicate.issuedAt
  issued_before_now :
    e.statement.predicate.issuedAt.instant ≤ e.now.instant + call.trustPolicy.skew
  verification_in_window : InCertificateWindow e.action.predicate call.trustPolicy.skew
    e.statement.predicate.certificateRef.verificationAt
  reservation_in_window : InCertificateWindow e.action.predicate call.trustPolicy.skew
    e.statement.predicate.certificateRef.reservedAt
  start_in_window : InCertificateWindow e.action.predicate call.trustPolicy.skew
    e.statement.predicate.attempt.startedAt
  end_in_window : InCertificateWindow e.action.predicate call.trustPolicy.skew
    e.statement.predicate.attempt.endedAt
  authority : AuthorityOf P call.trustPolicy call.actionCertificateVerification
    call.actionCertificateEnvelopeBytes e.authority
  observers : CountedObservers P call e

section Inversion

variable {P : Platform} {call : ReceiptCall}

theorem countedObservers_of_selection {e : Examined} {s : ObserverSelection}
    (h : qualifyingObserverRoots P
      (cryptographicallyVerifiedRoots P e.envelope e.payload call.trustPolicy.roots.val)
      e.statement.predicate call.trustPolicy (e.parties P call) e.now = .ok s)
    (hflag : ¬ s.Flagged) (heq : s.distinct = e.observers)
    (hdeclared : sameSet (s.distinct.map fun r => r.principalId.val)
      e.statement.predicate.producer.observerPrincipals.val)
    (hlen : call.trustPolicy.executionObserverThreshold.val ≤ s.distinct.length) :
    CountedObservers P call e := by
  have hsel := qualifyingObserverRoots_spec h
  rw [heq] at hdeclared hlen
  have hsound := hsel.sound
  rw [heq] at hsound
  have hmem : ∀ r ∈ e.observers, _ := fun r hr =>
    mem_cryptographicallyVerifiedRoots.1 (hsound r hr).1
  exact {
    threshold_le := hlen
    distinct := Distinct.of_digest (heq ▸ hsel.distinct)
    configured := fun r hr => (hmem r hr).1
    signed := fun r hr => (hmem r hr).2
    qualified := fun r hr => (hsound r hr).2
    declared := hdeclared
    none_passed_over := fun r hr hsigned hobs =>
      hsel.complete hflag r (mem_cryptographicallyVerifiedRoots.2 ⟨hr, hsigned⟩) hobs }

/-- The verifier appends only what it has checked. -/
theorem receiptChecked_of_examine {e : Examined} (h : examine P call = .ok e) :
    ReceiptChecked P call e := by
  simp only [examine, bind_eq_ok, Flow.raising_eq_ok, Flow.returnIf_eq_ok, Flow.tryElse_eq_ok,
    Flow.orReturn_eq_ok, not_not, not_lt, not_or, Bool.not_eq_true] at h
  obtain ⟨now, hnow, _, -, ⟨envelope, payload⟩, hopen, _, -, _, -, statement, hstatement, latest,
    hlatest, _, hissued, _, hallowed, binding, hbinding, _, hexpected, ⟨status, reason, action?⟩,
    hcontext, _, hstatus, action, haction, _, hreserved, outside, hwindow, _, houtside, _, hagrees,
    authority?, hauthority, authority, hsome, _, -, s, hselect, _, hself, _, hstale, _,
    ⟨hmismatch, hdeclared⟩, _, hlen, h⟩ := h
  simp only at haction hstatus
  subst haction hstatus hsome houtside
  obtain rfl := Except.ok.inj h
  obtain ⟨hparse, hpayload⟩ := openEnvelope_eq_ok hopen
  obtain ⟨hvalid, hbinding⟩ := construct_eq_ok.1 hbinding
  obtain ⟨hw₁, hw₂, hw₃, hw₄⟩ := inCertificateWindow_of_not_outside hwindow
  have hlatest := UtcTime.add_eq_ok hlatest
  have hissued := UtcTime.instant_le.2 hissued
  exact {
    time := hnow
    envelope_parsed := hparse
    payload_eq := hpayload
    statement_parsed := hstatement
    allowed := hallowed
    binding_eq := congrArg ExpectedExecutionBinding.toExpectedExecutionBindingFields
      (hbinding.trans hexpected)
    handoff := certificateHandoff_of_context hcontext
    agrees := hagrees
    verified_before_reserved := statement.predicate.certificateRef.verificationAt_le
    reserved_before_started := hreserved
    started_before_ended := statement.predicate.attempt.startedAt_le
    ended_before_issued := statement.predicate.endedAt_le
    issued_before_now := by
      simp only
      omega
    verification_in_window := hw₁
    reservation_in_window := hw₂
    start_in_window := hw₃
    end_in_window := hw₄
    authority := authorityOf_of_authorityRoots hauthority
    observers := countedObservers_of_selection hselect
      (by simp [ObserverSelection.Flagged, hself, hstale, hmismatch]) rfl hdeclared hlen }

end Inversion

/-! ## Soundness of ACCEPT -/

section Accept

variable {P : Platform} {call : ReceiptCall}

/-- The fields of a result the verifier builds. -/
theorem receiptResult_eq_ok {status : VerificationStatus}
    {reasons : List ExecutionReceiptVerificationReason} {envelopeSha256 : Sha256Text}
    {receiptId : Option Identifier} {payloadSha256 : Option Sha256Text} {observerRoots : List Str}
    {recorded : Bool} {statement : Option ExecutionReceiptStatement}
    {result : ExecutionReceiptVerificationResult}
    (h : receiptResult status reasons envelopeSha256 receiptId payloadSha256 observerRoots recorded
      statement = .ok result) :
    result.status = status ∧ result.reasonCodes.val = reasons.eraseDups ∧
      result.receiptId = receiptId.map Subtype.val ∧ result.payloadSha256 = payloadSha256 ∧
      result.envelopeSha256 = envelopeSha256 ∧
      result.verifiedExecutionObserverRoots.val = sortedStr observerRoots ∧
      result.recorded = recorded := by
  simp only [receiptResult, bind_eq_ok, boundedItems_eq_ok, construct_eq_ok] at h
  obtain ⟨codes, hcodes, roots, hroots, _, rfl⟩ := h
  exact ⟨rfl, hcodes.symm, rfl, rfl, rfl, hroots.symm, rfl⟩

/-- The call did not return ACCEPT. -/
def ReceiptNotAccepted (out : ReceiptOutcome) : Prop := ∀ r, out = .ok r → r.status ≠ .accept

theorem receiptNotAccepted_result {status : VerificationStatus}
    {reasons : List ExecutionReceiptVerificationReason} {envelopeSha256 : Sha256Text}
    {receiptId : Option Identifier} {payloadSha256 : Option Sha256Text} {observerRoots : List Str}
    {recorded : Bool} {statement : Option ExecutionReceiptStatement} (h : status ≠ .accept) :
    ReceiptNotAccepted (receiptResult status reasons envelopeSha256 receiptId payloadSha256
      observerRoots recorded statement) := by
  intro r hr
  rw [(receiptResult_eq_ok hr).1]
  exact h

theorem receiptNotAccepted_error (e : PyErr) : ReceiptNotAccepted (.error e) := by
  intro r hr
  cases hr

/-- Every way out before the append is a rejection, an unknown or an exception. -/
theorem exits_examine : Flow.Exits ReceiptNotAccepted (examine P call) := by
  have reject {reasons : List ExecutionReceiptVerificationReason} {envelopeSha256 : Sha256Text}
      {receiptId : Option Identifier} {payloadSha256 : Option Sha256Text}
      {observerRoots : List Str} {statement : Option ExecutionReceiptStatement} :
      ReceiptNotAccepted (receiptResult .reject reasons envelopeSha256 receiptId payloadSha256
        observerRoots false statement) :=
    receiptNotAccepted_result (by simp)
  have unknown {reasons : List ExecutionReceiptVerificationReason} {envelopeSha256 : Sha256Text}
      {receiptId : Option Identifier} {payloadSha256 : Option Sha256Text}
      {observerRoots : List Str} {statement : Option ExecutionReceiptStatement} :
      ReceiptNotAccepted (receiptResult .unknown reasons envelopeSha256 receiptId payloadSha256
        observerRoots false statement) :=
    receiptNotAccepted_result (by simp)
  unfold examine
  refine (Flow.exits_raising fun e _ => receiptNotAccepted_error e).bind fun now _ => ?_
  refine (Flow.exits_returnIf fun _ => reject).bind fun _ _ => ?_
  refine (Flow.exits_tryElse reject fun e _ _ => receiptNotAccepted_error e).bind fun opened _ => ?_
  refine (Flow.exits_returnIf fun _ => reject).bind fun _ _ => ?_
  refine (Flow.exits_returnIf fun _ => reject).bind fun _ _ => ?_
  refine (Flow.exits_tryElse reject fun e _ _ => receiptNotAccepted_error e).bind
    fun statement _ => ?_
  refine (Flow.exits_raising fun e _ => receiptNotAccepted_error e).bind fun latest _ => ?_
  refine (Flow.exits_returnIf fun _ => reject).bind fun _ _ => ?_
  refine (Flow.exits_returnIf fun _ => reject).bind fun _ _ => ?_
  refine (Flow.exits_raising fun e _ => receiptNotAccepted_error e).bind fun binding _ => ?_
  refine (Flow.exits_returnIf fun _ => reject).bind fun _ _ => ?_
  refine (Flow.exits_raising fun e _ => receiptNotAccepted_error e).bind fun context _ => ?_
  refine (Flow.exits_returnIf fun hstatus => ?_).bind fun _ _ => ?_
  · split
    · exact receiptNotAccepted_result hstatus
    · exact unknown
  refine (Flow.exits_orReturn unknown).bind fun action _ => ?_
  refine (Flow.exits_returnIf fun _ => reject).bind fun _ _ => ?_
  refine (Flow.exits_raising fun e _ => receiptNotAccepted_error e).bind fun outside _ => ?_
  refine (Flow.exits_returnIf fun _ => reject).bind fun _ _ => ?_
  refine (Flow.exits_returnIf fun _ => reject).bind fun _ _ => ?_
  refine (Flow.exits_raising fun e _ => receiptNotAccepted_error e).bind fun authority? _ => ?_
  refine (Flow.exits_orReturn unknown).bind fun authority _ => ?_
  refine (Flow.exits_returnIf fun _ => reject).bind fun _ _ => ?_
  refine (Flow.exits_raising fun e _ => receiptNotAccepted_error e).bind fun selection _ => ?_
  refine (Flow.exits_returnIf fun _ => reject).bind fun _ _ => ?_
  refine (Flow.exits_returnIf fun _ => reject).bind fun _ _ => ?_
  refine (Flow.exits_returnIf fun _ => reject).bind fun _ _ => ?_
  exact (Flow.exits_returnIf fun _ => unknown).bind fun _ _ => Flow.exits_ok _

/-- A receipt that passes every check is answered from the index's answer. -/
theorem verifyExecutionReceipt_of_examine {σ : Type} {receiptIndex : ReceiptIndex σ}
    {index index' : σ} {e : Examined} {answer : Option ReceiptIndexStatus}
    (he : examine P call = .ok e)
    (happend : receiptIndex.appendOnce index (e.append P) = (answer, index')) :
    verifyExecutionReceipt P call receiptIndex index =
      (e.conclude P call (answer.getD .unavailable), index') := by
  unfold verifyExecutionReceipt
  rw [he]
  simp only [happend]

/-- A conclusion is ACCEPT exactly when the index appended the receipt or had it. -/
theorem conclude_accept {e : Examined} {status : ReceiptIndexStatus}
    {result : ExecutionReceiptVerificationResult} (h : e.conclude P call status = .ok result)
    (haccept : result.status = .accept) : status = .appended ∨ status = .alreadyPresent := by
  cases status with
  | appended => exact .inl rfl
  | alreadyPresent => exact .inr rfl
  | receiptIdConflict => exact absurd haccept (receiptNotAccepted_result (by simp) result h)
  | attemptConflict => exact absurd haccept (receiptNotAccepted_result (by simp) result h)
  | idempotencyConflict => exact absurd haccept (receiptNotAccepted_result (by simp) result h)
  | unavailable => exact absurd haccept (receiptNotAccepted_result (by simp) result h)

/-- Everything that holds when the verifier returns ACCEPT: the receipt was checked, and the
result reports it with exactly the counted observers. -/
structure ReceiptAccepted (P : Platform) (call : ReceiptCall)
    (result : ExecutionReceiptVerificationResult) (e : Examined) : Prop extends
    ReceiptChecked P call e where
  receipt_reported : result.receiptId = some e.statement.predicate.receiptId.val
  payload_reported : result.payloadSha256 = some (sha256Bytes P e.payload)
  envelope_reported : result.envelopeSha256 = sha256Bytes P call.envelopeBytes
  observers_reported : result.verifiedExecutionObserverRoots.val =
    sortedStr (e.observers.map fun r => r.rootId.val)
  recorded : result.recorded = true

/-- ACCEPT is sound: for every receipt, policy, expected binding, handed-over certificate, index and
time. -/
theorem verifyExecutionReceipt_accept_sound {σ : Type} {receiptIndex : ReceiptIndex σ}
    {index index' : σ} {result : ExecutionReceiptVerificationResult}
    (h : verifyExecutionReceipt P call receiptIndex index = (.ok result, index'))
    (haccept : result.status = .accept) : ∃ e, ReceiptAccepted P call result e := by
  unfold verifyExecutionReceipt at h
  cases he : examine P call with
  | error out =>
    simp only [he, Prod.mk.injEq] at h
    exact absurd haccept (exits_examine out he result h.1)
  | ok e =>
    simp only [he, Prod.mk.injEq] at h
    have hchecked := receiptChecked_of_examine he
    have hconclude := h.1
    rcases conclude_accept hconclude haccept with hs | hs
    · rw [hs] at hconclude
      obtain ⟨-, -, hid, hpayload, henvelope, hroots, hrecorded⟩ := receiptResult_eq_ok hconclude
      exact ⟨e, hchecked, hid, hpayload, henvelope, hroots, hrecorded⟩
    · rw [hs] at hconclude
      obtain ⟨-, -, hid, hpayload, henvelope, hroots, hrecorded⟩ := receiptResult_eq_ok hconclude
      exact ⟨e, hchecked, hid, hpayload, henvelope, hroots, hrecorded⟩

end Accept

namespace Sample

def textMember (key value : String) : Str × Canon := member key (.str (lit value))

def hashMember (key : String) (d : BitVec 256) : Str × Canon := member key (.str (digest d).val)

def nulls (keys : List String) : List (Str × Canon) := keys.map fun key => member key .null

def certificateRefMember : Str × Canon :=
  member "certificate_ref" (.obj [
    textMember "certificate_id" "cert-1",
    hashMember "payload_sha256" payloadDigest,
    hashMember "envelope_sha256" envelopeDigest,
    hashMember "verification_result_sha256" resultDigest,
    hashMember "intent_sha256" scopeDigest,
    textMember "verification_at" "2026-01-01T00:30:00Z",
    textMember "reserved_at" "2026-01-01T00:30:00Z"])

def producerMember (observer : String) : Str × Canon :=
  member "producer" (.obj [
    textMember "producer_id" "producer",
    textMember "software_name" "recorder",
    textMember "software_version" "1",
    member "observer_principals" (.arr [.str (lit observer)])])

def artifact (id : String) (d : BitVec 256) : Canon :=
  .obj [textMember "artifact_id" id, hashMember "sha256" d, textMember "media_type" "text/plain"]

def receiptPredicateMembers : List (Str × Canon) :=
  [textMember "version" "0.1",
    textMember "receipt_id" "receipt-1",
    textMember "execution_id" "exec-1",
    textMember "task_id" "task-1",
    textMember "issued_at" "2026-01-01T00:33:00Z",
    certificateRefMember,
    textMember "tenant_id" "tenant",
    textMember "case_id" "case-1",
    producerMember "observer",
    member "attempt" (.obj [
      textMember "attempt_id" "attempt-1",
      member "attempt_number" (.int 1),
      textMember "started_at" "2026-01-01T00:31:00Z",
      textMember "ended_at" "2026-01-01T00:32:00Z",
      textMember "status" "COMPLETED"]),
    member "executor_workload" (.obj [
      textMember "principal_id" "worker",
      textMember "identity_issuer" "idp"]),
    member "runtime" (.obj [
      textMember "runtime_name" "engine",
      textMember "runtime_version" "1",
      hashMember "runtime_build_sha256" (repeated 8),
      textMember "instance_id" "instance-1"]),
    member "protocol" (.obj [
      textMember "kind" "LOCAL",
      textMember "version" "proofflow.local/v0.1",
      textMember "handler_name" "send",
      hashMember "request_sha256" (repeated 4),
      hashMember "response_sha256" (repeated 9)]),
    member "trace" (.obj [
      textMember "trace_id" "0123456789abcdef0123456789abcdef",
      textMember "span_id" "0123456789abcdef",
      member "parent_span_id" .null,
      member "linked_span_ids" (.arr []),
      textMember "otel_schema_uri" "https://opentelemetry.io/schemas/1.39.0",
      textMember "conventions_revision" "proofflow.agent-proof/v0.1",
      hashMember "observer_evidence_sha256" (repeated 10)]),
    member "inputs" (.arr [artifact "input" (repeated 1)]),
    member "outputs" (.arr [artifact "output" (repeated 11)]),
    member "operation" (.obj [
      textMember "kind" "TOOL",
      textMember "operation_id" "op-1",
      textMember "name" "send",
      textMember "version" "1",
      hashMember "input_schema_sha256" (repeated 8),
      hashMember "output_schema_sha256" (repeated 8),
      hashMember "request_sha256" (repeated 4),
      hashMember "response_sha256" (repeated 9)]),
    member "model_invocation" .null,
    member "effect" (.obj ([
      textMember "effect_type" "mail",
      textMember "target" "inbox",
      hashMember "intent_sha256" scopeDigest,
      textMember "idempotency_key" "key-1",
      textMember "status" "UNKNOWN"] ++ nulls ["provider_result", "provider_operation_id",
        "outbox_entry_sha256", "inbox_entry_sha256", "provider_request_sha256",
        "provider_response_sha256", "before_state_sha256", "after_state_sha256",
        "provider_event_sha256", "observer_evidence_sha256"])),
    member "cost" (.obj (textMember "status" "UNKNOWN" :: nulls ["currency", "amount_decimal",
      "rate_card_sha256", "observer_evidence_sha256"])),
    member "duration" (.obj (textMember "status" "UNKNOWN" :: nulls ["milliseconds", "clock",
      "precision_milliseconds", "observer_evidence_sha256"])),
    member "provenance" (.arr [.obj [
      textMember "name" "build",
      textMember "media_type" "text/plain",
      hashMember "sha256" (repeated 12)]])]

def receiptMembers : List (Str × Canon) :=
  [textMember "_type" "https://in-toto.io/Statement/v1",
    member "subject" (.arr [.obj [
      textMember "name" "output",
      member "digest" (.obj [member "sha256" (.str (hexdigest (repeated 11)))])]]),
    textMember "predicateType" "https://proofflow.dev/attestations/execution-receipt/v0.1",
    member "predicate" (.obj receiptPredicateMembers)]

def receiptPayload : Bytes := canonicalJson (.obj receiptMembers)

set_option maxRecDepth 100000 in
theorem length_receiptPayload : receiptPayload.length = 3662 := by decide +kernel

theorem sha256_receiptPayload :
    sha256Bytes platform receiptPayload = digest receiptPayloadDigest :=
  sha256Bytes_platform length_receiptPayload (head_canonicalJson _) (by simp [digests])

def certificateRef : ActionCertificateReference where
  certificateId := ident "cert-1"
  payloadSha256 := digest payloadDigest
  envelopeSha256 := digest envelopeDigest
  verificationResultSha256 := digest resultDigest
  intentSha256 := digest scopeDigest
  verificationAt := minute 30
  reservedAt := minute 30
  valid := by decide +kernel

/-- The receipt that the payload states. -/
def receiptStatement : ExecutionReceiptStatement where
  subject := ⟨[{
    name := localText "output"
    digest := ⟨hexdigest (repeated 11), isHexOfLength_hexdigest _⟩ }], by decide⟩
  predicate := {
    receiptId := ident "receipt-1"
    executionId := ident "exec-1"
    taskId := ident "task-1"
    issuedAt := minute 33
    certificateRef := certificateRef
    tenantId := ident "tenant"
    caseId := ident "case-1"
    producer := {
      producerId := ident "producer"
      softwareName := localText "recorder"
      softwareVersion := localText "1"
      observerPrincipals := ⟨[lit "observer"], by decide⟩
      valid := by decide +kernel }
    attempt := {
      attemptId := ident "attempt-1"
      attemptNumber := one
      startedAt := minute 31
      endedAt := minute 32
      status := .completed
      valid := by decide +kernel }
    executorWorkload := { principalId := ident "worker", identityIssuer := text "idp" }
    runtime := {
      runtimeName := localText "engine"
      runtimeVersion := localText "1"
      runtimeBuildSha256 := digest (repeated 8)
      instanceId := ident "instance-1" }
    protocol := .localCall {
      handlerName := localText "send"
      requestSha256 := digest (repeated 4)
      responseSha256 := digest (repeated 9) }
    trace := {
      traceId := ⟨lit "0123456789abcdef0123456789abcdef", by decide +kernel⟩
      spanId := ⟨lit "0123456789abcdef", by decide +kernel⟩
      parentSpanId := none
      linkedSpanIds := nothing
      observerEvidenceSha256 := digest (repeated 10)
      valid := by decide +kernel }
    inputs := ⟨[{
      artifactId := ident "input"
      sha256 := digest (repeated 1)
      mediaType := localText "text/plain" }], by decide⟩
    outputs := ⟨[{
      artifactId := ident "output"
      sha256 := digest (repeated 11)
      mediaType := localText "text/plain" }], by decide⟩
    operation := {
      kind := .tool
      operationId := ident "op-1"
      name := localText "send"
      version := localText "1"
      inputSchemaSha256 := digest (repeated 8)
      outputSchemaSha256 := digest (repeated 8)
      requestSha256 := digest (repeated 4)
      responseSha256 := digest (repeated 9) }
    modelInvocation := none
    effect := {
      effectType := localText "mail"
      target := localText "inbox"
      intentSha256 := digest scopeDigest
      idempotencyKey := ident "key-1"
      status := .unknown
      providerResult := none
      providerOperationId := none
      outboxEntrySha256 := none
      inboxEntrySha256 := none
      providerRequestSha256 := none
      providerResponseSha256 := none
      beforeStateSha256 := none
      afterStateSha256 := none
      providerEventSha256 := none
      observerEvidenceSha256 := none
      valid := by decide +kernel }
    cost := {
      status := .unknown
      currency := none
      amountDecimal := none
      rateCardSha256 := none
      observerEvidenceSha256 := none
      valid := by decide +kernel }
    duration := {
      status := .unknown
      milliseconds := none
      clock := none
      precisionMilliseconds := none
      observerEvidenceSha256 := none
      valid := by decide +kernel }
    provenance := ⟨[{
      name := localText "build"
      mediaType := localText "text/plain"
      sha256 := digest (repeated 12) }], by decide⟩
    valid := by decide +kernel }
  valid := by decide +kernel

set_option maxRecDepth 100000 in
theorem parse_receiptPayload (label : String) :
    parseJsonModel platform Decode.executionReceiptStatement receiptPayload label =
      .ok receiptStatement :=
  parseJsonModel_canonicalJson readsText_platform (by decide +kernel) (by decide +kernel)
    (by decide +kernel)

def receiptParts : EnvelopeParts where
  payload := receiptPayload
  signatures := [receiptSignature]
  payload_length := by rw [length_receiptPayload]; decide
  signatures_length := by decide

theorem length_receiptParts : receiptParts.bytes.length = 5057 := by
  have hparts := receiptParts.length_bytes
  have hpayload : receiptParts.payload.length = 3662 := length_receiptPayload
  have hcount : receiptParts.signatures.length = 1 := rfl
  omega

theorem openEnvelope_receiptParts (label payloadLabel : String) :
    openEnvelope platform receiptParts.bytes label payloadLabel =
      .ok (receiptParts.envelope, receiptPayload) :=
  receiptParts.openEnvelope_bytes readsText_platform (by decide) label payloadLabel

def observerRoot : TrustRoot where
  toTrustRootFields := { rootFields (ident "c-observer") (ident "observer") .executionObserver
      (.ofBytes observerKey
        (by decide +kernel)) "proofflow-execution-receipt" .executionReceipt with
    executionObserverScopes := ⟨requiredExecutionObserverScopes, by decide⟩ }
  valid := by decide +kernel

def auditorRoot : TrustRoot where
  toTrustRootFields := { rootFields (ident "d-auditor") (ident "auditor") .outcomeObserver
      (.ofBytes auditorKey (by decide +kernel)) "proofflow-outcome-closure" .outcomeClosure with
    outcomeObserverScopes := ⟨requiredOutcomeObserverScopes, by decide⟩
    outcomeEvidenceSourceKinds := ⟨[.localBytes], by decide⟩
    outcomeEvidenceSourcePrincipals := ⟨[lit "source"], by decide⟩ }
  valid := by decide +kernel

/-- The policy with the observers of the execution and of its outcome. -/
def observedPolicy : TrustPolicy where
  toTrustPolicyFields :=
    policyFields ⟨[issuerRoot, approverRoot, observerRoot, auditorRoot], by decide⟩
  valid := by decide +kernel

set_option maxRecDepth 100000 in
theorem sha256_acceptedResult :
    actionCertificateVerificationSha256 platform acceptedResult = digest resultDigest :=
  sha256Bytes_platform (n := 343) (by decide) (head_canonicalJson _) (by simp [digests])

set_option maxRecDepth 100000 in
theorem verified_parts : cryptographicallyVerifiedRoots platform parts.envelope payload
    observedPolicy.roots.val = [issuerRoot, approverRoot] := by
  decide

set_option maxRecDepth 100000 in
theorem verified_receiptParts : cryptographicallyVerifiedRoots platform receiptParts.envelope
    receiptPayload observedPolicy.roots.val = [observerRoot] := by
  decide

/-- The keys of the workload and of the human, which nobody else holds. -/
def identityKeys : Items Str 1 16 := ⟨[(digest (repeated 13)).val], by decide⟩

set_option maxRecDepth 100000 in
def receiptBinding : ExpectedExecutionBinding where
  toExpectedExecutionBindingFields := executionBindingFields receiptStatement
    { principalId := ident "human", identityIssuer := text "idp" } identityKeys identityKeys
  valid := by decide +kernel

/-- The receipt of the sample certificate's execution, a minute after its issuance. -/
def receiptCall : ReceiptCall where
  envelopeBytes := receiptParts.bytes
  trustPolicy := observedPolicy
  expectedBinding := receiptBinding
  actionCertificateEnvelopeBytes := parts.bytes
  actionCertificateVerification := acceptedResult
  now := .ofUtc (minute 34)

def examined : Examined where
  now := minute 34
  envelope := receiptParts.envelope
  payload := receiptPayload
  statement := receiptStatement
  action := statement
  authority := [issuerRoot, approverRoot]
  observers := [observerRoot]

theorem sha256_parts : sha256Bytes platform parts.bytes = digest envelopeDigest :=
  sha256Bytes_platform length_parts parts.head_bytes (by simp [digests])

theorem referenceRecomputes_receipt : referenceRecomputes platform parts.bytes payload
    acceptedResult receiptStatement.predicate.certificateRef := by
  unfold referenceRecomputes
  rw [sha256_parts, sha256_payload, sha256_acceptedResult]
  exact ⟨rfl, rfl, rfl, rfl, rfl⟩

theorem context_receipt : actionCertificateContext platform parts.bytes acceptedResult
    receiptStatement.predicate.certificateRef = .ok (.accept, none, some statement) := by
  unfold actionCertificateContext
  rw [Flow.finish_eq_ok]
  right
  simp only [bind_eq_ok, Flow.returnIf_eq_ok, Flow.tryElse_eq_ok, not_not, not_or]
  refine ⟨(), not_oversized.1, (parts.envelope, payload), openEnvelope_parts _ _, (),
    not_oversized.2, (), referenceRecomputes_receipt, (), by decide, (), by decide, statement,
    parse_payload _, (), ?_, rfl⟩
  rw [approvalScopeSha256_statement]
  exact ⟨rfl, rfl⟩

set_option maxRecDepth 100000 in
theorem authority_receipt : authorityRoots platform observedPolicy acceptedResult statement
    parts.bytes receiptStatement.predicate.certificateRef.verificationAt =
      .ok (some [issuerRoot, approverRoot]) := by
  have happroval : checkApprovalRoots platform observedPolicy statement.predicate (minute 30)
      [approverRoot] = .ok () := by
    decide
  unfold authorityRoots
  rw [Flow.finish_eq_ok]
  right
  simp only [bind_eq_ok, Flow.returnIf_eq_ok, Flow.tryElse_eq_ok, Flow.orReturn_eq_ok,
    Flow.raising_eq_ok, not_not]
  refine ⟨(), by decide, [issuerRoot], by decide, [approverRoot],
    by decide, (parts.envelope, payload), openEnvelope_parts _ _, (), ?_, false,
    by decide, (), by decide, (), by decide, (), happroval, (), by decide,
    rfl⟩
  rw [verified_parts]
  decide

/-- The parties of the sample execution. -/
def receiptParties : Parties :=
  receiptCall.parties platform receiptStatement.predicate statement.predicate
    [issuerRoot, approverRoot]

set_option maxRecDepth 100000 in
theorem receipt_in_order :
    (receiptStatement.predicate.issuedAt = minute 33 ∧
      receiptStatement.predicate.certificateRef.reservedAt ≤
        receiptStatement.predicate.attempt.startedAt) ∧
    policyAllowsReceipt observedPolicy receiptBinding ∧
    outsideCertificateWindow receiptStatement.predicate statement.predicate observedPolicy.skew =
      .ok false := by
  decide

set_option maxRecDepth 100000 in
theorem agrees_receipt :
    certificateAgrees platform receiptBinding receiptStatement.predicate statement := by
  unfold certificateAgrees
  rw [approvalScopeSha256_statement]
  decide

set_option maxRecDepth 100000 in
theorem observerRoot_observes :
    observesReceipts receiptStatement.predicate observedPolicy observerRoot ∧
    observerRoot.principalId.val ∈ receiptStatement.predicate.producer.observerPrincipals.val ∧
    sameSet ([observerRoot].map fun r => r.principalId.val)
      receiptStatement.predicate.producer.observerPrincipals.val ∧
    ¬ selfObserves platform receiptParties observerRoot ∧
    currentAtBoth receiptStatement.predicate.issuedAt (minute 34) observedPolicy.skew
      observerRoot = .ok true := by
  decide

theorem observers_receipt : qualifyingObserverRoots platform [observerRoot]
    receiptStatement.predicate observedPolicy receiptParties (minute 34) =
      .ok ⟨[observerRoot], false, false, false⟩ := by
  obtain ⟨hobserves, hdeclared, -, hindependent, hcurrent⟩ := observerRoot_observes
  have hround : considerObserver platform receiptStatement.predicate observedPolicy receiptParties
      (minute 34) ⟨[], false, false, false⟩ observerRoot =
        .ok ⟨[observerRoot], false, false, false⟩ := by
    unfold considerObserver
    rw [if_neg (not_not.2 hobserves), if_neg (not_not.2 hdeclared), if_neg hindependent, hcurrent]
    rfl
  unfold qualifyingObserverRoots
  rw [List.foldlM_cons, hround]
  rfl

theorem examine_receiptCall : examine platform receiptCall = .ok examined := by
  obtain ⟨⟨hissued, hreserved⟩, hallowed, hwindow⟩ := receipt_in_order
  obtain ⟨hobserves, -, hdeclared, -⟩ := observerRoot_observes
  have hsize : receiptParts.bytes.length ≤ maxEnvelopeBytes ∧
      receiptPayload.length ≤ maxPayloadBytes := by
    rw [length_receiptParts, length_receiptPayload]
    decide
  have hlatest : (minute 34).add observedPolicy.skew = .ok (minute 34) := by decide
  simp only [examine, bind_eq_ok, Flow.raising_eq_ok, Flow.returnIf_eq_ok, Flow.tryElse_eq_ok,
    Flow.orReturn_eq_ok, not_not, not_lt, not_or, Bool.not_eq_true]
  refine ⟨minute 34, requireUtc_ofUtc _ _, (), hsize.1, (receiptParts.envelope, receiptPayload),
    openEnvelope_receiptParts _ _, (), hsize.2, (), ?_, receiptStatement, parse_receiptPayload _,
    minute 34, hlatest, (), ?_, (), hallowed, receiptBinding,
    construct_eq_ok.2 ⟨receiptBinding.valid, rfl⟩, (), rfl, (.accept, none, some statement),
    context_receipt, (), rfl, statement, rfl, (), hreserved, false, hwindow, (), rfl, (),
    agrees_receipt, some [issuerRoot, approverRoot], authority_receipt,
    [issuerRoot, approverRoot], rfl, (), ?_, ⟨[observerRoot], false, false, false⟩, ?_, (), rfl,
    (), rfl, (), ⟨rfl, hdeclared⟩, (), le_refl _, rfl⟩
  · exact fun hnil => List.cons_ne_nil _ _ (verified_receiptParts.symm.trans hnil)
  · rw [hissued]
    decide
  · intro hnone
    exact hnone observerRoot (verified_receiptParts ▸ List.mem_singleton.2 rfl) hobserves
  · exact (congrArg (qualifyingObserverRoots platform · _ _ _ _) verified_receiptParts).trans
      observers_receipt

theorem sha256_receiptParts :
    sha256Bytes platform receiptParts.bytes = digest receiptEnvelopeDigest :=
  sha256Bytes_platform length_receiptParts receiptParts.head_bytes (by simp [digests])

def acceptedReceipt : ExecutionReceiptVerificationResult where
  status := .accept
  reasonCodes := ⟨[.appended], by decide⟩
  receiptId := some (lit "receipt-1")
  payloadSha256 := some (digest receiptPayloadDigest)
  envelopeSha256 := digest receiptEnvelopeDigest
  verifiedExecutionObserverRoots := ⟨[lit "c-observer"], by decide⟩
  recorded := true
  inferenceStatus := .unknown
  usageStatus := .unknown
  effectStatus := .unknown
  costStatus := .unknown
  durationStatus := .unknown
  valid := by decide

set_option maxRecDepth 100000 in
theorem conclude_examined :
    examined.conclude platform receiptCall .appended = .ok acceptedReceipt := by
  unfold Examined.conclude
  have henvelope : sha256Bytes platform receiptCall.envelopeBytes = digest receiptEnvelopeDigest :=
    sha256_receiptParts
  have hpayload : sha256Bytes platform examined.payload = digest receiptPayloadDigest :=
    sha256_receiptPayload
  rw [henvelope, hpayload]
  decide

/-- An index for ten receipts. -/
def receiptIndex : InMemoryReceiptIndex := .init capacity

theorem verify_receiptCall : ∃ index',
    verifyExecutionReceipt platform receiptCall InMemoryReceiptIndex.protocol receiptIndex =
      (.ok acceptedReceipt, index') := by
  obtain ⟨index', happend⟩ :=
    InMemoryReceiptIndex.appendOnce_init capacity (examined.append platform)
  refine ⟨index', (verifyExecutionReceipt_of_examine examine_receiptCall
    (InMemoryReceiptIndex.protocol_appendOnce happend)).trans ?_⟩
  rw [Option.getD_some, conclude_examined]

end Sample

/-- The sample receipt is accepted, and soundly so. -/
theorem sample_receipt_sound : ∃ index',
    verifyExecutionReceipt Sample.platform Sample.receiptCall InMemoryReceiptIndex.protocol
        Sample.receiptIndex = (.ok Sample.acceptedReceipt, index') ∧
      ∃ e, ReceiptAccepted Sample.platform Sample.receiptCall Sample.acceptedReceipt e := by
  obtain ⟨index', h⟩ := Sample.verify_receiptCall
  exact ⟨index', h, verifyExecutionReceipt_accept_sound h rfl⟩

end ProofFlow
