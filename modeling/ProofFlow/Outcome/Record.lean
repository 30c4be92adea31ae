import ProofFlow.Outcome.Verdict

/-!
# Recorded outcomes

What a PASS or FAIL of `verify_outcome_closure` says about its inputs: everything was compared with
everything else before the verdict was derived.  The operator's allowlists for outcomes are the
exception: no path to a record consults them.
-/

namespace ProofFlow

open Kit

variable {P : Platform} {call : OutcomeCall} {b : BoundClosure}

/-! ## Calls that record nothing -/

/-- The call did not return PASS or FAIL. -/
def Unrecorded (out : ClosureOutcome) : Prop :=
  ∀ r, out = .ok r → r.status ≠ .pass ∧ r.status ≠ .fail

theorem unrecorded_error (e : PyErr) : Unrecorded (.error e) := by
  intro r hr
  cases hr

theorem unrecorded_result {status : OutcomeVerdict} {reason : OutcomeClosureVerificationReason}
    {envelopeSha256 : Sha256Text} {payloadSha256 : Option Sha256Text} {observerRoots : List Str}
    {recorded : Bool} {predicate : Option OutcomeClosurePredicate}
    (h : status = .unknown ∨ status = .unsafeSuccess) :
    Unrecorded (outcomeResult status [reason] envelopeSha256 payloadSha256 observerRoots recorded
      predicate) := by
  intro r hr
  rw [(outcomeResult_eq_ok hr).1]
  rcases h with rfl | rfl <;> simp

theorem unrecorded_refuse {o : OpenedClosure} {observerRoots : List Str}
    {unsafeReason unknownReason : OutcomeClosureVerificationReason} :
    Unrecorded (o.refuse P call observerRoots unsafeReason unknownReason) := by
  unfold OpenedClosure.refuse
  split_ifs
  · exact unrecorded_result (.inr rfl)
  · exact unrecorded_result (.inl rfl)

theorem unrecorded_refuseHandoff {o : OpenedClosure} {observerRoots : List Str}
    {acceptanceUnknown unsafeReason reason : OutcomeClosureVerificationReason} :
    Unrecorded (o.refuseHandoff P call observerRoots acceptanceUnknown unsafeReason reason) := by
  unfold OpenedClosure.refuseHandoff
  split_ifs
  · exact unrecorded_result (.inr rfl)
  · exact unrecorded_result (.inl rfl)

theorem exits_operatorValue {α : Type} [DecidableEq α] {value operator : Option α}
    {out : ClosureOutcome} {Q : ClosureOutcome → Prop} (h : Q out) :
    Flow.Exits Q (operatorValue value operator out) := by
  cases operator with
  | none => exact Flow.exits_ok _
  | some o => exact (Flow.exits_returnIf fun _ => h).bind fun _ _ => Flow.exits_ok _

/-- A call that ends before the closure is read records nothing. -/
theorem exits_openClosure : Flow.Exits Unrecorded (openClosure P call) := by
  have hleave {reason : OutcomeClosureVerificationReason} {payloadSha256 : Option Sha256Text} :
      Unrecorded
        (outcomeResult .unknown [reason] (sha256Bytes P call.envelopeBytes) payloadSha256 []
        false none) := unrecorded_result (.inl rfl)
  refine (exits_operatorValue hleave).bind fun _ _ => ?_
  refine (exits_operatorValue hleave).bind fun _ _ => ?_
  refine (exits_operatorValue hleave).bind fun _ _ => ?_
  refine (Flow.exits_orReturn hleave).bind fun _ _ => ?_
  refine (Flow.exits_orReturn hleave).bind fun _ _ => ?_
  refine (Flow.exits_orReturn hleave).bind fun _ _ => ?_
  refine (Flow.exits_tryElse hleave fun e _ _ => unrecorded_error e).bind fun _ _ => ?_
  refine (Flow.exits_returnIf fun _ => hleave).bind fun _ _ => ?_
  refine (Flow.exits_tryElse hleave fun e _ _ => unrecorded_error e).bind fun _ _ => ?_
  refine (Flow.exits_returnIf fun _ => hleave).bind fun _ _ => ?_
  refine (Flow.exits_returnIf fun _ => hleave).bind fun _ _ => ?_
  exact (Flow.exits_tryElse hleave fun e _ _ => unrecorded_error e).bind fun _ _ => Flow.exits_ok _

/-- A call that ends before the reconciliation stage records nothing. -/
theorem exits_reachReconciliation : Flow.Exits Unrecorded (reachReconciliation P call) := by
  refine exits_openClosure.bind fun o _ => ?_
  have hleave {reason : OutcomeClosureVerificationReason} {observerRoots : List Str} :
      Unrecorded (o.result P call .unknown reason observerRoots false) :=
    unrecorded_result (.inl rfl)
  refine (Flow.exits_raising fun e _ => unrecorded_error e).bind fun _ _ => ?_
  refine (Flow.exits_returnSome fun _ _ => hleave).bind fun _ _ => ?_
  refine (Flow.exits_returnSome fun _ _ => hleave).bind fun _ _ => ?_
  refine (Flow.exits_raising fun e _ => unrecorded_error e).bind fun _ _ => ?_
  refine (Flow.exits_returnIf fun _ => unrecorded_refuse).bind fun _ _ => ?_
  refine (Flow.exits_raising fun e _ => unrecorded_error e).bind fun _ _ => ?_
  refine (Flow.exits_returnSome fun _ _ => unrecorded_refuseHandoff).bind fun _ _ => ?_
  refine (Flow.exits_raising fun e _ => unrecorded_error e).bind fun _ _ => ?_
  refine (Flow.exits_returnSome fun _ _ => unrecorded_refuseHandoff).bind fun _ _ => ?_
  refine (Flow.exits_orReturn hleave).bind fun _ _ => ?_
  refine (Flow.exits_orReturn hleave).bind fun _ _ => ?_
  refine (Flow.exits_raising fun e _ => unrecorded_error e).bind fun _ _ => ?_
  refine (Flow.exits_returnSome fun _ _ => hleave).bind fun _ _ => ?_
  refine (Flow.exits_returnIf fun _ => unrecorded_refuse).bind fun _ _ => ?_
  exact (Flow.exits_returnIf fun _ => unrecorded_refuse).bind fun _ _ => Flow.exits_ok _

/-- The call returned PASS or FAIL. -/
def Recorded {σ : Type} (P : Platform) (call : OutcomeCall) (outcomeIndex : OutcomeClosureIndex σ)
    (index : σ) : Prop :=
  ∃ r, (verifyOutcomeClosure P call outcomeIndex index).1 = .ok r ∧
    (r.status = .pass ∨ r.status = .fail)

/-- A call that records has reached the reconciliation stage. -/
theorem bound_of_recorded {σ : Type} {outcomeIndex : OutcomeClosureIndex σ} {index : σ}
    (h : Recorded P call outcomeIndex index) : ∃ b, ClosureBound P call b := by
  obtain ⟨r, hr, hstatus⟩ := h
  cases hreach : reachReconciliation P call with
  | ok b => exact ⟨b, reachReconciliation_eq_ok.1 hreach⟩
  | error out =>
    have hout : out = .ok r := by
      simpa [verifyOutcomeClosure, deriveOutcome, hreach, bind, Except.bind] using hr
    obtain ⟨hnp, hnf⟩ := exits_reachReconciliation out hreach r hout
    exact absurd hstatus (by simp [hnp, hnf])

/-! ## Evidence -/

/-- The operator's resolver returned bytes with the digest. -/
def Resolved (P : Platform) (call : OutcomeCall) (b : BoundClosure) (digest : Sha256Text) : Prop :=
  ∃ resolve ∈ call.evidenceResolver, ∃ raw,
    resolve digest.val b.statement.predicate.evidenceSource b.now = some raw ∧
      sha256Bytes P raw = digest

/-- The evidence is local and of its time, and every digest that the closure refers to was
resolved. -/
structure EvidenceResolved (P : Platform) (call : OutcomeCall) (b : BoundClosure) : Prop where
  source_local : b.statement.predicate.evidenceSource.sourceKind = .localBytes
  observed_before_now : b.statement.predicate.evidenceSource.observedAt ≤ b.now
  valid_now : b.now ≤ b.statement.predicate.evidenceSource.validUntil
  source_event : Resolved P call b b.statement.predicate.evidenceSource.sourceEventSha256
  attempts : ∀ a ∈ b.reconciliation.attempts.val,
    Resolved P call b a.beforeStateSha256 ∧ Resolved P call b a.afterStateSha256 ∧
      Resolved P call b a.providerEventSha256 ∧ Resolved P call b a.observerEvidenceSha256
  unresolved : ∀ u ∈ b.reconciliation.unresolved.val, ∀ digest ∈ u.observerEvidenceSha256,
    Resolved P call b digest

theorem resolveDigest_eq_none {resolve : OutcomeEvidenceResolver} {source : OutcomeEvidenceSource}
    {now : UtcTime} {digest : Sha256Text} :
    resolveDigest P resolve source now digest = none ↔
      ∃ raw, resolve digest.val source now = some raw ∧ sha256Bytes P raw = digest := by
  unfold resolveDigest
  cases resolve digest.val source now with
  | none => simp
  | some raw => simp

theorem evidenceResolved_of_resolve
    (h : resolveOutcomeEvidence P b.statement.predicate call.evidenceResolver b.now = none) :
    EvidenceResolved P call b := by
  simp only [resolveOutcomeEvidence] at h
  split_ifs at h with hkind htime
  cases hresolver : call.evidenceResolver with
  | none => simp [hresolver] at h
  | some resolve =>
    simp only [hresolver, List.findSome?_eq_none_iff, resolveDigest_eq_none] at h
    have hall : ∀ digest ∈ evidenceDigests b.statement.predicate, Resolved P call b digest :=
      fun digest hd => ⟨resolve, hresolver, h digest hd⟩
    simp only [not_or, not_lt] at htime
    have hattempt {a : EffectAttemptObservation} (ha : a ∈ b.reconciliation.attempts.val)
        {digest : Sha256Text} (hd : digest ∈ [a.beforeStateSha256, a.afterStateSha256,
          a.providerEventSha256, a.observerEvidenceSha256]) : Resolved P call b digest :=
      hall digest (List.mem_cons_of_mem _ (List.mem_append_left _ (List.mem_flatMap.2 ⟨a, ha, hd⟩)))
    exact {
      source_local := not_not.1 hkind
      observed_before_now := htime.1
      valid_now := htime.2
      source_event := hall _ List.mem_cons_self
      attempts := fun a ha => ⟨hattempt ha (by simp), hattempt ha (by simp), hattempt ha (by simp),
        hattempt ha (by simp)⟩
      unresolved := fun u hu digest hd => hall digest (List.mem_cons_of_mem _
        (List.mem_append_right _ (List.mem_filterMap.2 ⟨u, hu, hd⟩))) }

/-! ## Observers -/

/-- The parties of the closed execution. -/
def BoundClosure.parties (P : Platform) (call : OutcomeCall) (b : BoundClosure) : Parties :=
  outcomeParties P b.statement.predicate call.trustPolicy (some b.action) (some b.receipt)
    b.actionResult b.receiptResult b.expected

/-- The observers that count: enough of them, distinct in key and in principal, each configured,
verifying a signature over exactly the payload and qualified; their principals are the declared
ones, and nobody entitled to observe who signed was passed over. -/
structure OutcomeObserved (P : Platform) (call : OutcomeCall) (b : BoundClosure)
    (observers : List TrustRoot) : Prop where
  threshold_le : call.trustPolicy.outcomeObserverThreshold.val ≤ observers.length
  distinct : Distinct (fun r => r.publicKey.bytes) (fun r => r.principalId) observers
  configured : ∀ r ∈ observers, r ∈ call.trustPolicy.roots.val
  signed : ∀ r ∈ observers, ∃ s ∈ b.envelope.signatures.val,
    signatureVerifies P (dssePae dssePayloadType b.payload) s r = true
  qualified : ∀ r ∈ observers, QualifiedOutcomeObserver P b.statement.predicate call.trustPolicy
    (b.parties P call) b.now r
  declared : sameSet (observers.map fun r => r.principalId.val)
    b.statement.predicate.producer.observerPrincipals.val
  none_passed_over : ∀ r ∈ call.trustPolicy.roots.val,
    (∃ s ∈ b.envelope.signatures.val,
      signatureVerifies P (dssePae dssePayloadType b.payload) s r = true) →
    observesOutcomes b.statement.predicate call.trustPolicy r →
    QualifiedOutcomeObserver P b.statement.predicate call.trustPolicy (b.parties P call) b.now r

theorem outcomeObserved_of_answer
    (h : b.observers P call (some b.action) (some b.receipt) = .ok (b.observerRoots, none)) :
    ∃ observers, OutcomeObserved P call b observers ∧
      b.observerRoots = sortedStr (observers.map fun r => r.rootId.val) := by
  obtain ⟨observers, hkept⟩ := outcomeObserversAccepted_of_answer h
  have hmem : ∀ r ∈ observers, _ := fun r hr =>
    mem_cryptographicallyVerifiedRoots.1 (hkept.sound r hr).1
  refine ⟨observers, ?_, hkept.ids_eq⟩
  exact {
    threshold_le := hkept.threshold_le
    distinct := Distinct.of_digest hkept.distinct
    configured := fun r hr => (hmem r hr).1
    signed := fun r hr => (hmem r hr).2
    qualified := fun r hr => (hkept.sound r hr).2
    declared := hkept.declared
    none_passed_over := fun r hr hsigned hobs =>
      hkept.complete r (mem_cryptographicallyVerifiedRoots.2 ⟨hr, hsigned⟩) hobs }

/-! ## Times -/

/-- The chain of times from the certificate to the closure. -/
structure OutcomeTimesOrdered (b : BoundClosure) : Prop where
  valid_before_verified : b.action.notBefore.instant ≤
    b.statement.predicate.certificateRef.verificationAt.instant
  verified_before_reserved : b.statement.predicate.certificateRef.verificationAt ≤
    b.statement.predicate.certificateRef.reservedAt
  reserved_before_started : b.statement.predicate.certificateRef.reservedAt ≤
    b.receipt.predicate.attempt.startedAt
  started_before_receipt : b.receipt.predicate.attempt.startedAt ≤ b.receipt.predicate.issuedAt
  receipt_before_observed : b.receipt.predicate.issuedAt ≤
    b.statement.predicate.evidenceSource.observedAt
  observed_before_issued : b.statement.predicate.evidenceSource.observedAt ≤
    b.statement.predicate.issuedAt
  issued_before_expiry : b.statement.predicate.issuedAt.instant < b.action.expiresAt.instant
  issued_before_now : b.statement.predicate.issuedAt ≤ b.now

theorem outcomeTimesOrdered_of_window
    (h : ¬ windowInvalid b.statement.predicate b.action b.receipt.predicate b.now) :
    OutcomeTimesOrdered b := by
  simp only [windowInvalid, orderedTimes, List.tail_cons, List.zip_cons_cons, List.zip_nil_right,
    List.mem_cons, List.not_mem_nil, or_false, exists_eq_or_imp, exists_eq_left, not_or, not_lt,
    not_le, UtcTime.instant_le] at h
  obtain ⟨⟨h₁, h₂, h₃, h₄, h₅, h₆⟩, hnow, -, -, hexpiry, -⟩ := h
  exact ⟨h₁, h₂, h₃, h₄, h₅, h₆, hexpiry, hnow⟩

/-! ## Soundness -/

/-- What PASS and FAIL stand for. -/
structure OutcomeSound (P : Platform) (call : OutcomeCall) (b : BoundClosure)
    (counted : List TrustRoot) (result : OutcomeClosureVerificationResult) : Prop where
  opened : ClosureOpened P call b.toOpenedClosure
  binding_eq : outcomeBindingFields b.statement b.expected.humanPrincipalKeyFingerprints
    b.expected.executorWorkloadKeyFingerprints = b.expected.toExpectedOutcomeBindingFields
  certificate : ∃ statement issuerRoots approvalRoots, statement.predicate = b.action ∧
    CertificateHandedOver P call.actionCertificateEnvelopeBytes b.actionResult
      b.statement.predicate.certificateRef call.trustPolicy b.now statement issuerRoots
      approvalRoots
  receipt : ∃ roots, ReceiptHandedOver P call.executionReceiptEnvelopeBytes b.receiptResult
    b.statement.predicate.receiptRef call.trustPolicy b.now b.receipt roots
  agrees : closureAgrees b.statement.predicate b.action b.receipt.predicate
  evidence : EvidenceResolved P call b
  times : OutcomeTimesOrdered b
  observers : OutcomeObserved P call b counted
  reported : result.verifiedOutcomeObserverRoots.val =
    sortedStr (counted.map fun r => r.rootId.val)
  recorded : result.recorded = true

theorem certificateHandedOver_of_bound (h : ClosureBound P call b) :
    ∃ statement issuerRoots approvalRoots, statement.predicate = b.action ∧
      CertificateHandedOver P call.actionCertificateEnvelopeBytes b.actionResult
        b.statement.predicate.certificateRef call.trustPolicy b.now statement issuerRoots
        approvalRoots := by
  rcases parseExternalActionCertificate_cases h.action with
    h | h | ⟨statement, issuers, approvals, heq, hover⟩
  · cases h
  · cases h
  · exact ⟨statement, issuers, approvals, (Option.some.inj (Prod.mk.inj heq).1).symm, hover⟩

theorem receiptHandedOver_of_bound (h : ClosureBound P call b) :
    ∃ roots, ReceiptHandedOver P call.executionReceiptEnvelopeBytes b.receiptResult
      b.statement.predicate.receiptRef call.trustPolicy b.now b.receipt roots := by
  rcases parseExternalReceipt_cases h.receipt with h | h | ⟨statement, roots, heq, hover⟩
  · cases h
  · cases h
  · obtain rfl := Option.some.inj (Prod.mk.inj heq).1
    exact ⟨roots, hover⟩

/-- PASS and FAIL are recorded only for a closure that was compared with everything it refers to. -/
theorem verifyOutcomeClosure_record_sound {σ : Type} {outcomeIndex : OutcomeClosureIndex σ}
    {index : σ} {result : OutcomeClosureVerificationResult}
    (h : (verifyOutcomeClosure P call outcomeIndex index).1 = .ok result)
    (hstatus : result.status = .pass ∨ result.status = .fail) :
    ∃ b counted, OutcomeSound P call b counted result := by
  obtain ⟨b, hbound⟩ := bound_of_recorded ⟨result, h, hstatus⟩
  obtain ⟨observers, hobserved, hids⟩ := outcomeObserved_of_answer hbound.observers
  obtain ⟨_, hbinding⟩ := construct_eq_ok.1 hbound.binding
  obtain ⟨_, _, _, hresult⟩ := exists_result_of_bound hbound h
  exact ⟨b, observers, {
    opened := hbound.opened
    binding_eq := congrArg ExpectedOutcomeBinding.toExpectedOutcomeBindingFields hbinding
    certificate := certificateHandedOver_of_bound hbound
    receipt := receiptHandedOver_of_bound hbound
    agrees := hbound.agrees
    evidence := evidenceResolved_of_resolve hbound.evidence
    times := outcomeTimesOrdered_of_window hbound.window
    observers := hobserved
    reported := by rw [(outcomeResult_eq_ok hresult).2.2.2.1, hids, sortedStr_sortedStr]
    recorded := hstatus.elim (fun hs => (result.semanticsClosed.1 hs).1)
      fun hs => (result.semanticsClosed.2.1 hs).1 }⟩

/-- The sample closure is recorded, and soundly so. -/
theorem sample_record_sound :
    (verifyOutcomeClosure Sample.platform Sample.closureCall InMemoryOutcomeClosureIndex.protocol
        Sample.closureIndex).1 = .ok Sample.recordedClosure ∧
      ∃ b counted, OutcomeSound Sample.platform Sample.closureCall b counted
        Sample.recordedClosure :=
  ⟨Sample.verify_closureCall,
    verifyOutcomeClosure_record_sound Sample.verify_closureCall (.inl rfl)⟩

/-! ## The operator's allowlists -/

section Policy

variable {σ : Type} {outcomeIndex : OutcomeClosureIndex σ} {index : σ}

/-- The counted observers' ids fit the result. -/
theorem observerRoots_bounds
    (h : b.observers P call (some b.action) (some b.receipt) = .ok (b.observerRoots, none)) :
    b.observerRoots.length ≤ 16 ∧ b.observerRoots.Nodup ∧ b.observerRoots ≠ [] := by
  obtain ⟨hlen, hnodup⟩ := answer_bounds
    (fun r hr => (mem_cryptographicallyVerifiedRoots.1 hr).1) h
  obtain ⟨observers, hobserved, hids⟩ := outcomeObserved_of_answer h
  refine ⟨hlen, hnodup, fun hnil => ?_⟩
  have hpos := call.trustPolicy.outcomeObserverThreshold.property.1
  have hle := hobserved.threshold_le
  have hzero : observers.length = 0 := by
    rw [← List.length_map (fun r : TrustRoot => r.rootId.val), ← length_sortedStr, ← hids, hnil,
      List.length_nil]
  omega

/-- Once the index has the closure, the result is built without an exception. -/
theorem conclude_records {verdict : OutcomeVerdict} {status : OutcomeIndexStatus}
    (hverdict : verdict = .pass ∨ verdict = .fail) (hrecords : status.Records)
    (h : b.observers P call (some b.action) (some b.receipt) = .ok (b.observerRoots, none)) :
    ∃ result, b.conclude P call verdict status = .ok result ∧ result.status = verdict := by
  obtain ⟨hlen, hnodup, hne⟩ := observerRoots_bounds h
  have hbuilt {reason : OutcomeClosureVerificationReason}
      (hreason : (verdict = .pass ∧ reason ∈ passOutcomeReasons) ∨
        (verdict = .fail ∧ reason ∈ failOutcomeReasons)) :
      ∃ result, b.result P call verdict reason b.observerRoots true = .ok result ∧
        result.status = verdict := by
    obtain ⟨result, hr⟩ := recordedResult_total hreason hlen hnodup hne
    exact ⟨result, hr, (outcomeResult_eq_ok hr).1⟩
  rcases hrecords with rfl | rfl
  · rcases hverdict with rfl | rfl
    · exact hbuilt (.inl ⟨rfl, by decide⟩)
    · exact hbuilt (.inr ⟨rfl, by decide⟩)
  · rcases hverdict with rfl | rfl
    · exact hbuilt (.inl ⟨rfl, by decide⟩)
    · exact hbuilt (.inr ⟨rfl, by decide⟩)

/-- The operator's policy allows the expected outcome. -/
def OutcomeAllowed (call : OutcomeCall) : Prop :=
  ∃ expected, Handed call.expectedBinding call.operatorExpectedBinding expected ∧
    policyAllowsOutcome call.trustPolicy expected

/-- The tenant, the audience, the predicate type and the evidence source of the expected outcome are
on the policy's lists. -/
def OutcomeListed (call : OutcomeCall) : Prop :=
  ∃ expected, Handed call.expectedBinding call.operatorExpectedBinding expected ∧
    expected.tenantId.val ∈ call.trustPolicy.allowedTenants.val ∧
    outcomeClosureAudience ∈ call.trustPolicy.allowedAudiences.val ∧
    PredicateType.outcomeClosure ∈ call.trustPolicy.allowedPredicateTypes.val ∧
    expected.evidenceSource.sourceKind ∈ call.trustPolicy.allowedOutcomeEvidenceSourceKinds.val ∧
    expected.evidenceSource.principalId.val ∈
      call.trustPolicy.allowedOutcomeEvidenceSourcePrincipals.val

/-- The list of observers is the one list that a record depends on. -/
theorem allowedObservers_ne_nil (h : ClosureBound P call b) :
    call.trustPolicy.allowedOutcomeObserverPrincipals.val ≠ [] := by
  obtain ⟨-, -, hne⟩ := observerRoots_bounds h.observers
  obtain ⟨observers, hobserved, hids⟩ := outcomeObserved_of_answer h.observers
  obtain ⟨r, hr⟩ : ∃ r, r ∈ observers := by
    refine List.exists_mem_of_ne_nil _ fun hnil => hne ?_
    rw [hids, hnil]
    rfl
  exact List.ne_nil_of_mem (hobserved.qualified r hr).observes.2.2.2.2.1

/-- The outcome of a call that records is allowed exactly when it is on the lists: no path to a
record consults them, so that a record by itself says nothing of the lists. -/
theorem verifyOutcomeClosure_policy_iff (h : Recorded P call outcomeIndex index) :
    OutcomeAllowed call ↔ OutcomeListed call := by
  obtain ⟨b, hbound⟩ := bound_of_recorded h
  have hobservers := allowedObservers_ne_nil hbound
  constructor
  · rintro ⟨expected, hhanded, htenant, haudience, htype, -, hkind, hprincipal⟩
    exact ⟨expected, hhanded, htenant, haudience, htype, hkind, hprincipal⟩
  · rintro ⟨expected, hhanded, htenant, haudience, htype, hkind, hprincipal⟩
    exact ⟨expected, hhanded, htenant, haudience, htype, hobservers, hkind, hprincipal⟩

end Policy

/-- The sample closure is recorded, so that its outcome is allowed exactly when it is listed. -/
theorem sample_policy_iff :
    Recorded Sample.platform Sample.closureCall InMemoryOutcomeClosureIndex.protocol
        Sample.closureIndex ∧
      (OutcomeAllowed Sample.closureCall ↔ OutcomeListed Sample.closureCall) := by
  have hrecorded : Recorded Sample.platform Sample.closureCall InMemoryOutcomeClosureIndex.protocol
      Sample.closureIndex := ⟨_, Sample.verify_closureCall, .inl rfl⟩
  exact ⟨hrecorded, verifyOutcomeClosure_policy_iff hrecorded⟩

/-- The sample closure is recorded under a policy that lists neither the audience nor the predicate
type of outcome closures. -/
theorem sample_policy_ignored :
    Recorded Sample.platform Sample.closureCall InMemoryOutcomeClosureIndex.protocol
        Sample.closureIndex ∧
      ¬ OutcomeAllowed Sample.closureCall := by
  refine ⟨⟨_, Sample.verify_closureCall, .inl rfl⟩, ?_⟩
  rintro ⟨expected, -, -, haudience, -⟩
  have hnot : outcomeClosureAudience ∉ Sample.observedPolicy.allowedAudiences.val := by
    decide +kernel
  exact hnot haudience

end ProofFlow
