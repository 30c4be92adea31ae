import ProofFlow.Outcome.Observers
import ProofFlow.Outcome.Verify

/-!
# Reaching the reconciliation stage

What a call of `verify_outcome_closure` has passed when it derives a verdict, exactly: the closure
was opened (`ClosureOpened`), and it was compared with its evidence, the operator's binding and the
handed-over certificate and receipt (`ClosureBound`).  The parsers of the handoff are inverted here
too.
-/

namespace ProofFlow

open Kit

variable {P : Platform} {call : OutcomeCall}

theorem openEnvelope_eq_ok_iff {envelopeBytes payload : Bytes} {label payloadLabel : String}
    {envelope : DsseEnvelope} :
    openEnvelope P envelopeBytes label payloadLabel = .ok (envelope, payload) ↔
      parseJsonModel P Decode.dsseEnvelope envelopeBytes label = .ok envelope ∧
        payload = envelope.payload.bytes := by
  refine ⟨openEnvelope_eq_ok, ?_⟩
  rintro ⟨hparse, rfl⟩
  simp [openEnvelope, hparse, Base64Text.decode_eq, ok_bind, pure, Except.pure]

/-- What `openEnvelope` raises is caught everywhere. -/
theorem not_raises_openEnvelope {envelopeBytes : Bytes} {label payloadLabel : String} {e : PyErr} :
    ¬ (openEnvelope P envelopeBytes label payloadLabel = .error e ∧ e.isValueError = false) := by
  rintro ⟨herror, hvalue⟩
  simp [openEnvelope_error herror] at hvalue

/-- A parser of the handoff left without a value: with one of its two reasons, or by raising. -/
def HandoffRefused {α : Type} (acceptanceUnknown untrusted : OutcomeClosureVerificationReason)
    (out : Outcome PyErr (Handoff α)) : Prop :=
  out = .ok (none, some acceptanceUnknown) ∨ out = .ok (none, some untrusted) ∨
    ∃ e, out = .error e

/-! ## The handed-over certificate -/

section Roots

variable {purpose : TrustPurpose} {predicate : ActionCertificatePredicate} {policy : TrustPolicy}
  {earlier now : UtcTime} {approvers : Option (List Str)} {r : TrustRoot}

/-- The question raises when the first of the two comparisons does. -/
theorem not_currentAtBoth_eq_error {skew : ℕ} {e : PyErr} (hnow : now.Representable skew) :
    (do let current ← currentAtBoth earlier now skew r; return !current : Except PyErr Bool) =
      .error e ↔ e = .overflowError ∧ SkewOverflows r earlier skew := by
  rw [bind_eq_error, currentAtBoth_eq_error hnow]
  simp [pure, Except.pure]

theorem handoffRootRejected_eq_error {e : PyErr} (hnow : now.Representable policy.skew) :
    handoffRootRejected purpose predicate policy earlier now approvers r = .error e ↔
      e = .overflowError ∧ handoffRootEntitled purpose predicate policy approvers r ∧
        SkewOverflows r earlier policy.skew := by
  unfold handoffRootRejected
  split_ifs with hentitled
  · rw [not_currentAtBoth_eq_error hnow]
    simp [hentitled]
  · simp [hentitled]

end Roots

/-- What the verifier knows of the certificate when it looks at the reported roots: it and its
verification result recompute to the reference, the result is an ACCEPT with a reservation, and the
reported roots verify the certificate. -/
structure CertificateRead (P : Platform) (envelopeBytes : Bytes)
    (result : ActionCertificateVerificationResult) (expected : ActionCertificateReference)
    (policy : TrustPolicy) (statement : ActionCertificateStatement)
    (issuerRoots approvalRoots : List TrustRoot) : Prop where
  accepted : result.status = .accept
  reserved : result.reserved = true
  opened : ∃ envelope,
    parseJsonModel P Decode.dsseEnvelope envelopeBytes "external ActionCertificate envelope" =
      .ok envelope ∧
    parseJsonModel P (Decode.actionCertificateStatement P) envelope.payload.bytes
      "external ActionCertificate payload" = .ok statement ∧
    externalCertificateRecomputes P envelopeBytes envelope.payload.bytes statement result expected ∧
    result.verifiedActionIssuerRoots.val.mapM (rootById (cryptographicallyVerifiedRoots P envelope
      envelope.payload.bytes policy.roots.val)) = some issuerRoots ∧
    result.verifiedHumanApprovalRoots.val.mapM (rootById (cryptographicallyVerifiedRoots P envelope
      envelope.payload.bytes policy.roots.val)) = some approvalRoots
  issuers_ne_nil : result.verifiedActionIssuerRoots.val ≠ []
  approvals_iff : result.verifiedHumanApprovalRoots.val ≠ [] ↔
    statement.predicate.approval.required = true
  issuers_nodup : result.verifiedActionIssuerRoots.val.Nodup
  approvals_nodup : result.verifiedHumanApprovalRoots.val.Nodup

section Certificate

variable {envelopeBytes : Bytes} {result : ActionCertificateVerificationResult}
  {expected : ActionCertificateReference} {policy : TrustPolicy} {now : UtcTime}
  {statement : ActionCertificateStatement} {issuerRoots approvalRoots : List TrustRoot}

theorem readExternalActionCertificate_eq_ok :
    readExternalActionCertificate P envelopeBytes result expected policy =
        .ok (statement, issuerRoots, approvalRoots) ↔
      CertificateRead P envelopeBytes result expected policy statement issuerRoots
        approvalRoots := by
  simp only [readExternalActionCertificate, bind_eq_ok, Flow.returnIf_eq_ok, Flow.tryElse_eq_ok,
    Flow.orReturn_eq_ok, not_not, not_or, not_and, Prod.exists, openEnvelope_eq_ok_iff]
  constructor
  · rintro ⟨_, ⟨haccept, hreserved⟩, envelope, payload, ⟨hparse, rfl⟩, statement, hstatement, _,
      hrecompute, _, ⟨hne, happ, hnapp, hnodup, hnodup'⟩, issuers, hissuers, approvals, happrovals,
      h⟩
    obtain ⟨rfl, rfl, rfl⟩ := by simpa [pure, Except.pure] using h
    refine ⟨haccept, by simpa using hreserved, ⟨envelope, hparse, hstatement, hrecompute, hissuers,
      happrovals⟩, hne, ⟨fun h => ?_, happ⟩, hnodup, hnodup'⟩
    by_contra hreq
    exact h (hnapp (by simpa using hreq))
  · rintro ⟨haccept, hreserved, ⟨envelope, hparse, hstatement, hrecompute, hissuers, happrovals⟩,
      hne, hiff, hnodup, hnodup'⟩
    refine ⟨(), ⟨haccept, by simp [hreserved]⟩, envelope, _, ⟨hparse, rfl⟩, statement, hstatement,
      (), hrecompute, (), ⟨hne, hiff.2, fun hreq => ?_, hnodup, hnodup'⟩, issuerRoots, hissuers,
      approvalRoots, happrovals, rfl⟩
    by_contra h
    simp [hreq] at hiff
    exact h hiff

/-- Only the certificate's own parser can raise here. -/
theorem raises_readExternalActionCertificate {e : PyErr} :
    Flow.Raises (readExternalActionCertificate P envelopeBytes result expected policy) e ↔
      result.status = .accept ∧ result.reserved = true ∧ ∃ envelope,
        parseJsonModel P Decode.dsseEnvelope envelopeBytes "external ActionCertificate envelope" =
          .ok envelope ∧
        parseJsonModel P (Decode.actionCertificateStatement P) envelope.payload.bytes
          "external ActionCertificate payload" = .error e ∧ e.isValueError = false := by
  simp only [readExternalActionCertificate, Flow.raises_bind, Flow.raises_returnIf,
    Flow.raises_tryElse, Flow.raises_orReturn, not_raises_openEnvelope, Flow.returnIf_eq_ok,
    Flow.tryElse_eq_ok, openEnvelope_eq_ok_iff, Prod.exists, reduceCtorEq, and_false, exists_false,
    false_or, or_false, pure, Except.pure, Flow.not_raises_ok, not_or, not_not]
  constructor
  · rintro ⟨_, ⟨haccept, hreserved⟩, envelope, payload, ⟨hparse, rfl⟩, herror⟩
    exact ⟨haccept, by simpa using hreserved, envelope, hparse, herror⟩
  · rintro ⟨haccept, hreserved, envelope, hparse, herror⟩
    exact ⟨(), ⟨haccept, by simp [hreserved]⟩, envelope, _, ⟨hparse, rfl⟩, herror⟩

/-- The certificate was refused before the reported roots were looked at. -/
theorem exits_readExternalActionCertificate :
    Flow.Exits (HandoffRefused .actionCertificateAcceptanceUnknown
        .actionCertificateHandoffUntrusted)
      (readExternalActionCertificate P envelopeBytes result expected policy) := by
  have huntrusted : HandoffRefused .actionCertificateAcceptanceUnknown
      .actionCertificateHandoffUntrusted (α := ActionCertificatePredicate)
      (.ok (none, some .actionCertificateHandoffUntrusted)) := .inr (.inl rfl)
  have hraised (e : PyErr) : HandoffRefused .actionCertificateAcceptanceUnknown
      .actionCertificateHandoffUntrusted (α := ActionCertificatePredicate) (.error e) :=
    .inr (.inr ⟨e, rfl⟩)
  refine (Flow.exits_returnIf fun _ => .inl rfl).bind fun _ _ => ?_
  refine (Flow.exits_tryElse huntrusted fun e _ _ => hraised e).bind fun _ _ => ?_
  refine (Flow.exits_tryElse huntrusted fun e _ _ => hraised e).bind fun _ _ => ?_
  refine (Flow.exits_returnIf fun _ => huntrusted).bind fun _ _ => ?_
  refine (Flow.exits_returnIf fun _ => huntrusted).bind fun _ _ => ?_
  refine (Flow.exits_orReturn huntrusted).bind fun _ _ => ?_
  exact (Flow.exits_orReturn huntrusted).bind fun _ _ => Flow.exits_ok _

/-- What the verifier knows of a certificate that was handed over. -/
structure CertificateHandedOver (P : Platform) (envelopeBytes : Bytes)
    (result : ActionCertificateVerificationResult) (expected : ActionCertificateReference)
    (policy : TrustPolicy) (now : UtcTime) (statement : ActionCertificateStatement)
    (issuerRoots approvalRoots : List TrustRoot) : Prop where
  read : CertificateRead P envelopeBytes result expected policy statement issuerRoots approvalRoots
  issuers : issuerRoots.anyM
    (issuerRejected statement.predicate policy expected.verificationAt now) = .ok false
  approvers : approvalRoots.anyM
    (approverRejected statement.predicate policy expected.verificationAt now) = .ok false
  authorized : handoffAuthorized P statement.predicate policy issuerRoots approvalRoots

/-- The certificate is refused with one of two reasons, or handed over. -/
theorem parseExternalActionCertificate_cases {answer : Handoff ActionCertificatePredicate}
    (h : parseExternalActionCertificate P envelopeBytes result expected policy now = .ok answer) :
    answer = (none, some .actionCertificateAcceptanceUnknown) ∨
      answer = (none, some .actionCertificateHandoffUntrusted) ∨
      ∃ statement issuerRoots approvalRoots, answer = (some statement.predicate, none) ∧
        CertificateHandedOver P envelopeBytes result expected policy now statement issuerRoots
          approvalRoots := by
  rcases Flow.finish_eq_ok.1 h with h | h
  · rcases bind_eq_error.1 h with h | ⟨⟨statement, issuers, approvals⟩, -, h⟩
    · rcases exits_readExternalActionCertificate _ h with h | h | ⟨e, h⟩
      · exact .inl (Except.ok.inj h)
      · exact .inr (.inl (Except.ok.inj h))
      · cases h
    · simp only [bind_eq_error, Flow.raising_eq_error, Flow.raising_eq_ok,
        Flow.returnIf_eq_error, Flow.returnIf_eq_ok, reduceCtorEq, and_false, exists_false,
          false_or, or_false, pure, Except.pure, Except.ok.injEq] at h
      have huntrusted : (none, some .actionCertificateHandoffUntrusted) = answer := by
        rcases h with ⟨_, -, ⟨-, h⟩ | ⟨_, -, _, -, ⟨-, h⟩ | ⟨_, -, -, h⟩⟩⟩ <;> exact h
      exact .inr (.inl huntrusted.symm)
  · simp only [bind_eq_ok, Flow.raising_eq_ok, Flow.returnIf_eq_ok, not_not, Bool.not_eq_true,
      Prod.exists, pure, Except.pure, Except.ok.injEq] at h
    obtain ⟨statement, issuers, approvals, hread, _, hissuers, _, rfl, _, happrovers, _, rfl, _,
      hauth, rfl⟩ := h
    exact .inr (.inr ⟨statement, issuers, approvals, rfl,
      readExternalActionCertificate_eq_ok.1 hread, hissuers, happrovers, hauth⟩)

/-- The parser of the certificate raises, or the window of a reported root cannot be compared. -/
theorem parseExternalActionCertificate_eq_error {e : PyErr} :
    parseExternalActionCertificate P envelopeBytes result expected policy now = .error e ↔
      Flow.Raises (readExternalActionCertificate P envelopeBytes result expected policy) e ∨
      ∃ statement issuerRoots approvalRoots,
        CertificateRead P envelopeBytes result expected policy statement issuerRoots approvalRoots ∧
        (issuerRoots.anyM (issuerRejected statement.predicate policy expected.verificationAt now) =
            .error e ∨
          (issuerRoots.anyM
            (issuerRejected statement.predicate policy expected.verificationAt now) =
              .ok false ∧
            approvalRoots.anyM
              (approverRejected statement.predicate policy expected.verificationAt now) =
                .error e)) := by
  unfold parseExternalActionCertificate
  simp only [Flow.finish_eq_error, Flow.raises_bind, Flow.raises_returnIf, Flow.raises_raising,
    bind_eq_ok, Flow.returnIf_eq_ok, Flow.raising_eq_ok, Bool.not_eq_true, Prod.exists,
    reduceCtorEq, and_false, exists_false, false_or, or_false, pure, Except.pure,
    Flow.not_raises_ok, readExternalActionCertificate_eq_ok, Except.ok.injEq, exists_const]
  refine or_congr_right ?_
  constructor
  · rintro ⟨statement, issuers, approvals, hread, h | ⟨_, hissuers, rfl, h⟩⟩
    · exact ⟨statement, issuers, approvals, hread, .inl h⟩
    · exact ⟨statement, issuers, approvals, hread, .inr ⟨hissuers, h⟩⟩
  · rintro ⟨statement, issuers, approvals, hread, h | ⟨hissuers, h⟩⟩
    · exact ⟨statement, issuers, approvals, hread, .inl h⟩
    · exact ⟨statement, issuers, approvals, hread, .inr ⟨false, hissuers, rfl, h⟩⟩

end Certificate

/-! ## The handed-over receipt -/

/-- What the verifier knows of the receipt when it looks at the reported roots. -/
structure ReceiptRead (P : Platform) (envelopeBytes : Bytes)
    (result : ExecutionReceiptVerificationResult) (expected : ExecutionReceiptReference)
    (policy : TrustPolicy) (statement : ExecutionReceiptStatement)
    (roots : List (Option TrustRoot)) : Prop where
  accepted : result.status = .accept
  recorded : result.recorded = true
  opened : ∃ envelope,
    parseJsonModel P Decode.dsseEnvelope envelopeBytes "external ExecutionReceipt envelope" =
      .ok envelope ∧
    parseJsonModel P Decode.executionReceiptStatement envelope.payload.bytes
      "external ExecutionReceipt payload" = .ok statement ∧
    externalReceiptRecomputes P envelopeBytes envelope.payload.bytes statement result expected ∧
    roots = result.verifiedExecutionObserverRoots.val.map (rootById
      (cryptographicallyVerifiedRoots P envelope envelope.payload.bytes policy.roots.val))
  observers_ne_nil : result.verifiedExecutionObserverRoots.val ≠ []
  observers_nodup : result.verifiedExecutionObserverRoots.val.Nodup

section Receipt

variable {envelopeBytes : Bytes} {result : ExecutionReceiptVerificationResult}
  {expected : ExecutionReceiptReference} {policy : TrustPolicy} {now : UtcTime}
  {statement : ExecutionReceiptStatement} {roots : List (Option TrustRoot)}

theorem receiptRootRejected_eq_error {predicate : ExecutionReceiptPredicate} {r? : Option TrustRoot}
    {e : PyErr} (hnow : now.Representable policy.skew) :
    receiptRootRejected predicate policy now r? = .error e ↔
      e = .overflowError ∧ ∃ r, r? = some r ∧ receiptRootEntitled predicate policy r ∧
        SkewOverflows r predicate.issuedAt policy.skew := by
  cases r? with
  | none => simp [receiptRootRejected]
  | some r =>
    simp only [receiptRootRejected]
    split_ifs with hentitled
    · rw [not_currentAtBoth_eq_error hnow]
      simp [hentitled]
    · simp [hentitled]

theorem readExternalReceipt_eq_ok :
    readExternalReceipt P envelopeBytes result expected policy = .ok (statement, roots) ↔
      ReceiptRead P envelopeBytes result expected policy statement roots := by
  simp only [readExternalReceipt, bind_eq_ok, Flow.returnIf_eq_ok, Flow.tryElse_eq_ok, not_not,
    not_or, Prod.exists, openEnvelope_eq_ok_iff]
  constructor
  · rintro ⟨_, ⟨haccept, hrecorded⟩, envelope, payload, ⟨hparse, rfl⟩, statement, hstatement, _,
      hrecompute, _, ⟨hne, hnodup⟩, h⟩
    obtain ⟨rfl, rfl⟩ := by simpa [pure, Except.pure] using h
    exact ⟨haccept, by simpa using hrecorded, ⟨envelope, hparse, hstatement, hrecompute, rfl⟩, hne,
      hnodup⟩
  · rintro ⟨haccept, hrecorded, ⟨envelope, hparse, hstatement, hrecompute, rfl⟩, hne, hnodup⟩
    exact ⟨(),
      ⟨haccept, by simp [hrecorded]⟩, envelope, _, ⟨hparse, rfl⟩, statement, hstatement, (),
      hrecompute, (), ⟨hne, hnodup⟩, rfl⟩

/-- The receipt was refused before the reported roots were looked at; nothing raises here. -/
theorem exits_readExternalReceipt :
    Flow.Exits (fun out => out = .ok (none, some .executionReceiptAcceptanceUnknown) ∨
        out = .ok (none, some .executionReceiptHandoffUntrusted))
      (readExternalReceipt P envelopeBytes result expected policy) := by
  refine (Flow.exits_returnIf fun _ => .inl rfl).bind fun _ _ => ?_
  refine (Flow.exits_tryElse (.inr rfl) fun e he hc => ?_).bind fun _ _ => ?_
  · exact absurd ⟨he, hc⟩ not_raises_openEnvelope
  refine (Flow.exits_tryElse (.inr rfl) fun e he hc => ?_).bind fun _ _ => ?_
  · simp [parseJsonModel_error Decode.quiet_executionReceiptStatement he] at hc
  refine (Flow.exits_returnIf fun _ => .inr rfl).bind fun _ _ => ?_
  exact (Flow.exits_returnIf fun _ => .inr rfl).bind fun _ _ => Flow.exits_ok _

/-- What the verifier knows of a receipt that was handed over. -/
structure ReceiptHandedOver (P : Platform) (envelopeBytes : Bytes)
    (result : ExecutionReceiptVerificationResult) (expected : ExecutionReceiptReference)
    (policy : TrustPolicy) (now : UtcTime) (statement : ExecutionReceiptStatement)
    (roots : List (Option TrustRoot)) : Prop where
  read : ReceiptRead P envelopeBytes result expected policy statement roots
  observers : roots.anyM (receiptRootRejected statement.predicate policy now) = .ok false
  threshold : ¬ tooFewDistinct P policy.executionObserverThreshold.val roots.reduceOption

/-- The receipt is refused with one of two reasons, or handed over. -/
theorem parseExternalReceipt_cases {answer : Handoff ExecutionReceiptStatement}
    (h : parseExternalReceipt P envelopeBytes result expected policy now = .ok answer) :
    answer = (none, some .executionReceiptAcceptanceUnknown) ∨
      answer = (none, some .executionReceiptHandoffUntrusted) ∨
      ∃ statement roots, answer = (some statement, none) ∧
        ReceiptHandedOver P envelopeBytes result expected policy now statement roots := by
  rcases Flow.finish_eq_ok.1 h with h | h
  · rcases bind_eq_error.1 h with h | ⟨⟨statement, roots⟩, -, h⟩
    · rcases exits_readExternalReceipt _ h with h | h
      · exact .inl (Except.ok.inj h)
      · exact .inr (.inl (Except.ok.inj h))
    · simp only [bind_eq_error, Flow.raising_eq_error, Flow.raising_eq_ok, Flow.returnIf_eq_error,
        Flow.returnIf_eq_ok, reduceCtorEq, and_false, exists_false, false_or, or_false, pure,
        Except.pure, Except.ok.injEq] at h
      have huntrusted : (none, some .executionReceiptHandoffUntrusted) = answer := by
        rcases h with ⟨_, -, ⟨-, h⟩ | ⟨_, -, -, h⟩⟩ <;> exact h
      exact .inr (.inl huntrusted.symm)
  · simp only [bind_eq_ok, Flow.raising_eq_ok, Flow.returnIf_eq_ok, Bool.not_eq_true, Prod.exists,
      pure, Except.pure, Except.ok.injEq] at h
    obtain ⟨statement, roots, hread, _, hroots, _, rfl, _, hthreshold, rfl⟩ := h
    exact .inr (.inr ⟨statement, roots, rfl, readExternalReceipt_eq_ok.1 hread, hroots, hthreshold⟩)

/-- The parser of the receipt raises when the window of a reported root cannot be compared. -/
theorem parseExternalReceipt_eq_error {e : PyErr} :
    parseExternalReceipt P envelopeBytes result expected policy now = .error e ↔
      ∃ statement roots, ReceiptRead P envelopeBytes result expected policy statement roots ∧
        roots.anyM (receiptRootRejected statement.predicate policy now) = .error e := by
  have hread : ¬ Flow.Raises (readExternalReceipt P envelopeBytes result expected policy) e := by
    intro h
    rcases exits_readExternalReceipt _ h with h | h <;> cases h
  unfold parseExternalReceipt
  simp only [Flow.finish_eq_error, Flow.raises_bind, Flow.raises_returnIf, Flow.raises_raising,
    bind_eq_ok, Flow.returnIf_eq_ok, Flow.raising_eq_ok, Prod.exists, reduceCtorEq, and_false,
    exists_false, false_or, or_false, pure, Except.pure, Flow.not_raises_ok, hread,
    readExternalReceipt_eq_ok, Except.ok.injEq]

end Receipt

/-! ## Opening the closure -/

/-- The value that the verifier works with: the operator's, which the plain argument may not
contradict, or the plain argument. -/
def Handed {α : Type} (value operator : Option α) (a : α) : Prop :=
  (operator = some a ∧ ∀ v ∈ value, v = a) ∨ (operator = none ∧ value = some a)

theorem operatorValue_eq_ok {α : Type} [DecidableEq α] {value operator : Option α}
    {out : ClosureOutcome} {a : α} :
    operatorValue value operator out = .ok (some a) ↔ Handed value operator a := by
  unfold Handed
  cases operator with
  | none => simp [operatorValue]
  | some o =>
    simp only [operatorValue, bind_eq_ok, Flow.returnIf_eq_ok, not_exists, not_and, not_not, pure,
      Except.pure, Except.ok.injEq, Option.some.injEq, reduceCtorEq, false_and, or_false]
    constructor
    · rintro ⟨_, hagree, rfl⟩
      exact ⟨rfl, hagree⟩
    · rintro ⟨rfl, hagree⟩
      exact ⟨(), hagree, rfl⟩

/-- The time of the call is in UTC. -/
theorem parseWireTimestamp_eq_requireUtc {t : DateTime} {label : String} {u : UtcTime} :
    parseWireTimestamp t label = .ok u ↔ requireUtc t label = .ok u := by
  unfold parseWireTimestamp requireUtc
  cases t.utcoffset with
  | none => simp
  | some o => simp

/-- What a call has passed when the closure has been read. -/
structure ClosureOpened (P : Platform) (call : OutcomeCall) (o : OpenedClosure) : Prop where
  expected : Handed call.expectedBinding call.operatorExpectedBinding o.expected
  actionResult : Handed call.actionCertificateVerification
    call.operatorActionCertificateVerification o.actionResult
  receiptResult : Handed call.executionReceiptVerification
    call.operatorExecutionReceiptVerification o.receiptResult
  time : requireUtc call.now "verification time" = .ok o.now
  envelope_bounded : call.envelopeBytes.length ≤ maxEnvelopeBytes
  envelope_parsed : parseJsonModel P Decode.dsseEnvelope call.envelopeBytes
    "OutcomeClosure DSSE envelope" = .ok o.envelope
  payload_eq : o.payload = o.envelope.payload.bytes
  payload_bounded : o.payload.length ≤ maxPayloadBytes
  verified :
    cryptographicallyVerifiedRoots P o.envelope o.payload call.trustPolicy.roots.val ≠ []
  statement_parsed : parseJsonModel P Decode.outcomeClosureStatement o.payload
    "signed OutcomeClosure payload" = .ok o.statement

/-- The closure is read exactly when the guards hold. -/
theorem openClosure_eq_ok {o : OpenedClosure} :
    openClosure P call = .ok o ↔ ClosureOpened P call o := by
  simp only [openClosure, bind_eq_ok, Flow.returnIf_eq_ok, Flow.tryElse_eq_ok, Flow.orReturn_eq_ok,
    not_lt, Prod.exists, openEnvelope_eq_ok_iff, parseWireTimestamp_eq_requireUtc]
  constructor
  · rintro ⟨_, he, _, ha, _, hr, expected, rfl, actionResult, rfl, receiptResult, rfl, now, htime,
      _, hlen, envelope, payload,
      ⟨hparse, hpayload⟩, _, hplen, _, hverified, statement, hstatement, h⟩
    obtain rfl := Except.ok.inj h
    exact {
      expected := operatorValue_eq_ok.1 he
      actionResult := operatorValue_eq_ok.1 ha
      receiptResult := operatorValue_eq_ok.1 hr
      time := htime
      envelope_bounded := hlen
      envelope_parsed := hparse
      payload_eq := hpayload
      payload_bounded := hplen
      verified := hverified
      statement_parsed := hstatement }
  · intro h
    exact ⟨_, operatorValue_eq_ok.2 h.expected, _, operatorValue_eq_ok.2 h.actionResult, _,
      operatorValue_eq_ok.2 h.receiptResult, _, rfl, _, rfl, _, rfl, _, h.time, (),
      h.envelope_bounded, _, _, ⟨h.envelope_parsed, h.payload_eq⟩, (), h.payload_bounded, (),
      h.verified, _, h.statement_parsed, rfl⟩

/-! ## The comparisons -/

/-- What a call has passed when it reaches the reconciliation stage. -/
structure ClosureBound (P : Platform) (call : OutcomeCall) (b : BoundClosure) : Prop where
  opened : ClosureOpened P call b.toOpenedClosure
  observed : ∃ ids, b.observers P call none none = .ok (ids, none)
  evidence : resolveOutcomeEvidence P b.statement.predicate call.evidenceResolver b.now = none
  binding : expectedOutcomeBindingFor b.statement b.expected.humanPrincipalKeyFingerprints
    b.expected.executorWorkloadKeyFingerprints = .ok b.expected
  action : parseExternalActionCertificate P call.actionCertificateEnvelopeBytes b.actionResult
    b.statement.predicate.certificateRef call.trustPolicy b.now = .ok (some b.action, none)
  receipt : parseExternalReceipt P call.executionReceiptEnvelopeBytes b.receiptResult
    b.statement.predicate.receiptRef call.trustPolicy b.now = .ok (some b.receipt, none)
  observers : b.observers P call (some b.action) (some b.receipt) = .ok (b.observerRoots, none)
  agrees : closureAgrees b.statement.predicate b.action b.receipt.predicate
  window : ¬ windowInvalid b.statement.predicate b.action b.receipt.predicate b.now

/-- The reconciliation stage is reached exactly when the guards hold. -/
theorem reachReconciliation_eq_ok {b : BoundClosure} :
    reachReconciliation P call = .ok b ↔ ClosureBound P call b := by
  simp only [reachReconciliation, bindClosure, bind_eq_ok, Flow.raising_eq_ok, Flow.returnIf_eq_ok,
    Flow.returnSome_eq_ok, Flow.orReturn_eq_ok, not_not, Prod.exists, openClosure_eq_ok]
  constructor
  · rintro ⟨o, hopen, ids, _, hobs, _, rfl, _, hevidence, _, hbinding, _, rfl, _, _, haction, _,
      rfl, _, _, hreceipt, _, rfl, action, rfl, receipt, rfl, roots, _, hobs', _, rfl, _, hagrees,
      _,
      hwindow, h⟩
    obtain rfl := Except.ok.inj h
    exact ⟨hopen, ⟨ids, hobs⟩, hevidence, hbinding, haction, hreceipt, hobs', hagrees, hwindow⟩
  · rintro ⟨hopen, ⟨ids, hobs⟩, hevidence, hbinding, haction, hreceipt, hobs', hagrees, hwindow⟩
    exact ⟨b.toOpenedClosure, hopen, ids, none, hobs, (), rfl, (), hevidence, _, hbinding, (), rfl,
      _, _, haction, (), rfl, _, _, hreceipt, (), rfl, b.action, rfl, b.receipt, rfl, _, _, hobs',
      (),
      rfl, (), hagrees, (), hwindow, rfl⟩

end ProofFlow
