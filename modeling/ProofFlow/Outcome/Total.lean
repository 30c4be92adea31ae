import ProofFlow.Certificate.Total
import ProofFlow.Outcome.Record

/-!
# Calls that return a verdict

The verifier of outcome closures is meant to fail closed: whatever it is given, it returns a result.
It does so except on `EscapingInput`s: closures, certificates and receipts that bring a root's
window within a skew of the ends of the calendar, certificates whose own times leave the calendar,
and reconciliations in which some but not all of the expected effects succeeded.
-/

namespace ProofFlow

open Kit

variable {P : Platform} {call : OutcomeCall} {o : OpenedClosure} {b : BoundClosure}

/-! ## Inputs that make the verifier raise -/

/-- The roots that verify the closure. -/
def OpenedClosure.verified (P : Platform) (call : OutcomeCall) (o : OpenedClosure) :
    List TrustRoot :=
  cryptographicallyVerifiedRoots P o.envelope o.payload call.trustPolicy.roots.val

/-- What a call has passed when it turns to the handed-over certificate. -/
structure ClosureCompared (P : Platform) (call : OutcomeCall) (o : OpenedClosure) : Prop where
  opened : ClosureOpened P call o
  observed : ∃ ids, o.observers P call none none = .ok (ids, none)
  evidence : resolveOutcomeEvidence P o.statement.predicate call.evidenceResolver o.now = none
  binding : expectedOutcomeBindingFor o.statement o.expected.humanPrincipalKeyFingerprints
    o.expected.executorWorkloadKeyFingerprints = .ok o.expected

/-- The inputs on which the verifier raises. -/
inductive EscapingInput (P : Platform) (call : OutcomeCall) : Prop
  /-- An observer has to be compared with the closure's time of issue, and the skew leads out of the
  calendar there. -/
  | observer {o : OpenedClosure} (opened : ClosureOpened P call o)
      (overflows : ObserverOverflows P o.statement.predicate call.trustPolicy
        (outcomeParties P o.statement.predicate call.trustPolicy none none o.actionResult
          o.receiptResult o.expected) (o.verified P call))
  /-- A record of an accepted certificate is well formed but for a time that leaves the calendar. -/
  | certificate {o : OpenedClosure} (compared : ClosureCompared P call o)
      (accepted : o.actionResult.status = .accept) (reserved : o.actionResult.reserved = true)
      {envelope : DsseEnvelope}
      (envelope_parsed : parseJsonModel P Decode.dsseEnvelope call.actionCertificateEnvelopeBytes
        "external ActionCertificate envelope" = .ok envelope)
      {members : List (PyStr × Json PyStr)}
      (strict : strictJsonObject P envelope.payload.bytes "external ActionCertificate payload" =
        .ok members)
      {j : Json Str} (decoded : P.jiter envelope.payload.bytes = some j)
      (leaves : Decode.StatementLeavesCalendar P j)
  /-- An issuer has to be compared with the time of the certificate's verification. -/
  | issuer {o : OpenedClosure} (compared : ClosureCompared P call o)
      {statement : ActionCertificateStatement} {before after approvalRoots : List TrustRoot}
      {r : TrustRoot}
      (read : CertificateRead P call.actionCertificateEnvelopeBytes o.actionResult
        o.statement.predicate.certificateRef call.trustPolicy statement (before ++ r :: after)
        approvalRoots)
      (passed : ∀ r ∈ before, issuerRejected statement.predicate call.trustPolicy
        o.statement.predicate.certificateRef.verificationAt o.now r = .ok false)
      (entitled : handoffRootEntitled .actionIssuer statement.predicate call.trustPolicy none r)
      (overflows : SkewOverflows r o.statement.predicate.certificateRef.verificationAt
        call.trustPolicy.skew)
  /-- An approver has to be compared with the time of the certificate's verification. -/
  | approver {o : OpenedClosure} (compared : ClosureCompared P call o)
      {statement : ActionCertificateStatement} {issuerRoots before after : List TrustRoot}
      {r : TrustRoot}
      (read : CertificateRead P call.actionCertificateEnvelopeBytes o.actionResult
        o.statement.predicate.certificateRef call.trustPolicy statement issuerRoots
        (before ++ r :: after))
      (issued : ∀ r ∈ issuerRoots, issuerRejected statement.predicate call.trustPolicy
        o.statement.predicate.certificateRef.verificationAt o.now r = .ok false)
      (passed : ∀ r ∈ before, approverRejected statement.predicate call.trustPolicy
        o.statement.predicate.certificateRef.verificationAt o.now r = .ok false)
      (entitled : handoffRootEntitled .humanApproval statement.predicate call.trustPolicy
        (some statement.predicate.approval.approverPrincipals.val) r)
      (overflows : SkewOverflows r o.statement.predicate.certificateRef.verificationAt
        call.trustPolicy.skew)
  /-- A receipt's observer has to be compared with the receipt's time of issue. -/
  | receiptObserver {o : OpenedClosure} (compared : ClosureCompared P call o)
      {action : ActionCertificatePredicate}
      (handed : parseExternalActionCertificate P call.actionCertificateEnvelopeBytes o.actionResult
        o.statement.predicate.certificateRef call.trustPolicy o.now = .ok (some action, none))
      {statement : ExecutionReceiptStatement} {before after : List (Option TrustRoot)}
      {r : TrustRoot}
      (read : ReceiptRead P call.executionReceiptEnvelopeBytes o.receiptResult
        o.statement.predicate.receiptRef call.trustPolicy statement (before ++ some r :: after))
      (passed : ∀ r? ∈ before,
        receiptRootRejected statement.predicate call.trustPolicy o.now r? = .ok false)
      (entitled : receiptRootEntitled statement.predicate call.trustPolicy r)
      (overflows : SkewOverflows r statement.predicate.issuedAt call.trustPolicy.skew)
  /-- Every expected effect was attempted, and some attempts succeeded but not all. -/
  | mixed {b : BoundClosure} (bound : ClosureBound P call b) (mixed : b.reconciliation.Mixed)

/-! ## Everything else returns -/

/-- The call returned a result, or its input is one of those. -/
def Governed (P : Platform) (call : OutcomeCall) (out : ClosureOutcome) : Prop :=
  (∃ r, out = .ok r) ∨ EscapingInput P call

/-- A reason of a selection is one of UNKNOWN's. -/
theorem isUnknown_of_answer {predicate : OutcomeClosurePredicate} {policy : TrustPolicy}
    {parties : Parties} {now : UtcTime} {roots : List TrustRoot} {ids : List Str}
    {reason : OutcomeClosureVerificationReason}
    (h : qualifyingOutcomeObservers P roots predicate policy parties now = .ok (ids, some reason)) :
    isUnknownOutcomeReason reason := by
  simp only [qualifyingOutcomeObservers, Flow.finish_eq_ok, bind_eq_error, bind_eq_ok,
    Flow.returnIf_eq_error, Flow.returnIf_eq_ok, pure, Except.pure, Except.ok.injEq,
    Prod.mk.injEq, Option.some.injEq, reduceCtorEq, and_false, exists_false, or_false] at h
  rcases h with h | ⟨s, -, h⟩
  · obtain ⟨done, r, rest, s, -, -, h⟩ := foldlM_eq_error h
    obtain ⟨-, rfl⟩ : ids = [] ∧ reason = .producerSignerMismatch := by
      simpa using considerOutcomeObserver_answer h
    decide
  · rcases h with ⟨-, -, rfl⟩ | ⟨-, -, ⟨-, -, rfl⟩ | ⟨-, -, ⟨-, -, rfl⟩ | ⟨-, -, -, -, rfl⟩⟩⟩ <;>
      decide

theorem isUnknown_of_evidence {predicate : OutcomeClosurePredicate}
    {resolver : Option OutcomeEvidenceResolver} {now : UtcTime}
    {reason : OutcomeClosureVerificationReason}
    (h : resolveOutcomeEvidence P predicate resolver now = some reason) :
    isUnknownOutcomeReason reason := by
  simp only [resolveOutcomeEvidence] at h
  split_ifs at h
  · obtain rfl := Option.some.inj h
    decide
  · obtain rfl := Option.some.inj h
    decide
  · cases resolver with
    | none =>
      obtain rfl := Option.some.inj h
      decide
    | some resolve =>
      obtain ⟨digest, -, h⟩ := List.exists_of_findSome?_eq_some h
      unfold resolveDigest at h
      split at h
      · obtain rfl := Option.some.inj h
        decide
      · split_ifs at h
        obtain rfl := Option.some.inj h
        decide

section Returns

variable {ids : List Str} {reason unsafeReason unknownReason : OutcomeClosureVerificationReason}

theorem governed_leave (hreason : isUnknownOutcomeReason reason) (hlen : ids.length ≤ 16)
    (hnodup : ids.Nodup) : Governed P call (o.result P call .unknown reason ids false) :=
  .inl (unknownResult_total hreason hlen hnodup)

theorem governed_refuse (hset : unsafeReason ∈ unsafeOutcomeReasons)
    (hunknown : isUnknownOutcomeReason unknownReason) (hlen : ids.length ≤ 16)
    (hnodup : ids.Nodup) :
    Governed P call (o.refuse P call ids unsafeReason unknownReason) := by
  unfold OpenedClosure.refuse
  split_ifs
  · exact .inl (unsafeResult_total hset hlen hnodup)
  · exact governed_leave hunknown hlen hnodup

theorem governed_refuseHandoff (hset : unsafeReason ∈ unsafeOutcomeReasons)
    (hreason : isUnknownOutcomeReason reason) (hlen : ids.length ≤ 16) (hnodup : ids.Nodup) :
    Governed P call (o.refuseHandoff P call ids unknownReason unsafeReason reason) := by
  unfold OpenedClosure.refuseHandoff
  split_ifs
  · exact .inl (unsafeResult_total hset hlen hnodup)
  · exact governed_leave hreason hlen hnodup

end Returns

/-- The ids of an answer fit a result. -/
theorem observers_bounds {action : Option ActionCertificatePredicate}
    {receipt : Option ExecutionReceiptStatement} {answer : ObserverAnswer}
    (h : o.observers P call action receipt = .ok answer) :
    answer.1.length ≤ 16 ∧ answer.1.Nodup :=
  answer_bounds (fun _ hr => (mem_cryptographicallyVerifiedRoots.1 hr).1) h

variable {t : UtcTime}

/-- Reading the closure ends with a result or goes on. -/
theorem governed_openClosure (hnow : call.now = .ofUtc t) :
    Flow.Exits (Governed P call) (openClosure P call) := by
  have hleave {reason : OutcomeClosureVerificationReason} {payloadSha256 : Option Sha256Text}
      (hreason : isUnknownOutcomeReason reason) :
      Governed P call (outcomeResult .unknown [reason] (sha256Bytes P call.envelopeBytes)
        payloadSha256 [] false none) :=
    .inl (unknownResult_total hreason (by simp) List.nodup_nil)
  refine (exits_operatorValue (hleave (by decide))).bind fun _ _ => ?_
  refine (exits_operatorValue (hleave (by decide))).bind fun _ _ => ?_
  refine (exits_operatorValue (hleave (by decide))).bind fun _ _ => ?_
  refine (Flow.exits_orReturn (hleave (by decide))).bind fun _ _ => ?_
  refine (Flow.exits_orReturn (hleave (by decide))).bind fun _ _ => ?_
  refine (Flow.exits_orReturn (hleave (by decide))).bind fun _ _ => ?_
  refine (Flow.exits_tryElse (hleave (by decide)) fun e he _ => ?_).bind fun _ _ => ?_
  · have hok := parseWireTimestamp_eq_requireUtc.2 (requireUtc_ofUtc t "verification time")
    rw [hnow, hok] at he
    cases he
  refine (Flow.exits_returnIf fun _ => hleave (by decide)).bind fun _ _ => ?_
  refine (Flow.exits_tryElse (hleave (by decide)) fun e he hc => ?_).bind fun _ _ => ?_
  · exact absurd ⟨he, hc⟩ not_raises_openEnvelope
  refine (Flow.exits_returnIf fun _ => hleave (by decide)).bind fun _ _ => ?_
  refine (Flow.exits_returnIf fun _ => hleave (by decide)).bind fun _ _ => ?_
  refine (Flow.exits_tryElse (hleave (by decide)) fun e he hc => ?_).bind fun _ _ =>
    Flow.exits_ok _
  simp [parseJsonModel_error Decode.quiet_outcomeClosureStatement he] at hc

/-- A certificate whose parser raises makes an escaping input. -/
theorem escaping_of_certificate {e : PyErr} (hnow : o.now.Representable call.trustPolicy.skew)
    (hcompared : ClosureCompared P call o)
    (h : parseExternalActionCertificate P call.actionCertificateEnvelopeBytes o.actionResult
      o.statement.predicate.certificateRef call.trustPolicy o.now = .error e) :
    EscapingInput P call := by
  rcases parseExternalActionCertificate_eq_error.1 h with
    h | ⟨statement, issuers, approvals, hread, h | ⟨hissued, h⟩⟩
  · obtain ⟨haccepted, hreserved, envelope, hparse, herror, hvalue⟩ :=
      raises_readExternalActionCertificate.1 h
    cases e with
    | overflowError =>
      obtain ⟨⟨members, hstrict⟩, j, hj, hleaves⟩ := parseStatement_overflows.1 herror
      exact .certificate hcompared haccepted hreserved hparse hstrict hj hleaves
    | valueError m => cases hvalue
    | validationError => cases hvalue
  · obtain ⟨before, r, after, rfl, hpassed, hr⟩ := anyM_eq_error.1 h
    obtain ⟨-, hentitled, hover⟩ := (handoffRootRejected_eq_error hnow).1 hr
    exact .issuer hcompared hread hpassed hentitled hover
  · obtain ⟨before, r, after, rfl, hpassed, hr⟩ := anyM_eq_error.1 h
    obtain ⟨-, hentitled, hover⟩ := (handoffRootRejected_eq_error hnow).1 hr
    exact .approver hcompared hread (anyM_eq_false.1 hissued) hpassed hentitled hover

theorem escaping_of_receipt {e : PyErr} {action : ActionCertificatePredicate}
    (hnow : o.now.Representable call.trustPolicy.skew) (hcompared : ClosureCompared P call o)
    (hhanded : parseExternalActionCertificate P call.actionCertificateEnvelopeBytes o.actionResult
      o.statement.predicate.certificateRef call.trustPolicy o.now = .ok (some action, none))
    (h : parseExternalReceipt P call.executionReceiptEnvelopeBytes o.receiptResult
      o.statement.predicate.receiptRef call.trustPolicy o.now = .error e) :
    EscapingInput P call := by
  obtain ⟨statement, roots, hread, h⟩ := parseExternalReceipt_eq_error.1 h
  obtain ⟨before, r?, after, rfl, hpassed, hr⟩ := anyM_eq_error.1 h
  obtain ⟨-, r, rfl, hentitled, hover⟩ := (receiptRootRejected_eq_error hnow).1 hr
  exact .receiptObserver hcompared hhanded hread hpassed hentitled hover

/-- The comparisons end with a result or go on. -/
theorem governed_bindClosure (hnow : o.now.Representable call.trustPolicy.skew)
    (hopened : ClosureOpened P call o) : Flow.Exits (Governed P call) (bindClosure P call o) := by
  refine (Flow.exits_raising fun e he => ?_).bind fun answer hanswer => ?_
  · exact .inr (.observer hopened ((observerOverflows_iff hnow).1 he).2)
  obtain ⟨ids, reason?⟩ := answer
  have hanswer := Flow.raising_eq_ok.1 hanswer
  obtain ⟨hlen, hnodup⟩ := observers_bounds hanswer
  refine (Flow.exits_returnSome fun reason hreason => ?_).bind fun _ hnone => ?_
  · subst hreason
    exact governed_leave (isUnknown_of_answer hanswer) hlen hnodup
  obtain rfl := Flow.returnSome_eq_ok.1 hnone
  refine (Flow.exits_returnSome fun reason hreason => ?_).bind fun _ hevidence => ?_
  · exact governed_leave (isUnknown_of_evidence hreason) hlen hnodup
  have hevidence := Flow.returnSome_eq_ok.1 hevidence
  refine (Flow.exits_raising fun e he => ?_).bind fun binding hbinding => ?_
  · obtain ⟨binding, hok⟩ := expectedOutcomeBindingFor_total o.statement o.expected
    rw [hok] at he
    cases he
  refine (Flow.exits_returnIf fun _ => governed_refuse (by decide) (by decide) hlen hnodup).bind
    fun _ heq => ?_
  obtain rfl := not_not.1 (Flow.returnIf_eq_ok.1 heq)
  have hcompared : ClosureCompared P call o :=
    ⟨hopened, ⟨ids, hanswer⟩, hevidence, Flow.raising_eq_ok.1 hbinding⟩
  refine (Flow.exits_raising fun e he => .inr (escaping_of_certificate hnow hcompared he)).bind
    fun answer' haction => ?_
  obtain ⟨action?, reason?⟩ := answer'
  have haction := Flow.raising_eq_ok.1 haction
  refine (Flow.exits_returnSome fun reason hreason => ?_).bind fun _ hnone => ?_
  · subst hreason
    refine governed_refuseHandoff (by decide) ?_ hlen hnodup
    rcases parseExternalActionCertificate_cases haction with h | h | ⟨_, _, _, h, -⟩
    · obtain ⟨-, rfl⟩ := by simpa using h
      decide
    · obtain ⟨-, rfl⟩ := by simpa using h
      decide
    · simp at h
  obtain rfl := Flow.returnSome_eq_ok.1 hnone
  obtain ⟨action, rfl⟩ : ∃ action, action? = some action := by
    rcases parseExternalActionCertificate_cases haction with h | h | ⟨statement, _, _, h, -⟩
    · simp at h
    · simp at h
    · exact ⟨statement.predicate, (Prod.mk.inj h).1⟩
  refine (Flow.exits_raising fun e he =>
    .inr (escaping_of_receipt hnow hcompared haction he)).bind fun answer' hreceipt => ?_
  obtain ⟨receipt?, reason?⟩ := answer'
  have hreceipt := Flow.raising_eq_ok.1 hreceipt
  refine (Flow.exits_returnSome fun reason hreason => ?_).bind fun _ _ => ?_
  · subst hreason
    refine governed_refuseHandoff (by decide) ?_ hlen hnodup
    rcases parseExternalReceipt_cases hreceipt with h | h | ⟨_, _, h, -⟩
    · obtain ⟨-, rfl⟩ := by simpa using h
      decide
    · obtain ⟨-, rfl⟩ := by simpa using h
      decide
    · simp at h
  refine (Flow.exits_orReturn (governed_leave (by decide) hlen hnodup)).bind fun _ _ => ?_
  refine (Flow.exits_orReturn (governed_leave (by decide) hlen hnodup)).bind fun _ _ => ?_
  refine (Flow.exits_raising fun e he => ?_).bind fun answer' hanswer' => ?_
  · -- the first pass compared every entitled root with the same time
    exact absurd ((observerOverflows_iff hnow).1 he).2
      (not_observerOverflows_of_answer hnow hanswer _)
  obtain ⟨ids', reason?⟩ := answer'
  have hanswer' := Flow.raising_eq_ok.1 hanswer'
  obtain ⟨hlen', hnodup'⟩ := observers_bounds hanswer'
  refine (Flow.exits_returnSome fun reason hreason => ?_).bind fun _ _ => ?_
  · subst hreason
    exact governed_leave (isUnknown_of_answer hanswer') hlen' hnodup'
  refine (Flow.exits_returnIf fun _ => governed_refuse (by decide) (by decide) hlen' hnodup').bind
    fun _ _ => ?_
  exact (Flow.exits_returnIf fun _ => governed_refuse (by decide) (by decide) hlen' hnodup').bind
    fun _ _ => Flow.exits_ok _

/-- From the index's answer on, a result is built. -/
theorem conclude_total {verdict : OutcomeVerdict} (hverdict : verdict = .pass ∨ verdict = .fail)
    (hbound : ClosureBound P call b) (status : OutcomeIndexStatus) :
    ∃ r, b.conclude P call verdict status = .ok r := by
  obtain ⟨hlen, hnodup, -⟩ := observerRoots_bounds hbound.observers
  cases status with
  | appended =>
    obtain ⟨r, hr, -⟩ := conclude_records hverdict (.inl rfl) hbound.observers
    exact ⟨r, hr⟩
  | alreadyPresent =>
    obtain ⟨r, hr, -⟩ := conclude_records hverdict (.inr rfl) hbound.observers
    exact ⟨r, hr⟩
  | _ => exact unknownResult_total (by decide) hlen hnodup

section Call

variable {σ : Type} {outcomeIndex : OutcomeClosureIndex σ} {index : σ}

/-- A call returns a result or its input is an escaping one. -/
theorem governed_verifyOutcomeClosure (hnow : call.now = .ofUtc t)
    (ht : t.Representable call.trustPolicy.skew) :
    Governed P call (verifyOutcomeClosure P call outcomeIndex index).1 := by
  cases hopen : openClosure P call with
  | error out =>
    have hverify : (verifyOutcomeClosure P call outcomeIndex index).1 = out := by
      simp [verifyOutcomeClosure, deriveOutcome, reachReconciliation, hopen, bind, Except.bind]
    rw [hverify]
    exact governed_openClosure hnow out hopen
  | ok o =>
    have hopened := openClosure_eq_ok.1 hopen
    have htime : o.now = t := by
      have h := hopened.time
      rw [hnow, requireUtc_ofUtc] at h
      exact (Except.ok.inj h).symm
    cases hbind : bindClosure P call o with
    | error out =>
      have hverify : (verifyOutcomeClosure P call outcomeIndex index).1 = out := by
        simp [verifyOutcomeClosure, deriveOutcome, reachReconciliation, hopen, hbind, bind,
          Except.bind]
      rw [hverify]
      exact governed_bindClosure (htime ▸ ht) hopened out hbind
    | ok b =>
      have hbound : ClosureBound P call b := by
        rw [← reachReconciliation_eq_ok, reachReconciliation, hopen, ok_bind, hbind]
      rw [verifyOutcomeClosure_of_bound hbound]
      obtain ⟨hlen, hnodup, -⟩ := observerRoots_bounds hbound.observers
      rcases b.reconcile_cases P call with
        ⟨-, heq⟩ | ⟨-, heq⟩ | ⟨hmixed, -⟩ | ⟨-, -, -, out, heq, hout⟩
      · rw [heq]
        exact .inl (conclude_total (.inl rfl) hbound _)
      · rw [heq]
        exact .inl (conclude_total (.inr rfl) hbound _)
      · exact .inr (.mixed hbound hmixed)
      · rw [heq]
        rcases hout with ⟨-, reason, hreason, rfl⟩ | ⟨-, reason, hreason, rfl⟩
        · exact .inl (unsafeResult_total hreason hlen hnodup)
        · exact .inl (unknownResult_total hreason hlen hnodup)

/-! ## Nothing else does -/

/-- An exception of the comparisons leaves the verifier. -/
theorem verify_eq_error_of_raises {e : PyErr} (hopened : ClosureOpened P call o)
    (h : Flow.Raises (bindClosure P call o) e) :
    (verifyOutcomeClosure P call outcomeIndex index).1 = .error e := by
  have h : bindClosure P call o = .error (.error e) := h
  simp [verifyOutcomeClosure, deriveOutcome, reachReconciliation, openClosure_eq_ok.2 hopened, h,
    bind, Except.bind]

theorem raises_of_observers {e : PyErr} (h : o.observers P call none none = .error e) :
    Flow.Raises (bindClosure P call o) e := by
  refine Flow.raises_bind.2 (.inl ?_)
  exact Flow.raises_raising.2 h

theorem raises_of_certificate {e : PyErr} (hcompared : ClosureCompared P call o)
    (h : parseExternalActionCertificate P call.actionCertificateEnvelopeBytes o.actionResult
      o.statement.predicate.certificateRef call.trustPolicy o.now = .error e) :
    Flow.Raises (bindClosure P call o) e := by
  obtain ⟨-, ⟨ids, hobserved⟩, hevidence, hbinding⟩ := hcompared
  simp [Flow.Raises, bindClosure, hobserved, hevidence, hbinding, h, Flow.raising, Flow.returnSome,
    Flow.returnIf, bind, Except.bind]

theorem raises_of_receipt {e : PyErr} {action : ActionCertificatePredicate}
    (hcompared : ClosureCompared P call o)
    (hhanded : parseExternalActionCertificate P call.actionCertificateEnvelopeBytes o.actionResult
      o.statement.predicate.certificateRef call.trustPolicy o.now = .ok (some action, none))
    (h : parseExternalReceipt P call.executionReceiptEnvelopeBytes o.receiptResult
      o.statement.predicate.receiptRef call.trustPolicy o.now = .error e) :
    Flow.Raises (bindClosure P call o) e := by
  obtain ⟨-, ⟨ids, hobserved⟩, hevidence, hbinding⟩ := hcompared
  simp [Flow.Raises, bindClosure, hobserved, hevidence, hbinding, hhanded, h, Flow.raising,
    Flow.returnSome, Flow.returnIf, bind, Except.bind]

/-- An escaping input escapes. -/
theorem verify_ne_ok_of_escaping (hnow : call.now = .ofUtc t)
    (ht : t.Representable call.trustPolicy.skew) (h : EscapingInput P call)
    (result : OutcomeClosureVerificationResult) :
    (verifyOutcomeClosure P call outcomeIndex index).1 ≠ .ok result := by
  have hrep {o : OpenedClosure} (hopened : ClosureOpened P call o) :
      o.now.Representable call.trustPolicy.skew := by
    have h := hopened.time
    rw [hnow, requireUtc_ofUtc] at h
    obtain rfl := Except.ok.inj h
    exact ht
  have hraised {o : OpenedClosure} (hopened : ClosureOpened P call o)
      (h : Flow.Raises (bindClosure P call o) .overflowError) :
      (verifyOutcomeClosure P call outcomeIndex index).1 ≠ .ok result := by
    rw [verify_eq_error_of_raises hopened h]
    exact nofun
  cases h with
  | observer hopened hover =>
    exact hraised hopened
      (raises_of_observers ((observerOverflows_iff (hrep hopened)).2 ⟨rfl, hover⟩))
  | certificate hcompared haccepted hreserved hparse hstrict hj hleaves =>
    have hover := parseStatement_overflows.2 ⟨⟨_, hstrict⟩, _, hj, hleaves⟩
    refine hraised hcompared.opened (raises_of_certificate hcompared
      (parseExternalActionCertificate_eq_error.2 (.inl ?_)))
    exact raises_readExternalActionCertificate.2 ⟨haccepted, hreserved, _, hparse, hover, rfl⟩
  | issuer hcompared hread hpassed hentitled hover =>
    refine hraised hcompared.opened (raises_of_certificate hcompared
      (parseExternalActionCertificate_eq_error.2 (.inr ⟨_, _, _, hread, .inl ?_⟩)))
    exact anyM_eq_error.2 ⟨_, _, _, rfl, hpassed,
      (handoffRootRejected_eq_error (hrep hcompared.opened)).2 ⟨rfl, hentitled, hover⟩⟩
  | approver hcompared hread hissued hpassed hentitled hover =>
    refine hraised hcompared.opened (raises_of_certificate hcompared
      (parseExternalActionCertificate_eq_error.2
        (.inr ⟨_, _, _, hread, .inr ⟨anyM_eq_false.2 hissued, ?_⟩⟩)))
    exact anyM_eq_error.2 ⟨_, _, _, rfl, hpassed,
      (handoffRootRejected_eq_error (hrep hcompared.opened)).2 ⟨rfl, hentitled, hover⟩⟩
  | receiptObserver hcompared hhanded hread hpassed hentitled hover =>
    refine hraised hcompared.opened (raises_of_receipt hcompared hhanded
      (parseExternalReceipt_eq_error.2 ⟨_, _, hread, ?_⟩))
    exact anyM_eq_error.2 ⟨_, _, _, rfl, hpassed,
      (receiptRootRejected_eq_error (hrep hcompared.opened)).2 ⟨rfl, _, rfl, hentitled, hover⟩⟩
  | @mixed b hbound hmixed =>
    rw [verifyOutcomeClosure_of_bound hbound]
    rcases b.reconcile_cases P call with ⟨hs, -⟩ | ⟨hf, -⟩ | ⟨-, heq⟩ | ⟨-, -, hnot, -⟩
    · exact absurd (.inl hs) hmixed.not_uniform
    · exact absurd (.inr hf) hmixed.not_uniform
    · rw [heq]
      exact unsafeTerminalInvalid_ne_ok result
    · exact absurd hmixed hnot

/-- The verifier returns a result with closed semantics exactly on the inputs that do not escape. -/
theorem verifyOutcomeClosure_total_iff (hnow : call.now = .ofUtc t)
    (ht : t.Representable call.trustPolicy.skew) :
    (∃ result, (verifyOutcomeClosure P call outcomeIndex index).1 = .ok result ∧
        result.SemanticsClosed) ↔ ¬ EscapingInput P call := by
  constructor
  · rintro ⟨result, hok, -⟩ hescaping
    exact verify_ne_ok_of_escaping hnow ht hescaping result hok
  · intro hnot
    rcases governed_verifyOutcomeClosure hnow ht with ⟨result, hok⟩ | hescaping
    · exact ⟨result, hok, result.semanticsClosed⟩
    · exact absurd hescaping hnot

end Call

namespace Sample

def lateMembers : List (Str × Canon) := closureMembers "closure-late" "9999-12-31T23:59:59Z"

def latePayload : Bytes := canonicalJson (.obj lateMembers)

set_option maxRecDepth 100000 in
theorem length_latePayload : latePayload.length = 2574 := by decide +kernel

/-- The last second of the calendar. -/
def lastSecond : UtcTime := ⟨315537897599000000, by decide⟩

/-- A closure that states the last second of the calendar as its time of issue. -/
def lateStatement : OutcomeClosureStatement := closureOf (ident "closure-late") lastSecond

set_option maxRecDepth 100000 in
theorem parse_latePayload (label : String) :
    parseJsonModel platform Decode.outcomeClosureStatement latePayload label =
      .ok lateStatement :=
  parseJsonModel_canonicalJson readsText_platform (by decide +kernel) (by decide +kernel)
    (by decide +kernel)

def lateParts : EnvelopeParts where
  payload := latePayload
  signatures := [lateClosureSignature]
  payload_length := by rw [length_latePayload]; decide
  signatures_length := by decide

theorem length_lateParts : lateParts.bytes.length = 3605 := by
  have hparts := lateParts.length_bytes
  have hpayload : lateParts.payload.length = 2574 := length_latePayload
  have hcount : lateParts.signatures.length = 1 := rfl
  omega

/-- The policy with a skew of five minutes. -/
def skewedPolicy : TrustPolicy where
  toTrustPolicyFields :=
    { observedPolicy.toTrustPolicyFields with maxClockSkewSeconds := ⟨300, by decide⟩ }
  valid := by decide +kernel

def lateCall : OutcomeCall :=
  { closureCall with envelopeBytes := lateParts.bytes, trustPolicy := skewedPolicy }

def lateClosure : OpenedClosure where
  expected := closureBinding
  actionResult := acceptedResult
  receiptResult := acceptedReceipt
  now := minute 37
  envelope := lateParts.envelope
  payload := latePayload
  statement := lateStatement

set_option maxRecDepth 100000 in
theorem verified_lateParts : cryptographicallyVerifiedRoots platform lateParts.envelope
    latePayload skewedPolicy.roots.val = [auditorRoot] := by
  decide

theorem opened_late : ClosureOpened platform lateCall lateClosure where
  expected := .inr ⟨rfl, rfl⟩
  actionResult := .inr ⟨rfl, rfl⟩
  receiptResult := .inr ⟨rfl, rfl⟩
  time := requireUtc_ofUtc _ _
  envelope_bounded := length_lateParts.le.trans (by decide)
  envelope_parsed := (openEnvelope_eq_ok (lateParts.openEnvelope_bytes readsText_platform
    (by decide) "OutcomeClosure DSSE envelope" "OutcomeClosure payload")).1
  payload_eq := (openEnvelope_eq_ok (lateParts.openEnvelope_bytes readsText_platform
    (by decide) "OutcomeClosure DSSE envelope" "OutcomeClosure payload")).2
  payload_bounded := length_latePayload.le.trans (by decide)
  verified := fun hnil => List.cons_ne_nil _ _ (verified_lateParts.symm.trans hnil)
  statement_parsed := parse_latePayload _

set_option maxRecDepth 100000 in
theorem auditorRoot_overflows :
    observesOutcomes lateStatement.predicate skewedPolicy auditorRoot ∧
    auditorRoot.principalId.val ∈ lateStatement.predicate.producer.observerPrincipals.val ∧
    ¬ selfObserves platform (outcomeParties platform lateStatement.predicate skewedPolicy none none
      acceptedResult acceptedReceipt closureBinding) auditorRoot ∧
    SkewOverflows auditorRoot lateStatement.predicate.issuedAt skewedPolicy.skew := by
  decide

theorem escaping_late : EscapingInput platform lateCall := by
  obtain ⟨hobserves, hdeclared, hindependent, hover⟩ := auditorRoot_overflows
  exact .observer opened_late
    ⟨[], auditorRoot, [], verified_lateParts, by simp, hobserves, hdeclared, hindependent, hover⟩

end Sample

/-- A closure dated at the end of the calendar makes the verifier raise. -/
theorem sample_total_violated : ¬ ∃ result, (verifyOutcomeClosure Sample.platform Sample.lateCall
    InMemoryOutcomeClosureIndex.protocol Sample.closureIndex).1 = .ok result := by
  rintro ⟨result, hok⟩
  exact verify_ne_ok_of_escaping rfl (by decide) Sample.escaping_late result hok

/-- The sample closure returns a result, so its input does not escape. -/
theorem sample_total_iff : ¬ EscapingInput Sample.platform Sample.closureCall :=
  (verifyOutcomeClosure_total_iff rfl (by decide)).1
    ⟨_, Sample.verify_closureCall, Sample.recordedClosure.semanticsClosed⟩

end ProofFlow
