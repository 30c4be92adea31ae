import ProofFlow.Certificate.Noise
import ProofFlow.Certificate.Runs

/-!
# Certificates that cannot be refused

The certificate verifier is meant to fail closed: whatever bytes it is given, it returns a result.
It does so except where a record of the signed payload is well formed but for a time with a numeric
offset whose UTC instant lies outside the calendar: its validator converts the time with
`astimezone`, which raises `OverflowError`, and only `ValueError` is turned into a rejection.
-/

namespace ProofFlow

open Kit

/-! ## Times that cannot be converted -/

/-- The value is aware, and its UTC instant lies outside the calendar. -/
def DateTime.LeavesCalendar (t : DateTime) : Prop :=
  t.utcoffset.isSome = true ∧ (t.instant < 0 ∨ (maxMicros : ℤ) < t.instant)

theorem DateTime.astimezoneUtc_eq_error {t : DateTime} {e : PyErr} :
    t.astimezoneUtc = .error e ↔
      e = .overflowError ∧ (t.instant < 0 ∨ (maxMicros : ℤ) < t.instant) := by
  unfold DateTime.astimezoneUtc
  split_ifs with h
  · simp only [false_iff, not_and]
    omega
  · simp only [Except.error.injEq, eq_comm, iff_self_and]
    omega

/-- Normalization is quiet on every value inside the calendar, and on naive ones. -/
theorem onlyValueErrors_requireAware {t : DateTime} {label : String} :
    OnlyValueErrors (requireAware t label) ↔ ¬ t.LeavesCalendar := by
  unfold requireAware DateTime.LeavesCalendar
  cases ho : t.utcoffset with
  | none =>
    simp only [Option.isSome_none, Bool.false_eq_true, false_and, not_false_iff, iff_true]
    rintro e ⟨⟩
    rfl
  | some o =>
    simp only [Option.isSome_some, true_and]
    constructor
    · intro h hleaves
      have hvalue := h _ (DateTime.astimezoneUtc_eq_error.2 ⟨rfl, hleaves⟩)
      cases hvalue
    · intro hstays e he
      exact absurd (DateTime.astimezoneUtc_eq_error.1 he).2 hstays

/-- Of the times, normalized one after the other, one leaves the calendar before a naive one ends
the row with a `ValueError`. -/
def TimesLeaveCalendar : List DateTime → Prop
  | [] => False
  | t :: l => t.LeavesCalendar ∨ (t.utcoffset.isSome = true ∧ TimesLeaveCalendar l)

/-- A validator that normalizes a time and goes on. -/
theorem onlyValueErrors_requireAware_bind {α : Type} {t : DateTime} {label : String}
    {f : UtcTime → Except PyErr α} {l : List DateTime}
    (hf : ∀ u, OnlyValueErrors (f u) ↔ ¬ TimesLeaveCalendar l) :
    OnlyValueErrors (requireAware t label >>= f) ↔ ¬ TimesLeaveCalendar (t :: l) := by
  unfold TimesLeaveCalendar
  cases ht : requireAware t label with
  | ok u =>
    have hquiet : OnlyValueErrors (requireAware t label) := by
      rw [ht]
      exact onlyValueErrors_ok u
    have hstays := onlyValueErrors_requireAware.1 hquiet
    have haware : t.utcoffset.isSome = true := by
      cases ho : t.utcoffset with
      | none => simp [requireAware, ho] at ht
      | some o => rfl
    rw [ok_bind, hf]
    tauto
  | error e =>
    have hbind :
        OnlyValueErrors (Except.error e >>= f) ↔ OnlyValueErrors (requireAware t label) := by
      rw [ht]
      exact ⟨fun h e' he' => h e' (Except.error.inj he' ▸ rfl),
        fun h e' he' => h e' (Except.error.inj he' ▸ rfl)⟩
    rw [hbind, onlyValueErrors_requireAware]
    -- a time that is refused leaves the calendar or is naive
    cases ho : t.utcoffset with
    | none => simp
    | some o =>
      have hleaves : t.LeavesCalendar := by
        simp only [requireAware, ho] at ht
        exact ⟨by simp [ho], (DateTime.astimezoneUtc_eq_error.1 ht).2⟩
      tauto

theorem onlyValueErrors_bind_raiseIf {α : Type} {c : Prop} [Decidable c] {message : String}
    {f : Unit → Except PyErr α} :
    OnlyValueErrors (raiseIf c message >>= f) ↔ (¬ c → OnlyValueErrors (f ())) := by
  unfold raiseIf
  by_cases hc : c
  · rw [if_pos hc]
    refine iff_of_true ?_ (absurd hc)
    rintro _ ⟨⟩
    rfl
  · rw [if_neg hc, ok_bind]
    tauto

/-! ## Records with such a time -/

def PolicyBindingFields.LeavesCalendar (b : PolicyBindingFields) : Prop :=
  TimesLeaveCalendar [b.evaluatedAt, b.expiresAt]

/-- The time of an approval is normalized only when the approval is required and complete. -/
structure ApprovalBindingFields.LeavesCalendar (b : ApprovalBindingFields) : Prop where
  approvers_nodup : b.approverPrincipals.val.Nodup
  approvers_valid : ¬ ∃ p ∈ b.approverPrincipals.val, p = [] ∨ 128 < p.length
  required : b.required = true
  approvalId_present : b.approvalId ≠ none
  scope_present : b.scopeSha256 ≠ none
  approvers_ne_nil : b.approverPrincipals.val ≠ []
  expiresAt : ∃ t ∈ b.expiresAt, t.LeavesCalendar

def ActionCertificatePredicateFields.LeavesCalendar (p : ActionCertificatePredicateFields) : Prop :=
  TimesLeaveCalendar [p.issuedAt, p.notBefore, p.expiresAt]

theorem onlyValueErrors_policyBinding {b : PolicyBindingFields} :
    OnlyValueErrors b.validate ↔ ¬ b.LeavesCalendar := by
  refine onlyValueErrors_requireAware_bind fun evaluated => ?_
  refine onlyValueErrors_requireAware_bind fun expires => ?_
  exact iff_of_true onlyValueErrors_raiseIf id

theorem onlyValueErrors_approvalBinding {b : ApprovalBindingFields} :
    OnlyValueErrors b.validate ↔ ¬ b.LeavesCalendar := by
  unfold ApprovalBindingFields.validate
  rw [onlyValueErrors_bind_raiseIf, onlyValueErrors_bind_raiseIf]
  cases hreq : b.required with
  | false =>
    refine iff_of_true (fun _ _ => onlyValueErrors_raiseIf) fun h => ?_
    have htrue := h.required
    rw [hreq] at htrue
    cases htrue
  | true =>
    rw [if_pos rfl]
    split
    · next approvalId scope approver approvers t hid hscope happrovers hexpires =>
      have htime : OnlyValueErrors (requireAware t "approval expires_at" >>= fun _ => pure ()) ↔
          ¬ TimesLeaveCalendar [t] :=
        onlyValueErrors_requireAware_bind fun _ => iff_of_true (onlyValueErrors_ok _) id
      rw [htime]
      have hleaves : TimesLeaveCalendar [t] ↔ t.LeavesCalendar := by simp [TimesLeaveCalendar]
      rw [hleaves]
      constructor
      · intro h hb
        obtain ⟨t', ht', hleaves'⟩ := hb.expiresAt
        obtain rfl : t = t' := Option.some.inj (hexpires.symm.trans ht')
        exact h (not_not.2 hb.approvers_nodup) hb.approvers_valid hleaves'
      · intro h hnodup hvalid ht
        exact h ⟨not_not.1 hnodup, hvalid, hreq, by simp [hid], by simp [hscope],
          by simp [happrovers], t, hexpires, ht⟩
    · next hincomplete =>
      refine iff_of_true (fun _ _ e he => ?_) fun h => ?_
      · obtain rfl := Except.error.inj he
        rfl
      · obtain ⟨t, ht, -⟩ := h.expiresAt
        obtain ⟨id, hid⟩ := Option.ne_none_iff_exists'.1 h.approvalId_present
        obtain ⟨scope, hscope⟩ := Option.ne_none_iff_exists'.1 h.scope_present
        obtain ⟨approver, approvers, happrovers⟩ := List.exists_cons_of_ne_nil h.approvers_ne_nil
        exact hincomplete id scope approver approvers t hid hscope happrovers ht

theorem onlyValueErrors_predicate {p : ActionCertificatePredicateFields} :
    OnlyValueErrors p.validate ↔ ¬ p.LeavesCalendar := by
  refine onlyValueErrors_requireAware_bind fun issued => ?_
  refine onlyValueErrors_requireAware_bind fun notBefore => ?_
  refine onlyValueErrors_requireAware_bind fun expires => ?_
  refine iff_of_true ?_ id
  simp only [onlyValueErrors_bind_raiseIf]
  intros
  split
  · exact onlyValueErrors_raiseIf
  · simp

/-! ## Decoders that raise -/

namespace Decode

variable {P : Platform} {j : Json Str}

/-- The member of an object. -/
def member? (j : Json Str) (key : String) : Option (Json Str) :=
  match j with
  | .obj members => members.lookup (lit key)
  | _ => none

/-- A record of the signed statement is well formed, but for a time that leaves the calendar. -/
inductive StatementLeavesCalendar (P : Platform) (j : Json Str) : Prop
  | policy {predicate policy : Json Str} {b : PolicyBindingFields}
      (predicate_member : member? j "predicate" = some predicate)
      (policy_member : member? predicate "policy" = some policy)
      (fields : policyBindingFields P policy = .ok b) (leaves : b.LeavesCalendar)
  | approval {predicate approval : Json Str} {b : ApprovalBindingFields}
      (predicate_member : member? j "predicate" = some predicate)
      (approval_member : member? predicate "approval" = some approval)
      (fields : approvalBindingFields P approval = .ok b) (leaves : b.LeavesCalendar)
  | predicate {predicate : Json Str} {p : ActionCertificatePredicateFields}
      (predicate_member : member? j "predicate" = some predicate)
      (fields : actionCertificatePredicateFields P predicate = .ok p) (leaves : p.LeavesCalendar)

@[simp] theorem quiet_delegationHop : (delegationHop j).Quiet := by
  refine quiet_modelAfter (fun o => ?_) fun h => onlyValueErrors_raiseIf
  simp [identifier, sha256]

@[simp] theorem quiet_policyBindingFields : (policyBindingFields P j).Quiet := by
  refine quiet_model fun o => ?_
  simp [identifier, text, sha256]

@[simp] theorem quiet_approvalBindingFields : (approvalBindingFields P j).Quiet := by
  refine quiet_model fun o => ?_
  simp [identifier, sha256]

@[simp] theorem quiet_subjectBinding : (subjectBinding j).Quiet := by
  refine quiet_model fun o => ?_
  simp [text, sha256]

@[simp] theorem quiet_actionBinding : (actionBinding j).Quiet := by
  refine quiet_model fun o => ?_
  simp [text, sha256]

@[simp] theorem quiet_resourceBinding : (resourceBinding j).Quiet := by
  refine quiet_model fun o => ?_
  simp [text, sha256]

@[simp] theorem quiet_contextBinding : (contextBinding j).Quiet := by
  refine quiet_model fun o => ?_
  simp [identifier, text, sha256]

@[simp] theorem quiet_effectBinding : (effectBinding j).Quiet := by
  refine quiet_model fun o => ?_
  simp [identifier, text, sha256]

theorem quiet_policyBinding : (policyBinding P j).Quiet ↔
    ∀ b, policyBindingFields P j = .ok b → ¬ b.LeavesCalendar := by
  simp only [policyBinding, quiet_after_iff, quiet_policyBindingFields, true_and,
    onlyValueErrors_policyBinding]

theorem quiet_approvalBinding : (approvalBinding P j).Quiet ↔
    ∀ b, approvalBindingFields P j = .ok b → ¬ b.LeavesCalendar := by
  simp only [approvalBinding, quiet_after_iff, quiet_approvalBindingFields, true_and,
    onlyValueErrors_approvalBinding]

/-- Beside the policy and the approval, no field of the predicate raises. -/
theorem quiet_predicateFields : (actionCertificatePredicateFields P j).Quiet ↔
    (∀ policy, member? j "policy" = some policy → (policyBinding P policy).Quiet) ∧
      ∀ approval, member? j "approval" = some approval → (approvalBinding P approval).Quiet := by
  cases j with
  | obj members =>
    simp [actionCertificatePredicateFields, model, member?, quiet_field_iff, identifier, text,
      dataClassification]
  | _ => simp [actionCertificatePredicateFields, model, member?]

theorem quiet_predicate : (actionCertificatePredicate P j).Quiet ↔
    (actionCertificatePredicateFields P j).Quiet ∧
      ∀ p, actionCertificatePredicateFields P j = .ok p → ¬ p.LeavesCalendar := by
  simp only [actionCertificatePredicate, quiet_after_iff, onlyValueErrors_predicate]

theorem quiet_statement_of_predicate : (actionCertificateStatement P j).Quiet ↔
    ∀ predicate, member? j "predicate" = some predicate →
      (actionCertificatePredicate P predicate).Quiet := by
  have hvalidate (s : ActionCertificateStatementFields) : OnlyValueErrors s.validate :=
    onlyValueErrors_raiseIf
  cases j with
  | obj members =>
    simp [actionCertificateStatement, modelAfter, quiet_after_iff, model, member?, quiet_field_iff,
      hvalidate]
  | _ => simp [actionCertificateStatement, modelAfter, quiet_after_iff, model, member?]

/-- The decoder of statements raises exactly on the statements with such a time. -/
theorem quiet_statement :
    (actionCertificateStatement P j).Quiet ↔ ¬ StatementLeavesCalendar P j := by
  rw [quiet_statement_of_predicate]
  simp only [quiet_predicate, quiet_predicateFields, quiet_policyBinding, quiet_approvalBinding]
  constructor
  · intro h hleaves
    cases hleaves with
    | policy hpredicate hpolicy hfields hb => exact (h _ hpredicate).1.1 _ hpolicy _ hfields hb
    | approval hpredicate happroval hfields hb =>
      exact (h _ hpredicate).1.2 _ happroval _ hfields hb
    | predicate hpredicate hfields hp => exact (h _ hpredicate).2 _ hfields hp
  · intro h predicate hpredicate
    refine ⟨⟨?_, ?_⟩, ?_⟩
    · exact fun policy hpolicy b hfields hb => h (.policy hpredicate hpolicy hfields hb)
    · exact fun approval happroval b hfields hb => h (.approval hpredicate happroval hfields hb)
    · exact fun p hfields hp => h (.predicate hpredicate hfields hp)

theorem uncaught_of_quiet {α : Type} {x : Validation PyErr α} (h : x.Quiet) : Uncaught x :=
  h.raisesOnly

theorem uncaught_seq {α β : Type} {f : Validation PyErr (α → β)} {x : Validation PyErr α}
    (hf : Uncaught f) (hx : Uncaught x) : Uncaught (f <*> x) :=
  Validation.RaisesOnly.seq hf hx

theorem uncaught_predicate : Uncaught (actionCertificatePredicate P j) := by
  have hpolicy (j : Json Str) : Uncaught (policyBinding P j) :=
    uncaught_after (uncaught_of_quiet quiet_policyBindingFields)
  have happroval (j : Json Str) : Uncaught (approvalBinding P j) :=
    uncaught_after (uncaught_of_quiet quiet_approvalBindingFields)
  refine uncaught_after (uncaught_model fun o => ?_)
  -- the fields after the approval, the approval, the policy, and the fields before it
  refine uncaught_seq (uncaught_seq (uncaught_seq (uncaught_seq (uncaught_seq (uncaught_seq
    (uncaught_seq (uncaught_of_quiet ?_) (uncaught_field hpolicy)) (uncaught_field happroval))
    (uncaught_of_quiet ?_)) (uncaught_of_quiet ?_)) (uncaught_of_quiet ?_))
    (uncaught_of_quiet ?_)) (uncaught_of_quiet ?_)
  · simp [identifier, text, dataClassification]
  · simp
  · simp [identifier]
  · simp
  · simp
  · simp

/-- What the decoder of statements raises is not a `ValueError`. -/
theorem uncaught_statement : Uncaught (actionCertificateStatement P j) := by
  refine uncaught_after (uncaught_model fun o => ?_)
  refine uncaught_seq (uncaught_of_quiet ?_) (uncaught_field fun _ => uncaught_predicate)
  simp

end Decode

/-- The parser of statements raises exactly on a text that both parsers accept and of which one
record is well formed but for a time that leaves the calendar. -/
theorem parseStatement_overflows {P : Platform} {payload : Bytes} {label : String} :
    parseJsonModel P (Decode.actionCertificateStatement P) payload label = .error .overflowError ↔
      (∃ members, strictJsonObject P payload label = .ok members) ∧
        ∃ j, P.jiter payload = some j ∧ Decode.StatementLeavesCalendar P j := by
  rw [parseJsonModel_escapes rfl]
  refine and_congr_right fun _ => exists_congr fun j => and_congr_right fun _ => ?_
  rw [← not_iff_not, ← Decode.quiet_statement]
  constructor
  · intro h e he
    have huncaught := Decode.uncaught_statement e he
    cases e with
    | overflowError => exact h he
    | valueError m => cases huncaught
    | validationError => cases huncaught
  · exact fun h he => h _ he

/-! ## The verifier on any ledger -/

/-- A replay ledger as the verifier sees it; no answer stands for an exception. -/
structure ReplayLedger (σ : Type) where
  reserveOnce : σ → Reservation → Option ReservationStatus × σ

/-- `InMemoryReplayLedger` raises nothing. -/
def InMemoryReplayLedger.protocol : ReplayLedger InMemoryReplayLedger where
  reserveOnce l r := (some (l.reserveOnce r).1, (l.reserveOnce r).2)

/-- `verify_action_certificate`; a ledger that raises counts as unavailable. -/
def verifyActionCertificateOn {σ : Type} (P : Platform) (call : CertificateCall)
    (replayLedger : ReplayLedger σ) (ledger : σ) : CertificateOutcome × σ :=
  match authorize P call with
  | .error out => (out, ledger)
  | .ok a =>
    let (answer, ledger) := replayLedger.reserveOnce ledger (a.reservation P)
    (a.conclude P (answer.getD .unavailable), ledger)

theorem verifyActionCertificateOn_protocol (P : Platform) (call : CertificateCall)
    (ledger : InMemoryReplayLedger) :
    verifyActionCertificateOn P call InMemoryReplayLedger.protocol ledger =
      verifyActionCertificate P call ledger := by
  unfold verifyActionCertificateOn verifyActionCertificate
  cases authorize P call <;> rfl

/-! ## Calls that return -/

/-- The call returned a result. -/
def CertificateReturned (out : CertificateOutcome) : Prop := ∃ r, out = .ok r

section Returns

variable {P : Platform} {call : CertificateCall} {now : UtcTime}

/-- A reason that the status admits. -/
def admits : VerificationStatus → VerificationReason → Prop
  | .accept, reason => reason = .accepted
  | .reject, reason => reason ∈ rejectVerificationReasons
  | .unknown, reason => reason ∈ unknownVerificationReasons

instance : (status : VerificationStatus) → (reason : VerificationReason) →
    Decidable (admits status reason)
  | .accept, _ => inferInstanceAs (Decidable (_ = _))
  | .reject, _ => inferInstanceAs (Decidable (_ ∈ _))
  | .unknown, _ => inferInstanceAs (Decidable (_ ∈ _))

/-- A refusal with reasons its status admits is built. -/
theorem returned_leave {status : VerificationStatus} {reasons : List VerificationReason}
    {certificateId : Option Identifier} {payloadSha256 : Option Sha256Text}
    {issuerRoots approvalRoots : List TrustRoot} (hstatus : status ≠ .accept)
    (hreasons : 1 ≤ reasons.eraseDups.length ∧ reasons.eraseDups.length ≤ 16)
    (hnodup : reasons.eraseDups.Nodup) (hadmits : ∀ reason ∈ reasons, admits status reason)
    (hissuers : issuerRoots.length ≤ 16) (happrovals : approvalRoots.length ≤ 16) :
    CertificateReturned (verificationResult status reasons certificateId payloadSha256 issuerRoots
      approvalRoots false) := by
  refine verificationResult_total hreasons hissuers happrovals ?_
  intro f hf hcodes hreserved
  have hsub : ∀ reason ∈ f.reasonCodes.val, admits status reason := by
    rw [hcodes]
    exact fun reason h => hadmits reason (List.mem_eraseDups.1 h)
  rw [← hcodes] at hnodup
  unfold ActionCertificateVerificationResultFields.validate
  rw [hf]
  cases status with
  | accept => exact absurd rfl hstatus
  | reject =>
    have hclosed : f.reasonCodes.val ⊆ rejectVerificationReasons := fun r hr => hsub r hr
    simp [bind_eq_ok, hnodup, hreserved, hclosed]
  | unknown =>
    have hclosed : f.reasonCodes.val ⊆ unknownVerificationReasons := fun r hr => hsub r hr
    simp [bind_eq_ok, hnodup, hreserved, hclosed]

theorem certificateTimeIsValid_quiet {predicate : ActionCertificatePredicate}
    {policy : TrustPolicy} {e : PyErr} (hnow : now.Representable policy.skew) :
    certificateTimeIsValid predicate policy now ≠ .error e := by
  obtain ⟨later, hlater⟩ := hnow.add
  obtain ⟨earlier, hearlier⟩ := hnow.sub
  unfold certificateTimeIsValid
  rw [hlater, hearlier]
  simp only [ok_bind]
  split_ifs <;> simp [pure, Except.pure]

theorem qualifyingRoots_quiet {purpose : TrustPurpose} {predicate : ActionCertificatePredicate}
    {policy : TrustPolicy} {approvers : Option (List Str)} {roots : List TrustRoot} {e : PyErr}
    (hnow : now.Representable policy.skew) :
    qualifyingRoots P roots purpose predicate policy now approvers ≠ .error e := by
  classical
  intro h
  rcases bind_eq_error.1 h with h | ⟨_, -, h⟩
  · obtain ⟨_, r, _, kept, -, -, h⟩ := foldlM_eq_error h
    rcases bind_eq_error.1 h with h | ⟨_, -, h⟩
    · unfold rootQualifies at h
      split_ifs at h
      rw [trustRootIsCurrent_eq r hnow, ok_bind] at h
      cases h
    · cases h
  · cases h

/-- No more roots are selected than the envelope has signatures. -/
theorem qualifyingRoots_length_le {purpose : TrustPurpose} {predicate : ActionCertificatePredicate}
    {approvers : Option (List Str)} {envelope : DsseEnvelope} {payload : Bytes}
    {kept : List TrustRoot} (hone : OneKeyPerSignature P call)
    (h : qualifyingRoots P
      (cryptographicallyVerifiedRoots P envelope payload call.trustPolicy.roots.val) purpose
      predicate call.trustPolicy now approvers = .ok kept) : kept.length ≤ 16 := by
  have hsel := qualifyingRoots_spec h
  have hmem : ∀ r ∈ kept, _ := fun r hr =>
    mem_cryptographicallyVerifiedRoots.1 (hsel.sound r hr).1
  have hdistinct : Distinct (fun r => r.publicKey.bytes) (fun r => r.principalId) kept :=
    Distinct.of_digest hsel.distinct
  refine (hdistinct.length_le_tokens (fun r hr => (hmem r hr).2) ?_).trans
    envelope.signatures.property.2
  intro s _ r hr r' hr' hv hv'
  exact hone r (hmem r hr).1 r' (hmem r' hr').1 _ _ hv hv'

theorem returned_reject {reasons : List VerificationReason} {certificateId : Option Identifier}
    {payloadSha256 : Option Sha256Text}
    (hreasons : 1 ≤ reasons.eraseDups.length ∧ reasons.eraseDups.length ≤ 16)
    (hnodup : reasons.eraseDups.Nodup) (hadmits : ∀ reason ∈ reasons, admits .reject reason) :
    CertificateReturned (verificationResult .reject reasons certificateId payloadSha256 [] []
      false) :=
  returned_leave (by simp) hreasons hnodup hadmits (by simp) (by simp)

theorem exits_requireApproval_returned {envelope : DsseEnvelope} {payload : Bytes}
    {payloadSha256 : Sha256Text} {statement : ActionCertificateStatement}
    {issuerRoots : List TrustRoot} (hone : OneKeyPerSignature P call)
    (hnow : now.Representable call.trustPolicy.skew) (hissuers : issuerRoots.length ≤ 16) :
    Flow.Exits CertificateReturned (requireApproval P call now payloadSha256
      (cryptographicallyVerifiedRoots P envelope payload call.trustPolicy.roots.val) statement
      issuerRoots) := by
  have leave {status : VerificationStatus} {reason : VerificationReason} {roots : List TrustRoot}
      (hstatus : status ≠ .accept) (hadmits : admits status reason) (hroots : roots.length ≤ 16) :
      CertificateReturned (verificationResult status [reason]
        (some statement.predicate.certificateId) (some payloadSha256) issuerRoots roots false) := by
    have hone : [reason].eraseDups = [reason] := rfl
    refine returned_leave hstatus ?_ ?_ ?_ hissuers hroots
    · rw [hone]
      simp
    · rw [hone]
      simp
    · simpa using hadmits
  unfold requireApproval
  refine (Flow.exits_returnIf fun _ => leave (by simp) (by decide) (by simp)).bind fun _ _ => ?_
  refine (Flow.exits_raising fun e he => absurd he (qualifyingRoots_quiet hnow)).bind
    fun approvalRoots happroval => ?_
  have hlength := qualifyingRoots_length_le hone (Flow.raising_eq_ok.1 happroval)
  refine (Flow.exits_returnIf fun _ => leave (by simp) (by decide) (by simp)).bind fun _ _ => ?_
  refine (Flow.exits_returnIf fun _ => leave (by simp) (by decide) hlength).bind fun _ _ => ?_
  refine (Flow.exits_returnIf fun _ => leave (by simp) (by decide) hlength).bind fun _ _ => ?_
  split
  · exact Flow.exits_error (leave (by simp) (by decide) hlength)
  · split
    · exact Flow.exits_error (leave (by simp) (by decide) hlength)
    · exact Flow.exits_error (leave (by simp) (by decide) hlength)
    · exact Flow.exits_error (leave (by simp) (by decide) hlength)
    · exact Flow.exits_ok _

end Returns

/-! ## Exactly the calls that fail closed -/

/-- An envelope of an admitted size carries a payload of an admitted size, signed by a configured
root. -/
structure SignedPayload (P : Platform) (call : CertificateCall) (envelope : DsseEnvelope)
    (payload : Bytes) : Prop where
  envelope_size : call.envelopeBytes.length ≤ maxEnvelopeBytes
  opened : openEnvelope P call.envelopeBytes "DSSE envelope" "payload" = .ok (envelope, payload)
  payload_size : payload.length ≤ maxPayloadBytes
  signed : ∃ r ∈ call.trustPolicy.roots.val, ∃ s ∈ envelope.signatures.val,
    signatureVerifies P (dssePae dssePayloadType payload) s r = true

/-- The call returns a result, and rejects a signed payload that is no statement as invalid. -/
structure FailsClosed {σ : Type} (P : Platform) (call : CertificateCall)
    (replayLedger : ReplayLedger σ) (ledger : σ) : Prop where
  returned : CertificateReturned (verifyActionCertificateOn P call replayLedger ledger).1
  payload_invalid : ∀ envelope payload, SignedPayload P call envelope payload →
    (∀ statement, parseJsonModel P (Decode.actionCertificateStatement P) payload
      "signed payload" ≠ .ok statement) →
    ∃ result, (verifyActionCertificateOn P call replayLedger ledger).1 = .ok result ∧
      result.status = .reject ∧ result.reasonCodes.val = [.payloadInvalid]

/-- The signed payload passes both parsers, and one of its records is well formed but for a time
that leaves the calendar. -/
def EscapingCertificate (P : Platform) (call : CertificateCall) : Prop :=
  ∃ envelope payload, SignedPayload P call envelope payload ∧
    (∃ members, strictJsonObject P payload "signed payload" = .ok members) ∧
    ∃ j, P.jiter payload = some j ∧ Decode.StatementLeavesCalendar P j

section FailsClosed

variable {P : Platform} {call : CertificateCall} {now : UtcTime}

theorem SignedPayload.verifiedRoots_ne_nil {envelope : DsseEnvelope} {payload : Bytes}
    (h : SignedPayload P call envelope payload) :
    cryptographicallyVerifiedRoots P envelope payload call.trustPolicy.roots.val ≠ [] := by
  obtain ⟨r, hr, hs⟩ := h.signed
  exact List.ne_nil_of_mem (mem_cryptographicallyVerifiedRoots.2 ⟨hr, hs⟩)

/-- After a signed payload, the parser of statements decides. -/
theorem SignedPayload.authorize_eq {envelope : DsseEnvelope} {payload : Bytes} {e : PyErr}
    (h : SignedPayload P call envelope payload)
    (hnow : requireAware call.now "verification time" = .ok now)
    (hparse : parseJsonModel P (Decode.actionCertificateStatement P) payload "signed payload" =
      .error e) :
    authorize P call = .error (if e.isValueError then
      verificationResult .reject [.payloadInvalid] none (some (sha256Bytes P payload)) [] [] false
      else .error e) := by
  have hverified := h.verifiedRoots_ne_nil
  have hpayload := not_lt.2 h.payload_size
  rw [authorize_of_opened h.envelope_size h.opened]
  simp only [authorizePayload, Flow.returnIf, Flow.raising, Flow.tryElse, hnow, hpayload, hverified,
    hparse, ok_bind, if_false]
  cases e.isValueError <;> rfl

/-- An exception escapes from such a certificate. -/
theorem EscapingCertificate.raises (h : EscapingCertificate P call)
    (hnow : requireAware call.now "verification time" = .ok now) :
    ∃ e, authorize P call = .error (.error e) := by
  obtain ⟨envelope, payload, hsigned, hmembers, j, hj, hleaves⟩ := h
  have hparse := parseStatement_overflows.2 ⟨hmembers, j, hj, hleaves⟩
  refine ⟨.overflowError, ?_⟩
  rw [hsigned.authorize_eq hnow hparse]
  rfl

/-- What the parser of a signed payload raises is otherwise caught. -/
theorem SignedPayload.isValueError {envelope : DsseEnvelope} {payload : Bytes} {e : PyErr}
    (h : SignedPayload P call envelope payload) (hstays : ¬ EscapingCertificate P call)
    (hparse : parseJsonModel P (Decode.actionCertificateStatement P) payload "signed payload" =
      .error e) : e.isValueError = true := by
  cases e with
  | valueError m => rfl
  | validationError => rfl
  | overflowError => exact absurd ⟨envelope, payload, h, parseStatement_overflows.1 hparse⟩ hstays

/-- Without one, every way out before the reservation is a result. -/
theorem exits_authorize_returned (hone : OneKeyPerSignature P call)
    (hnow : requireAware call.now "verification time" = .ok now)
    (hrep : now.Representable call.trustPolicy.skew) (hstays : ¬ EscapingCertificate P call) :
    Flow.Exits CertificateReturned (authorize P call) := by
  unfold authorize
  refine (Flow.exits_raising fun e he => ?_).bind fun now' hnow' => ?_
  · rw [hnow] at he
    cases he
  obtain rfl : now = now' := Except.ok.inj (hnow.symm.trans (Flow.raising_eq_ok.1 hnow'))
  refine (Flow.exits_returnIf fun _ => returned_reject (by decide) (by decide) (by decide)).bind
    fun _ hsize => ?_
  refine (Flow.exits_tryElse (returned_reject (by decide) (by decide) (by decide))
    fun e he hc => ?_).bind fun opened hopened => ?_
  · rw [openEnvelope_error he] at hc
    cases hc
  obtain ⟨envelope, payload⟩ := opened
  refine (Flow.exits_returnIf fun _ => returned_reject (by decide) (by decide) (by decide)).bind
    fun _ hpayload => ?_
  refine (Flow.exits_returnIf fun _ => returned_reject (by decide) (by decide) (by decide)).bind
    fun _ hverified => ?_
  have hsigned : SignedPayload P call envelope payload := by
    obtain ⟨r, hr⟩ := List.exists_mem_of_ne_nil _ (Flow.returnIf_eq_ok.1 hverified)
    obtain ⟨hroot, hsignature⟩ := mem_cryptographicallyVerifiedRoots.1 hr
    exact {
      envelope_size := not_lt.1 (Flow.returnIf_eq_ok.1 hsize)
      opened := Flow.tryElse_eq_ok.1 hopened
      payload_size := not_lt.1 (Flow.returnIf_eq_ok.1 hpayload)
      signed := ⟨r, hroot, hsignature⟩ }
  refine (Flow.exits_tryElse (returned_reject (by decide) (by decide) (by decide))
    fun e he hc => ?_).bind fun statement _ => ?_
  · rw [hsigned.isValueError hstays he] at hc
    cases hc
  have leave {reasons : List VerificationReason} {certificateId : Option Identifier}
      {payloadSha256 : Option Sha256Text} (hreasons : reasons ∈
        ([[.trustPolicyMismatch], [.expectedBindingMismatch], [.certificateTimeInvalid],
          [.rootTimeOrRevocationInvalid, .actionIssuerThresholdNotMet]] :
          List (List VerificationReason))) :
      CertificateReturned (verificationResult .reject reasons certificateId payloadSha256 [] []
        false) := by
    simp only [List.mem_cons, List.not_mem_nil, or_false] at hreasons
    rcases hreasons with rfl | rfl | rfl | rfl <;>
      exact returned_reject (by decide) (by decide) (by decide)
  refine (Flow.exits_returnIf fun _ => leave (by simp)).bind fun _ _ => ?_
  refine (Flow.exits_returnIf fun _ => leave (by simp)).bind fun _ _ => ?_
  refine (Flow.exits_raising fun e he => absurd he (certificateTimeIsValid_quiet hrep)).bind
    fun timely _ => ?_
  refine (Flow.exits_returnIf fun _ => leave (by simp)).bind fun _ _ => ?_
  refine (Flow.exits_raising fun e he => absurd he (qualifyingRoots_quiet hrep)).bind
    fun issuerRoots hissuers => ?_
  have hlength := qualifyingRoots_length_le hone (Flow.raising_eq_ok.1 hissuers)
  refine (Flow.exits_returnIf fun _ => leave (by simp)).bind fun _ _ => ?_
  refine Flow.Exits.bind ?_ fun approvalRoots _ => Flow.exits_ok _
  unfold approve
  split_ifs
  · exact exits_requireApproval_returned hone hrep hlength
  · exact Flow.exits_ok _

/-- An authorized call returns a result, whatever the ledger answers. -/
theorem Authorized.conclude_returned {a : Authorization} (h : Authorized P call a)
    (hone : OneKeyPerSignature P call) (answer : ReservationStatus) :
    CertificateReturned (a.conclude P answer) := by
  have hissuers := h.issuers.length_le hone
  have happrovals := h.approvalRoots_length_le hone
  cases answer with
  | reserved =>
    obtain ⟨result, hresult, -⟩ := h.conclude_reserved hone
    exact ⟨result, hresult⟩
  | replay =>
    exact returned_leave (by simp) (by decide) (by decide) (by decide) hissuers happrovals
  | idempotencyConflict =>
    exact returned_leave (by simp) (by decide) (by decide) (by decide) hissuers happrovals
  | unavailable =>
    exact returned_leave (by simp) (by decide) (by decide) (by decide) hissuers happrovals

end FailsClosed

/-- At every time the skew can be added to and taken from, the verifier fails closed exactly on the
certificates whose signed payload does not carry a time that leaves the calendar in a record that is
otherwise well formed. -/
theorem failsClosed_iff {σ : Type} {P : Platform} {call : CertificateCall} {now : UtcTime}
    (replayLedger : ReplayLedger σ) (ledger : σ) (hone : OneKeyPerSignature P call)
    (hnow : requireAware call.now "verification time" = .ok now)
    (hrep : now.Representable call.trustPolicy.skew) :
    FailsClosed P call replayLedger ledger ↔ ¬ EscapingCertificate P call := by
  constructor
  · intro h hescapes
    obtain ⟨e, he⟩ := hescapes.raises hnow
    obtain ⟨result, hresult⟩ := h.returned
    unfold verifyActionCertificateOn at hresult
    rw [he] at hresult
    cases hresult
  · intro hstays
    refine ⟨?_, ?_⟩
    · unfold verifyActionCertificateOn
      cases ha : authorize P call with
      | error out => exact exits_authorize_returned hone hnow hrep hstays out ha
      | ok a => exact (authorized_of_authorize ha).conclude_returned hone _
    · intro envelope payload hsigned hnone
      cases hparse : parseJsonModel P (Decode.actionCertificateStatement P) payload
          "signed payload" with
      | ok statement => exact absurd hparse (hnone statement)
      | error e =>
        have hauthorize := hsigned.authorize_eq hnow hparse
        rw [hsigned.isValueError hstays hparse, if_pos rfl] at hauthorize
        have hexit := exits_authorize_returned hone hnow hrep hstays _ hauthorize
        obtain ⟨result, hresult⟩ := hexit
        have hbuilt := verificationResult_eq_ok hresult
        refine ⟨result, ?_, hbuilt.1, hbuilt.2.1⟩
        unfold verifyActionCertificateOn
        rw [hauthorize]
        exact hresult

theorem sample_failsClosed_iff :
    FailsClosed Sample.platform (Sample.call Sample.policy) InMemoryReplayLedger.protocol
        Sample.ledger ↔
      ¬ EscapingCertificate Sample.platform (Sample.call Sample.policy) :=
  failsClosed_iff InMemoryReplayLedger.protocol Sample.ledger Sample.oneKeyPerSignature_call rfl
    (by decide)

namespace Sample

/-- `0001-01-01T00:00:00+05:00`. -/
def beforeCalendar : DateTime where
  wall := ⟨0, by decide⟩
  utcoffset := some (5 * 3600 * 10 ^ 6)
  offset_lt := by
    rintro _ ⟨⟩
    decide

def escapingSignature : SignatureBytes :=
  signature 0x8bcabc547097285eba623011dc19ed5943f16eb05ce448ce8de37804bb5517bc
    0x3cfcf8e19cf93b8a6524590d3f19e823b5528510f38b151349c2af9f8c942603

/-- The sample platform, which also reads a time with an offset. -/
def offsetPlatform : Platform :=
  { platform with
    ed25519Verify := fun key signature _ =>
      decide ((key, signature) = (issuerKey, escapingSignature.val))
    parseDatetime := fun s =>
      if s = lit "0001-01-01T00:00:00+05:00" then some beforeCalendar
      else platform.parseDatetime s }

theorem readsText_offsetPlatform : offsetPlatform.ReadsText := readsText_platform

def escapingPolicyBinding : PolicyBindingFields where
  policyId := ident "policy-1"
  policyRevision := text "1"
  policySha256 := digest (repeated 7)
  evaluatedAt := beforeCalendar
  expiresAt := .ofUtc (minute 120)

/-- An object whose only record is a policy evaluated before the calendar. -/
def escapingMembers : List (Str × Canon) :=
  [member "predicate" (.obj [
    member "policy" (.obj [
      member "decision" (.str (lit "ALLOW")),
      member "evaluated_at" (.str (lit "0001-01-01T00:00:00+05:00")),
      member "expires_at" (.str (lit "2026-01-01T02:00:00Z")),
      member "policy_id" (.str (lit "policy-1")),
      member "policy_revision" (.str (lit "1")),
      member "policy_sha256" (.str (digest (repeated 7)).val)])])]

def escapingPayload : Bytes := canonicalJson (.obj escapingMembers)

set_option maxRecDepth 100000 in
theorem length_escapingPayload : escapingPayload.length = 259 := by decide

def escapingParts : EnvelopeParts where
  payload := escapingPayload
  signatures := [escapingSignature]
  payload_length := by rw [length_escapingPayload]; decide
  signatures_length := by decide

def escapingCall : CertificateCall :=
  { call policy with envelopeBytes := escapingParts.bytes }

set_option maxRecDepth 100000 in
theorem signedPayload_escapingCall :
    SignedPayload offsetPlatform escapingCall escapingParts.envelope escapingPayload where
  envelope_size := by
    have hparts := escapingParts.length_bytes
    have hpayload : escapingParts.payload.length = 259 := length_escapingPayload
    have hcount : escapingParts.signatures.length = 1 := rfl
    have hlength : escapingParts.bytes.length ≤ 1000 := by omega
    exact hlength.trans (by decide)
  opened := escapingParts.openEnvelope_bytes readsText_offsetPlatform (by decide) _ _
  payload_size := length_escapingPayload.le.trans (by decide)
  signed := by decide

set_option maxRecDepth 100000 in
theorem escapingCertificate_escapingCall : EscapingCertificate offsetPlatform escapingCall := by
  have hread : (Canon.obj escapingMembers).readable offsetPlatform.recursionLimit = true := by
    decide
  have hhooks : (Canon.obj escapingMembers).loaded.passesHooks = true := by decide
  have hfields : ∀ policy ∈ (Decode.member? (Canon.obj escapingMembers).parsed "predicate").bind
      (Decode.member? · "policy"),
      Decode.policyBindingFields offsetPlatform policy = .ok escapingPolicyBinding := by
    decide
  refine ⟨_, _, signedPayload_escapingCall, strictJsonObject_canonicalJson hread hhooks _, _,
    jiter_canonicalJson readsText_offsetPlatform hread, ?_⟩
  exact .policy rfl rfl (hfields _ rfl) (.inl ⟨rfl, by decide⟩)

end Sample

/-- The verifier raises on a payload that a configured root signed over a policy evaluated at
`0001-01-01T00:00:00+05:00`. -/
theorem sample_certificate_escapes :
    OneKeyPerSignature Sample.offsetPlatform Sample.escapingCall ∧
      (∃ now, requireAware Sample.escapingCall.now "verification time" = .ok now ∧
        now.Representable Sample.escapingCall.trustPolicy.skew) ∧
      ¬ FailsClosed Sample.offsetPlatform Sample.escapingCall InMemoryReplayLedger.protocol
        Sample.ledger := by
  have hone : OneKeyPerSignature Sample.offsetPlatform Sample.escapingCall := by
    intro r _ r' _ signature _ hr hr'
    exact (congrArg Prod.fst (of_decide_eq_true hr)).trans
      (congrArg Prod.fst (of_decide_eq_true hr')).symm
  refine ⟨hone, ⟨_, rfl, by decide⟩, fun h => ?_⟩
  obtain ⟨e, he⟩ := Sample.escapingCertificate_escapingCall.raises rfl
  obtain ⟨result, hresult⟩ := h.returned
  unfold verifyActionCertificateOn at hresult
  rw [he] at hresult
  cases hresult

end ProofFlow
