import ProofFlow.Kit.Flow
import ProofFlow.Models

/-!
# Case-state transitions

`state_machine.py`: the transition graph, the guard of each transition and `transition_case`, which
checks the version a caller expects before it moves a case and records the move in a trace event.
-/

namespace ProofFlow

open Kit

/-- `TransitionContext`. -/
structure TransitionContext where
  manifestValid : Bool := false
  inputHashesMatch : Bool := false
  evidenceComplete : Bool := false
  hasBlockingIssue : Bool := false
  rulesValid : Bool := false
  calculationComplete : Bool := false
  proposalComplete : Bool := false
  auditVerdict : Option AuditVerdict := none
  approvalDecision : Option ApprovalDecision := none
  approvalValid : Bool := false
  packageValid : Bool := false
  closeConfirmed : Bool := false
  actorRole : Option Stripped := none
  requiredApprovalRole : Option Stripped := none

/-- `ALLOWED_TRANSITIONS`. -/
def allowedTransitions : CaseState → List CaseState
  | .received => [.ingesting]
  | .ingesting => [.needsEvidence, .factsReady]
  | .needsEvidence => [.ingesting, .rejected]
  | .factsReady => [.rulesReady, .needsEvidence]
  | .rulesReady => [.calcReady, .needsEvidence]
  | .calcReady => [.proposalReady, .needsEvidence]
  | .proposalReady => [.auditBlocked, .awaitingApproval]
  | .auditBlocked => [.revisionRequired]
  | .awaitingApproval => [.approved, .rejected, .revisionRequired]
  | .approved => [.packaged, .revisionRequired]
  | .rejected => [.closed]
  | .revisionRequired => [.ingesting, .closed]
  | .packaged => [.closed, .revisionRequired]
  | .closed => []

/-- `_require`. -/
def requireThat (condition : Prop) [Decidable condition] (message : String) : Except Fault Unit :=
  if condition then .ok () else .error (.transitionRejected (lit message))

@[simp] theorem requireThat_eq_ok {condition : Prop} [Decidable condition] {message : String}
    {u : Unit} : requireThat condition message = .ok u ↔ condition := by
  unfold requireThat
  split <;> simp_all

/-- `bool(context.actor_role) and context.actor_role == context.required_approval_role`. -/
def holdsRole (context : TransitionContext) : Bool :=
  match context.actorRole with
  | none => false
  | some role => decide (role.val ≠ []) && decide (some role = context.requiredApprovalRole)

/-- `_validate_guard`. -/
def validateGuard (current target : CaseState) (actorKind : ActorKind)
    (context : TransitionContext) : Except Fault Unit :=
  if target = .ingesting ∧ current = .received then do
    requireThat (context.manifestValid = true) "input manifest is not valid"
    requireThat (context.inputHashesMatch = true) "one or more declared input hashes do not match"
  else if target = .factsReady then do
    requireThat (context.evidenceComplete = true) "evidence processing is incomplete"
    requireThat (context.hasBlockingIssue = false) "blocking evidence issue remains"
  else if target = .needsEvidence then
    requireThat (context.hasBlockingIssue = true)
      "NEEDS_EVIDENCE requires a recorded blocking issue"
  else if target = .rulesReady then do
    requireThat (context.rulesValid = true) "authoritative rules are incomplete or invalid"
    requireThat (context.hasBlockingIssue = false) "blocking rule issue remains"
  else if target = .calcReady then do
    requireThat (context.calculationComplete = true) "deterministic calculation is incomplete"
    requireThat (context.hasBlockingIssue = false) "blocking calculation issue remains"
  else if target = .proposalReady then
    requireThat (context.proposalComplete = true) "no fully referenced proposal is available"
  else if target = .auditBlocked then
    requireThat (context.auditVerdict = some .block ∨ context.auditVerdict = some .revise)
      "AUDIT_BLOCKED requires a BLOCK or REVISE audit verdict"
  else if target = .awaitingApproval then do
    requireThat (context.auditVerdict = some .pass) "audit must PASS before approval"
    requireThat (context.hasBlockingIssue = false) "blocking issue remains before approval"
  else if current = .awaitingApproval then do
    requireThat (actorKind = .human) "approval transitions require a human actor"
    requireThat (holdsRole context = true) "human actor does not hold the required approval role"
    if target = .approved then do
      requireThat (context.approvalDecision = some .approve) "approval is absent"
      requireThat (context.approvalValid = true) "approval is expired or bound to stale artifacts"
    else if target = .rejected then
      requireThat (context.approvalDecision = some .reject) "rejection is absent"
    else if target = .revisionRequired then
      requireThat (context.approvalDecision = some .revise ∨ context.approvalValid = false)
        "revision requires REVISE or an invalidated approval"
    else .ok ()
  else if target = .packaged then do
    requireThat (context.approvalValid = true) "current approval is invalid"
    requireThat (context.auditVerdict = some .pass) "current audit is not PASS"
    requireThat (context.packageValid = true) "package manifest is incomplete or inconsistent"
  else if target = .closed then
    requireThat (context.closeConfirmed = true) "closing a case requires explicit confirmation"
  else .ok ()

/-- The arguments of `transition_case` other than the case. -/
structure TransitionRequest where
  target : CaseState
  expectedStateVersion : ℤ
  actorIdentity : Str
  actorKind : ActorKind
  traceId : Str
  sequence : ℤ := 1
  occurredAt : DateTime
  context : TransitionContext

/-- `str(n)`. -/
def intText (n : ℤ) : Str := dumpInt n

/-- `case.model_copy` in the target state, one version on. -/
def CaseRecord.advance (case : CaseRecord) (target : CaseState) : CaseRecord :=
  { case with state := target, stateVersion := case.stateVersion + 1 }

/-- `sequence`, if `TraceEvent` accepts it. -/
def eventSequence (sequence : ℤ) : Except Fault { n : ℕ // 1 ≤ n } :=
  if h : 1 ≤ sequence.toNat then .ok ⟨sequence.toNat, h⟩ else .error .validationError

/-- `transition_case`. -/
def transitionCase (P : Platform) (case : CaseRecord) (r : TransitionRequest) :
    Except Fault (CaseRecord × TraceEvent) := do
  if r.sequence < 1 then
    .error (.transitionRejected (lit "trace sequence must be positive"))
  else if r.expectedStateVersion ≠ case.stateVersion then
    .error (.transitionRejected (lit "stale state version: expected " ++
      intText r.expectedStateVersion ++ lit ", current " ++ intText case.stateVersion))
  else if r.target ∉ allowedTransitions case.state then
    .error (.transitionRejected (lit "illegal transition: " ++ lit case.state.text ++ lit " -> " ++
      lit r.target.text))
  else do
    validateGuard case.state r.target r.actorKind r.context
    let newCase := case.advance r.target
    let inputHash ← sha256Digest P case.dump []
    let outputHash ← sha256Digest P newCase.dump []
    let sequence ← eventSequence r.sequence
    let occurredAt ← aware r.occurredAt
    pure (newCase, {
      sequence
      traceId := stripped r.traceId
      tenantId := stripped case.tenantId.val
      caseId := stripped case.caseId.val
      actorIdentity := stripped r.actorIdentity
      actorKind := r.actorKind
      eventType := label "case.state_transition"
      inputHash := some inputHash.stripped
      outputHash := some outputHash.stripped
      status := label "SUCCESS"
      occurredAt
      errorCode := none })

/-! ## What a transition does -/

/-- An accepted transition of a case. -/
structure Transition (P : Platform) (case : CaseRecord) (r : TransitionRequest) (case' : CaseRecord)
    (event : TraceEvent) : Prop where
  sequence : event.sequence.val = r.sequence
  version : r.expectedStateVersion = case.stateVersion
  allowed : r.target ∈ allowedTransitions case.state
  guard : validateGuard case.state r.target r.actorKind r.context = .ok ()
  advanced : case' = case.advance r.target
  inputHash : ∃ d, sha256Digest P case.dump [] = .ok d ∧ event.inputHash = some d.stripped
  outputHash : ∃ d, sha256Digest P case'.dump [] = .ok d ∧ event.outputHash = some d.stripped

/-- Inversion of `transition_case`. -/
theorem transition_of_ok {P : Platform} {case case' : CaseRecord} {r : TransitionRequest}
    {event : TraceEvent} (h : transitionCase P case r = .ok (case', event)) :
    Transition P case r case' event := by
  unfold transitionCase at h
  split_ifs at h with hseq hversion hallowed
  obtain ⟨_, hguard, h⟩ := bind_eq_ok.1 h
  obtain ⟨i, hi, h⟩ := bind_eq_ok.1 h
  obtain ⟨o, ho, h⟩ := bind_eq_ok.1 h
  obtain ⟨n, hn, h⟩ := bind_eq_ok.1 h
  obtain ⟨t, -, h⟩ := bind_eq_ok.1 h
  obtain ⟨rfl, rfl⟩ := Prod.mk.inj (Except.ok.inj h)
  have hnumber : (n.val : ℤ) = r.sequence := by
    unfold eventSequence at hn
    split_ifs at hn
    rw [← Except.ok.inj hn]
    exact Int.toNat_of_nonneg (by omega)
  exact ⟨hnumber, not_ne_iff.1 hversion, hallowed, hguard, rfl, ⟨i, hi, rfl⟩, ⟨o, ho, rfl⟩⟩

/-- A request that expects another version is refused. -/
theorem transitionCase_stale {P : Platform} {case : CaseRecord} {r : TransitionRequest}
    (h : r.expectedStateVersion ≠ case.stateVersion) :
    ∃ message, transitionCase P case r = .error (.transitionRejected message) := by
  unfold transitionCase
  by_cases hseq : r.sequence < 1
  · exact ⟨_, if_pos hseq⟩
  · rw [if_neg hseq, if_pos h]
    exact ⟨_, rfl⟩

/-- A case whose state has no successor stays as it is. -/
theorem transitionCase_terminal {P : Platform} {case : CaseRecord} (r : TransitionRequest)
    (h : allowedTransitions case.state = []) :
    ∃ message, transitionCase P case r = .error (.transitionRejected message) := by
  unfold transitionCase
  by_cases hseq : r.sequence < 1
  · exact ⟨_, if_pos hseq⟩
  · rw [if_neg hseq]
    by_cases hversion : r.expectedStateVersion ≠ case.stateVersion
    · exact ⟨_, if_pos hversion⟩
    · rw [if_neg hversion, if_pos (by simp [h])]
      exact ⟨_, rfl⟩

end ProofFlow
