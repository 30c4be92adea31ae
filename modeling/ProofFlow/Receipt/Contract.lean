import ProofFlow.Certificate.Verify

/-!
# ExecutionReceipt contracts

The statement of an execution receipt and the operator's expected binding, with the validators of
each model.  Every timestamp uses the UTC wire profile, so parsing a receipt raises nothing but
`ValueError` (`Decode.quiet_executionReceiptStatement`).
-/

namespace ProofFlow

open Kit

def executionReceiptAudience : Str := lit "proofflow-execution-receipt"

inductive ObservationState where
  | observed
  | unknown
  deriving DecidableEq

/-- The value of a state. -/
def ObservationState.value : ObservationState → Str
  | .observed => lit "OBSERVED"
  | .unknown => lit "UNKNOWN"

/-- An unknown observation carries none of its fields, an observed one all of them. -/
def stateControlsFields (status : ObservationState) (present : List Bool)
    (unknownMessage observedMessage : String) : Except PyErr Unit :=
  match status with
  | .unknown => raiseIf (true ∈ present) unknownMessage
  | .observed => raiseIf (false ∈ present) observedMessage

/-! ## Observations -/

structure ProducerDeclarationFields where
  producerId : Identifier
  softwareName : LocalText 1 128
  softwareVersion : LocalText 1 64
  observerPrincipals : Items Str 1 16
  deriving DecidableEq

/-- `observer_principals_are_unique`. -/
def ProducerDeclarationFields.validate (p : ProducerDeclarationFields) : Except PyErr Unit := do
  raiseIf (¬ p.observerPrincipals.val.Nodup) "observer principals must be unique"
  raiseIf (∃ v ∈ p.observerPrincipals.val, isIdentifier v = false) "observer principal is invalid"

structure ProducerDeclaration extends ProducerDeclarationFields where
  valid : toProducerDeclarationFields.validate = .ok ()
  deriving DecidableEq

inductive AttemptStatus where
  | completed
  | failed
  | cancelled
  | unknown
  deriving DecidableEq

structure AttemptObservationFields where
  attemptId : Identifier
  attemptNumber : Ranged 1 1000000
  startedAt : UtcTime
  endedAt : UtcTime
  status : AttemptStatus
  deriving DecidableEq

/-- `ended_at_does_not_precede_start`. -/
def AttemptObservationFields.validate (a : AttemptObservationFields) : Except PyErr Unit :=
  raiseIf (a.endedAt < a.startedAt) "attempt ended_at must not precede started_at"

structure AttemptObservation extends AttemptObservationFields where
  valid : toAttemptObservationFields.validate = .ok ()
  deriving DecidableEq

structure RuntimeObservation where
  runtimeName : LocalText 1 128
  runtimeVersion : LocalText 1 64
  runtimeBuildSha256 : Sha256Text
  instanceId : Identifier
  deriving DecidableEq

structure LocalProtocolObservation where
  handlerName : LocalText 1 128
  requestSha256 : Sha256Text
  responseSha256 : Sha256Text
  deriving DecidableEq

structure McpProtocolObservation where
  serverName : LocalText 1 128
  toolName : LocalText 1 128
  requestSha256 : Sha256Text
  responseSha256 : Sha256Text
  deriving DecidableEq

structure A2aProtocolObservation where
  agentName : LocalText 1 128
  taskId : Identifier
  requestSha256 : Sha256Text
  responseSha256 : Sha256Text
  deriving DecidableEq

inductive ProtocolObservation where
  | localCall (p : LocalProtocolObservation)
  | mcp (p : McpProtocolObservation)
  | a2a (p : A2aProtocolObservation)
  deriving DecidableEq

namespace ProtocolObservation

def requestSha256 : ProtocolObservation → Sha256Text
  | .localCall p => p.requestSha256
  | .mcp p => p.requestSha256
  | .a2a p => p.requestSha256

def responseSha256 : ProtocolObservation → Sha256Text
  | .localCall p => p.responseSha256
  | .mcp p => p.responseSha256
  | .a2a p => p.responseSha256

end ProtocolObservation

/-- `value.strip("0")` leaves nothing. -/
def allZero (s : Str) : Bool := s.all (· == '0')

/-- An OpenTelemetry id: `n` hexadecimal digits, not all zero. -/
abbrev OtelId (n : ℕ) := { s : Str // isHexOfLength n s = true ∧ allZero s = false }

structure TraceObservationFields where
  traceId : OtelId 32
  spanId : OtelId 16
  parentSpanId : Option (OtelId 16)
  linkedSpanIds : Items Str 0 64
  observerEvidenceSha256 : Sha256Text
  deriving DecidableEq

/-- `linked_spans_are_unique_and_well_formed`, then
`trace_relationships_are_not_self_referential`. -/
def TraceObservationFields.validate (t : TraceObservationFields) : Except PyErr Unit := do
  raiseIf (¬ t.linkedSpanIds.val.Nodup) "linked span IDs must be unique"
  t.linkedSpanIds.val.forM fun v => do
    raiseIf (isHexOfLength 16 v = false) "linked span ID is invalid"
    raiseIf (allZero v = true) "linked OpenTelemetry span IDs must not be all zero"
  raiseIf (t.parentSpanId = some t.spanId ∨ t.spanId.val ∈ t.linkedSpanIds.val)
    "a span cannot parent or link to itself"

structure TraceObservation extends TraceObservationFields where
  valid : toTraceObservationFields.validate = .ok ()
  deriving DecidableEq

structure ArtifactObservation where
  artifactId : Identifier
  sha256 : Sha256Text
  mediaType : LocalText 1 128
  deriving DecidableEq

inductive OperationKind where
  | tool
  | skill
  deriving DecidableEq

/-- `ToolOperationObservation` and `SkillOperationObservation`, which differ in `kind` only. -/
structure OperationObservation where
  kind : OperationKind
  operationId : Identifier
  name : LocalText 1 128
  version : LocalText 1 64
  inputSchemaSha256 : Sha256Text
  outputSchemaSha256 : Sha256Text
  requestSha256 : Sha256Text
  responseSha256 : Sha256Text
  deriving DecidableEq

structure TokenUsageObservationFields where
  status : ObservationState
  inputTokens : Option (Ranged 0 10000000000)
  outputTokens : Option (Ranged 0 10000000000)
  totalTokens : Option (Ranged 0 20000000000)
  observerEvidenceSha256 : Option Sha256Text
  deriving DecidableEq

/-- `observed_usage_requires_exact_evidence`. -/
def TokenUsageObservationFields.validate (u : TokenUsageObservationFields) : Except PyErr Unit := do
  stateControlsFields u.status [u.inputTokens.isSome, u.outputTokens.isSome, u.totalTokens.isSome,
      u.observerEvidenceSha256.isSome]
    "UNKNOWN usage must not carry token values or observer evidence"
    "OBSERVED usage requires token values and observer evidence"
  match u.totalTokens, u.inputTokens, u.outputTokens with
  | some total, some input, some output =>
    raiseIf (total.val ≠ input.val + output.val)
      "total_tokens must equal input_tokens plus output_tokens"
  | _, _, _ => .ok ()

structure TokenUsageObservation extends TokenUsageObservationFields where
  valid : toTokenUsageObservationFields.validate = .ok ()
  deriving DecidableEq

structure ModelInvocationObservationFields where
  invocationId : Identifier
  provider : LocalText 1 128
  model : LocalText 1 128
  modelRevision : LocalText 1 128
  inferenceStatus : ObservationState
  requestSha256 : Option Sha256Text
  responseSha256 : Option Sha256Text
  inferenceObserverEvidenceSha256 : Option Sha256Text
  usage : TokenUsageObservation
  deriving DecidableEq

/-- `inference_state_controls_observed_fields`. -/
def ModelInvocationObservationFields.validate (m : ModelInvocationObservationFields) :
    Except PyErr Unit :=
  stateControlsFields m.inferenceStatus [m.requestSha256.isSome, m.responseSha256.isSome,
      m.inferenceObserverEvidenceSha256.isSome]
    "UNKNOWN inference must not carry observed request/response evidence"
    "OBSERVED inference requires request, response, and observer evidence"

structure ModelInvocationObservation extends ModelInvocationObservationFields where
  valid : toModelInvocationObservationFields.validate = .ok ()
  deriving DecidableEq

inductive ProviderResult where
  | transportAck
  | providerDeclaredFailure
  | pending
  deriving DecidableEq

structure EffectObservationFields where
  effectType : LocalText 1 128
  target : LocalText 1 512
  intentSha256 : Sha256Text
  idempotencyKey : Identifier
  status : ObservationState
  providerResult : Option ProviderResult
  providerOperationId : Option Identifier
  outboxEntrySha256 : Option Sha256Text
  inboxEntrySha256 : Option Sha256Text
  providerRequestSha256 : Option Sha256Text
  providerResponseSha256 : Option Sha256Text
  beforeStateSha256 : Option Sha256Text
  afterStateSha256 : Option Sha256Text
  providerEventSha256 : Option Sha256Text
  observerEvidenceSha256 : Option Sha256Text
  deriving DecidableEq

/-- `effect_state_controls_observed_fields`. -/
def EffectObservationFields.validate (e : EffectObservationFields) : Except PyErr Unit :=
  stateControlsFields e.status [e.providerResult.isSome, e.providerOperationId.isSome,
      e.outboxEntrySha256.isSome, e.inboxEntrySha256.isSome, e.providerRequestSha256.isSome,
      e.providerResponseSha256.isSome, e.beforeStateSha256.isSome, e.afterStateSha256.isSome,
      e.providerEventSha256.isSome, e.observerEvidenceSha256.isSome]
    "UNKNOWN effect must not carry provider or observer evidence"
    "OBSERVED effect requires the complete v0.1 evidence set"

structure EffectObservation extends EffectObservationFields where
  valid : toEffectObservationFields.validate = .ok ()
  deriving DecidableEq

/-- `^[A-Z]{3}$`. -/
def isCurrency (s : Str) : Bool := decide (s.length = 3) && s.all isUpper

/-- `DECIMAL_AMOUNT_PATTERN`: `^(?:0|[1-9][0-9]{0,11})(?:\.[0-9]{1,9})?$`. -/
def isDecimalAmount (s : Str) : Bool :=
  let whole := s.takeWhile isDigit
  let rest := s.drop whole.length
  (whole == ['0'] || (decide (1 ≤ whole.length ∧ whole.length ≤ 12) && whole.head? != some '0')) &&
    match rest with
    | [] => true
    | '.' :: fraction => decide (1 ≤ fraction.length ∧ fraction.length ≤ 9) && fraction.all isDigit
    | _ => false

structure CostObservationFields where
  status : ObservationState
  currency : Option { s : Str // isCurrency s = true }
  amountDecimal : Option { s : Str // isDecimalAmount s = true }
  rateCardSha256 : Option Sha256Text
  observerEvidenceSha256 : Option Sha256Text
  deriving DecidableEq

/-- `cost_state_controls_observed_fields`. -/
def CostObservationFields.validate (c : CostObservationFields) : Except PyErr Unit :=
  stateControlsFields c.status [c.currency.isSome, c.amountDecimal.isSome, c.rateCardSha256.isSome,
      c.observerEvidenceSha256.isSome]
    "UNKNOWN cost must not carry a zero, amount, or observer evidence"
    "OBSERVED cost requires currency, amount, and observer evidence"

structure CostObservation extends CostObservationFields where
  valid : toCostObservationFields.validate = .ok ()
  deriving DecidableEq

structure DurationObservationFields where
  status : ObservationState
  milliseconds : Option (Ranged 0 86400000)
  /-- `"MONOTONIC"` when present. -/
  clock : Option Unit
  precisionMilliseconds : Option (Ranged 1 1000)
  observerEvidenceSha256 : Option Sha256Text
  deriving DecidableEq

/-- `duration_state_controls_observed_fields`. -/
def DurationObservationFields.validate (d : DurationObservationFields) : Except PyErr Unit :=
  stateControlsFields d.status [d.milliseconds.isSome, d.clock.isSome,
      d.precisionMilliseconds.isSome, d.observerEvidenceSha256.isSome]
    "UNKNOWN duration must not carry a zero, value, or observer evidence"
    "OBSERVED duration requires milliseconds and observer evidence"

structure DurationObservation extends DurationObservationFields where
  valid : toDurationObservationFields.validate = .ok ()
  deriving DecidableEq

structure ProvenanceReference where
  name : LocalText 1 256
  mediaType : LocalText 1 128
  sha256 : Sha256Text
  deriving DecidableEq

/-! ## The statement -/

structure ActionCertificateReferenceFields where
  certificateId : Identifier
  payloadSha256 : Sha256Text
  envelopeSha256 : Sha256Text
  verificationResultSha256 : Sha256Text
  intentSha256 : Sha256Text
  verificationAt : UtcTime
  reservedAt : UtcTime
  deriving DecidableEq

/-- `reservation_does_not_precede_verification`. -/
def ActionCertificateReferenceFields.validate (r : ActionCertificateReferenceFields) :
    Except PyErr Unit :=
  raiseIf (r.reservedAt < r.verificationAt)
    "ActionCertificate reserved_at must not precede verification_at"

structure ActionCertificateReference extends ActionCertificateReferenceFields where
  valid : toActionCertificateReferenceFields.validate = .ok ()
  deriving DecidableEq

structure ExecutionReceiptPredicateFields where
  receiptId : Identifier
  executionId : Identifier
  taskId : Identifier
  issuedAt : UtcTime
  certificateRef : ActionCertificateReference
  tenantId : Identifier
  caseId : Identifier
  producer : ProducerDeclaration
  attempt : AttemptObservation
  executorWorkload : PrincipalBinding
  runtime : RuntimeObservation
  protocol : ProtocolObservation
  trace : TraceObservation
  inputs : Items ArtifactObservation 1 128
  outputs : Items ArtifactObservation 0 128
  operation : OperationObservation
  modelInvocation : Option ModelInvocationObservation
  effect : EffectObservation
  cost : CostObservation
  duration : DurationObservation
  provenance : Items ProvenanceReference 1 128
  deriving DecidableEq

/-- The ids of some artifacts. -/
def artifactIds (l : List ArtifactObservation) : List Identifier := l.map fun a => a.artifactId

/-- `artifacts_are_unique`, `provenance_is_unique`, then `predicate_has_no_ambiguous_artifacts`. -/
def ExecutionReceiptPredicateFields.validate (p : ExecutionReceiptPredicateFields) :
    Except PyErr Unit := do
  raiseIf (¬ (artifactIds p.inputs.val).Nodup ∨ ¬ (artifactIds p.outputs.val).Nodup)
    "artifact IDs must be unique within each direction"
  raiseIf (¬ (p.provenance.val.map ProvenanceReference.name).Nodup)
    "provenance names must be unique"
  raiseIf (∃ i ∈ artifactIds p.inputs.val, i ∈ artifactIds p.outputs.val)
    "input and output artifact IDs must be disjoint"
  raiseIf (p.attempt.status = .completed ∧ p.outputs.val = [])
    "a completed attempt requires at least one output artifact"
  raiseIf (p.issuedAt < p.attempt.endedAt) "receipt issued_at must not precede attempt ended_at"
  raiseIf (p.certificateRef.intentSha256 ≠ p.effect.intentSha256)
    "certificate intent and effect intent must match"
  raiseIf (p.protocol.requestSha256 ≠ p.operation.requestSha256 ∨
      p.protocol.responseSha256 ≠ p.operation.responseSha256)
    "protocol and operation request/response digests must match"
  match p.protocol with
  | .localCall l =>
    raiseIf (l.handlerName ≠ p.operation.name) "LOCAL handler_name must match the operation name"
  | .mcp m => raiseIf (m.toolName ≠ p.operation.name) "MCP tool_name must match the operation name"
  | .a2a a => raiseIf (a.taskId ≠ p.taskId) "A2A protocol task_id must match the receipt task_id"
  raiseIf (p.effect.status = .observed ∧
      p.effect.providerRequestSha256 ≠ some p.operation.requestSha256)
    "observed provider request must match the logical operation request"

structure ExecutionReceiptPredicate extends ExecutionReceiptPredicateFields where
  valid : toExecutionReceiptPredicateFields.validate = .ok ()
  deriving DecidableEq

structure ExecutionReceiptStatementFields where
  subject : Items InTotoSubject 0 64
  predicate : ExecutionReceiptPredicate
  deriving DecidableEq

/-- `subjects_are_unique`, then `subjects_match_output_artifacts`: the two dictionaries have unique
keys, so they are equal when they have the same items. -/
def ExecutionReceiptStatementFields.validate (s : ExecutionReceiptStatementFields) :
    Except PyErr Unit := do
  raiseIf (¬ (s.subject.val.map InTotoSubject.name).Nodup) "in-toto subject names must be unique"
  raiseIf (¬ sameSet (s.subject.val.map fun i => (i.name.val, i.digest.val))
      (s.predicate.outputs.val.map fun a => (a.artifactId.val, a.sha256.val.drop 7)))
    "in-toto subjects must exactly match output artifacts"

structure ExecutionReceiptStatement extends ExecutionReceiptStatementFields where
  valid : toExecutionReceiptStatementFields.validate = .ok ()
  deriving DecidableEq

/-! ## Expected binding -/

structure ExpectedExecutionBindingFields where
  certificateRef : ActionCertificateReference
  tenantId : Identifier
  caseId : Identifier
  executionId : Identifier
  taskId : Identifier
  attemptId : Identifier
  attemptNumber : Ranged 1 1000000
  humanPrincipal : PrincipalBinding
  executorWorkload : PrincipalBinding
  executorWorkloadKeyFingerprints : Items Str 1 16
  humanPrincipalKeyFingerprints : Items Str 1 16
  runtime : RuntimeObservation
  protocol : ProtocolObservation
  trace : TraceObservation
  inputs : Items ArtifactObservation 1 128
  outputs : Items ArtifactObservation 0 128
  operation : OperationObservation
  effectType : LocalText 1 128
  effectTarget : LocalText 1 512
  effectIntentSha256 : Sha256Text
  idempotencyKey : Identifier
  deriving DecidableEq

/-- `identity_key_fingerprints_are_unique`. -/
def validateKeyFingerprints (values : List Str) : Except PyErr Unit := do
  raiseIf (¬ values.Nodup) "identity key fingerprints must be unique"
  raiseIf (∃ v ∈ values, isSha256 v = false) "identity key fingerprint is invalid"

/-- The fingerprints' validators, then `artifact_bindings_are_unambiguous`. -/
def ExpectedExecutionBindingFields.validate (b : ExpectedExecutionBindingFields) :
    Except PyErr Unit := do
  validateKeyFingerprints b.executorWorkloadKeyFingerprints.val
  validateKeyFingerprints b.humanPrincipalKeyFingerprints.val
  raiseIf (¬ (artifactIds b.inputs.val).Nodup ∨ ¬ (artifactIds b.outputs.val).Nodup)
    "expected artifact IDs must be unique within each direction"
  raiseIf (∃ i ∈ artifactIds b.inputs.val, i ∈ artifactIds b.outputs.val)
    "expected input and output artifact IDs must be disjoint"

structure ExpectedExecutionBinding extends ExpectedExecutionBindingFields where
  valid : toExpectedExecutionBindingFields.validate = .ok ()
  deriving DecidableEq

/-- The comparison view of a statement. -/
def executionBindingFields (statement : ExecutionReceiptStatement)
    (humanPrincipal : PrincipalBinding)
    (executorWorkloadKeyFingerprints humanPrincipalKeyFingerprints : Items Str 1 16) :
    ExpectedExecutionBindingFields where
  certificateRef := statement.predicate.certificateRef
  tenantId := statement.predicate.tenantId
  caseId := statement.predicate.caseId
  executionId := statement.predicate.executionId
  taskId := statement.predicate.taskId
  attemptId := statement.predicate.attempt.attemptId
  attemptNumber := statement.predicate.attempt.attemptNumber
  humanPrincipal := humanPrincipal
  executorWorkload := statement.predicate.executorWorkload
  executorWorkloadKeyFingerprints := executorWorkloadKeyFingerprints
  humanPrincipalKeyFingerprints := humanPrincipalKeyFingerprints
  runtime := statement.predicate.runtime
  protocol := statement.predicate.protocol
  trace := statement.predicate.trace
  inputs := statement.predicate.inputs
  outputs := statement.predicate.outputs
  operation := statement.predicate.operation
  effectType := statement.predicate.effect.effectType
  effectTarget := statement.predicate.effect.target
  effectIntentSha256 := statement.predicate.effect.intentSha256
  idempotencyKey := statement.predicate.effect.idempotencyKey

/-- `expected_execution_binding_for`. -/
def expectedExecutionBindingFor (statement : ExecutionReceiptStatement)
    (humanPrincipal : PrincipalBinding)
    (executorWorkloadKeyFingerprints humanPrincipalKeyFingerprints : Items Str 1 16) :
    Except PyErr ExpectedExecutionBinding :=
  construct ExpectedExecutionBinding.mk (executionBindingFields statement humanPrincipal
    executorWorkloadKeyFingerprints humanPrincipalKeyFingerprints)

/-! ## Decoders -/

namespace Decode

def observationState : Decoder ObservationState :=
  enumeration [("OBSERVED", .observed), ("UNKNOWN", .unknown)]

def producerDeclaration : Decoder ProducerDeclaration :=
  modelAfter ["producer_id", "software_name", "software_version", "observer_principals"]
      ProducerDeclaration.mk fun o =>
    ProducerDeclarationFields.mk <$> field o "producer_id" identifier
      <*> field o "software_name" (localText 1 128)
      <*> field o "software_version" (localText 1 64)
      <*> field o "observer_principals" (items 1 16 str)

def attemptStatus : Decoder AttemptStatus :=
  enumeration [("COMPLETED", .completed), ("FAILED", .failed), ("CANCELLED", .cancelled),
    ("UNKNOWN", .unknown)]

def attemptObservation : Decoder AttemptObservation :=
  modelAfter ["attempt_id", "attempt_number", "started_at", "ended_at", "status"]
      AttemptObservation.mk fun o =>
    AttemptObservationFields.mk <$> field o "attempt_id" identifier
      <*> field o "attempt_number" (ranged 1 1000000)
      <*> field o "started_at" (utcTimestamp "attempt started_at")
      <*> field o "ended_at" (utcTimestamp "attempt ended_at")
      <*> field o "status" attemptStatus

def runtimeObservation : Decoder RuntimeObservation :=
  model ["runtime_name", "runtime_version", "runtime_build_sha256", "instance_id"] fun o =>
    RuntimeObservation.mk <$> field o "runtime_name" (localText 1 128)
      <*> field o "runtime_version" (localText 1 64)
      <*> field o "runtime_build_sha256" sha256
      <*> field o "instance_id" identifier

def localProtocolObservation : Decoder LocalProtocolObservation :=
  model ["kind", "version", "handler_name", "request_sha256", "response_sha256"] fun o =>
    (fun (_ _ : Unit) => LocalProtocolObservation.mk) <$> field o "kind" (literal "LOCAL")
      <*> field o "version" (literal "proofflow.local/v0.1")
      <*> field o "handler_name" (localText 1 128)
      <*> field o "request_sha256" sha256
      <*> field o "response_sha256" sha256

def mcpProtocolObservation : Decoder McpProtocolObservation :=
  model ["kind", "version", "server_name", "tool_name", "request_sha256", "response_sha256"]
    fun o =>
    (fun (_ _ : Unit) => McpProtocolObservation.mk) <$> field o "kind" (literal "MCP")
      <*> field o "version" (literal "2026-07-28")
      <*> field o "server_name" (localText 1 128)
      <*> field o "tool_name" (localText 1 128)
      <*> field o "request_sha256" sha256
      <*> field o "response_sha256" sha256

def a2aProtocolObservation : Decoder A2aProtocolObservation :=
  model ["kind", "version", "agent_name", "task_id", "request_sha256", "response_sha256"] fun o =>
    (fun (_ _ : Unit) => A2aProtocolObservation.mk) <$> field o "kind" (literal "A2A")
      <*> field o "version" (literal "1.0.1")
      <*> field o "agent_name" (localText 1 128)
      <*> field o "task_id" identifier
      <*> field o "request_sha256" sha256
      <*> field o "response_sha256" sha256

/-- The value of the discriminator `kind`. -/
def discriminator : Json Str → Option Str
  | .obj members =>
    match members.lookup (lit "kind") with
    | some (.str s) => some s
    | _ => none
  | _ => none

def protocolObservation : Decoder ProtocolObservation := fun j =>
  if discriminator j = some (lit "LOCAL") then .localCall <$> localProtocolObservation j
  else if discriminator j = some (lit "MCP") then .mcp <$> mcpProtocolObservation j
  else if discriminator j = some (lit "A2A") then .a2a <$> a2aProtocolObservation j
  else .invalid

def otelId (n : ℕ) : Decoder (OtelId n) :=
  strWith fun s => isHexOfLength n s = true ∧ allZero s = false

def traceObservation : Decoder TraceObservation :=
  modelAfter ["trace_id", "span_id", "parent_span_id", "linked_span_ids", "otel_schema_uri",
      "conventions_revision", "observer_evidence_sha256"] TraceObservation.mk fun o =>
    (fun traceId spanId parent linked (_ _ : Unit) =>
        TraceObservationFields.mk traceId spanId parent linked) <$>
        field o "trace_id" (otelId 32)
      <*> field o "span_id" (otelId 16)
      <*> fieldOr o "parent_span_id" none (optional (otelId 16))
      <*> fieldOr o "linked_span_ids" ⟨[], by decide⟩ (items 0 64 str)
      <*> field o "otel_schema_uri" (literal "https://opentelemetry.io/schemas/1.39.0")
      <*> field o "conventions_revision" (literal "proofflow.agent-proof/v0.1")
      <*> field o "observer_evidence_sha256" sha256

def artifactObservation : Decoder ArtifactObservation :=
  model ["artifact_id", "sha256", "media_type"] fun o =>
    ArtifactObservation.mk <$> field o "artifact_id" identifier
      <*> field o "sha256" sha256
      <*> field o "media_type" (localText 1 128)

def operationKind : Decoder OperationKind := enumeration [("TOOL", .tool), ("SKILL", .skill)]

def operationObservation : Decoder OperationObservation :=
  model ["kind", "operation_id", "name", "version", "input_schema_sha256", "output_schema_sha256",
      "request_sha256", "response_sha256"] fun o =>
    OperationObservation.mk <$> field o "kind" operationKind
      <*> field o "operation_id" identifier
      <*> field o "name" (localText 1 128)
      <*> field o "version" (localText 1 64)
      <*> field o "input_schema_sha256" sha256
      <*> field o "output_schema_sha256" sha256
      <*> field o "request_sha256" sha256
      <*> field o "response_sha256" sha256

def tokenUsageObservation : Decoder TokenUsageObservation :=
  modelAfter ["status", "input_tokens", "output_tokens", "total_tokens", "observer_evidence_sha256"]
      TokenUsageObservation.mk fun o =>
    TokenUsageObservationFields.mk <$>
        field o "status" observationState
      <*> field o "input_tokens" (optional (ranged 0 10000000000))
      <*> field o "output_tokens" (optional (ranged 0 10000000000))
      <*> field o "total_tokens" (optional (ranged 0 20000000000))
      <*> field o "observer_evidence_sha256" (optional sha256)

def modelInvocationObservation : Decoder ModelInvocationObservation :=
  modelAfter ["invocation_id", "provider", "model", "model_revision", "inference_status",
      "request_sha256", "response_sha256", "inference_observer_evidence_sha256", "usage"]
      ModelInvocationObservation.mk fun o =>
    ModelInvocationObservationFields.mk <$>
        field o "invocation_id" identifier
      <*> field o "provider" (localText 1 128)
      <*> field o "model" (localText 1 128)
      <*> field o "model_revision" (localText 1 128)
      <*> field o "inference_status" observationState
      <*> field o "request_sha256" (optional sha256)
      <*> field o "response_sha256" (optional sha256)
      <*> field o "inference_observer_evidence_sha256" (optional sha256)
      <*> field o "usage" tokenUsageObservation

def providerResult : Decoder ProviderResult :=
  enumeration [("TRANSPORT_ACK", .transportAck),
    ("PROVIDER_DECLARED_FAILURE", .providerDeclaredFailure), ("PENDING", .pending)]

def effectObservation : Decoder EffectObservation :=
  modelAfter ["effect_type", "target", "intent_sha256", "idempotency_key", "status",
      "provider_result", "provider_operation_id", "outbox_entry_sha256", "inbox_entry_sha256",
      "provider_request_sha256", "provider_response_sha256", "before_state_sha256",
      "after_state_sha256", "provider_event_sha256", "observer_evidence_sha256"]
      EffectObservation.mk fun o =>
    EffectObservationFields.mk <$>
        field o "effect_type" (localText 1 128)
      <*> field o "target" (localText 1 512)
      <*> field o "intent_sha256" sha256
      <*> field o "idempotency_key" identifier
      <*> field o "status" observationState
      <*> field o "provider_result" (optional providerResult)
      <*> field o "provider_operation_id" (optional identifier)
      <*> field o "outbox_entry_sha256" (optional sha256)
      <*> field o "inbox_entry_sha256" (optional sha256)
      <*> field o "provider_request_sha256" (optional sha256)
      <*> field o "provider_response_sha256" (optional sha256)
      <*> field o "before_state_sha256" (optional sha256)
      <*> field o "after_state_sha256" (optional sha256)
      <*> field o "provider_event_sha256" (optional sha256)
      <*> field o "observer_evidence_sha256" (optional sha256)

def costObservation : Decoder CostObservation :=
  modelAfter ["status", "currency", "amount_decimal", "rate_card_sha256",
      "observer_evidence_sha256"] CostObservation.mk fun o =>
    CostObservationFields.mk <$> field o "status" observationState
      <*> field o "currency" (optional (strWith fun s => isCurrency s = true))
      <*> field o "amount_decimal" (optional (strWith fun s => isDecimalAmount s = true))
      <*> field o "rate_card_sha256" (optional sha256)
      <*> field o "observer_evidence_sha256" (optional sha256)

def durationObservation : Decoder DurationObservation :=
  modelAfter ["status", "milliseconds", "clock", "precision_milliseconds",
      "observer_evidence_sha256"] DurationObservation.mk fun o =>
    DurationObservationFields.mk <$> field o "status" observationState
      <*> field o "milliseconds" (optional (ranged 0 86400000))
      <*> field o "clock" (optional (literal "MONOTONIC"))
      <*> field o "precision_milliseconds" (optional (ranged 1 1000))
      <*> field o "observer_evidence_sha256" (optional sha256)

def provenanceReference : Decoder ProvenanceReference :=
  model ["name", "media_type", "sha256"] fun o =>
    ProvenanceReference.mk <$> field o "name" (localText 1 256)
      <*> field o "media_type" (localText 1 128)
      <*> field o "sha256" sha256

def actionCertificateReference : Decoder ActionCertificateReference :=
  modelAfter ["certificate_id", "payload_sha256", "envelope_sha256", "verification_result_sha256",
      "intent_sha256", "verification_at", "reserved_at"] ActionCertificateReference.mk fun o =>
    ActionCertificateReferenceFields.mk <$>
        field o "certificate_id" identifier
      <*> field o "payload_sha256" sha256
      <*> field o "envelope_sha256" sha256
      <*> field o "verification_result_sha256" sha256
      <*> field o "intent_sha256" sha256
      <*> field o "verification_at" (utcTimestamp "ActionCertificate verification_at")
      <*> field o "reserved_at" (utcTimestamp "ActionCertificate reserved_at")

def executionReceiptPredicate : Decoder ExecutionReceiptPredicate :=
  modelAfter ["version", "receipt_id", "execution_id", "task_id", "issued_at", "certificate_ref",
      "tenant_id", "case_id", "producer", "attempt", "executor_workload", "runtime", "protocol",
      "trace", "inputs", "outputs", "operation", "model_invocation", "effect", "cost", "duration",
      "provenance"] ExecutionReceiptPredicate.mk fun o =>
    (fun (_ : Unit) => ExecutionReceiptPredicateFields.mk) <$>
        field o "version" (literal "0.1")
      <*> field o "receipt_id" identifier
      <*> field o "execution_id" identifier
      <*> field o "task_id" identifier
      <*> field o "issued_at" (utcTimestamp "receipt issued_at")
      <*> field o "certificate_ref" actionCertificateReference
      <*> field o "tenant_id" identifier
      <*> field o "case_id" identifier
      <*> field o "producer" producerDeclaration
      <*> field o "attempt" attemptObservation
      <*> field o "executor_workload" principalBinding
      <*> field o "runtime" runtimeObservation
      <*> field o "protocol" protocolObservation
      <*> field o "trace" traceObservation
      <*> field o "inputs" (items 1 128 artifactObservation)
      <*> field o "outputs" (items 0 128 artifactObservation)
      <*> field o "operation" operationObservation
      <*> field o "model_invocation" (optional modelInvocationObservation)
      <*> field o "effect" effectObservation
      <*> field o "cost" costObservation
      <*> field o "duration" durationObservation
      <*> field o "provenance" (items 1 128 provenanceReference)

def executionReceiptStatement : Decoder ExecutionReceiptStatement :=
  modelAfter ["_type", "subject", "predicateType", "predicate"]
      ExecutionReceiptStatement.mk fun o =>
    (fun (_ : Unit) subject (_ : Unit) => ExecutionReceiptStatementFields.mk subject) <$>
        field o "_type" (literal "https://in-toto.io/Statement/v1")
      <*> field o "subject" (items 0 64 inTotoSubject)
      <*> field o "predicateType"
        (literal "https://proofflow.dev/attestations/execution-receipt/v0.1")
      <*> field o "predicate" executionReceiptPredicate

/-! ### Decoding a receipt raises nothing -/

theorem onlyValueErrors_stateControlsFields {status : ObservationState} {present : List Bool}
    {m₁ m₂ : String} : OnlyValueErrors (stateControlsFields status present m₁ m₂) := by
  cases status <;> exact onlyValueErrors_raiseIf

@[simp] theorem quiet_producerDeclaration (j : Json Str) : (producerDeclaration j).Quiet := by
  refine quiet_modelAfter (fun o => ?_) fun p => ?_
  · simp [identifier, localText]
  · simp [ProducerDeclarationFields.validate]

@[simp] theorem quiet_attemptObservation (j : Json Str) : (attemptObservation j).Quiet := by
  refine quiet_modelAfter (fun o => ?_) fun a => ?_
  · simp [identifier, attemptStatus]
  · simp [AttemptObservationFields.validate]

@[simp] theorem quiet_runtimeObservation (j : Json Str) : (runtimeObservation j).Quiet := by
  simp [runtimeObservation, identifier, sha256, localText]

@[simp] theorem quiet_protocolObservation (j : Json Str) : (protocolObservation j).Quiet := by
  unfold protocolObservation
  split_ifs
  · simp [localProtocolObservation, sha256, localText]
  · simp [mcpProtocolObservation, sha256, localText]
  · simp [a2aProtocolObservation, identifier, sha256, localText]
  · exact Validation.quiet_invalid

@[simp] theorem quiet_traceObservation (j : Json Str) : (traceObservation j).Quiet := by
  refine quiet_modelAfter (fun o => ?_) fun t => ?_
  · simp [otelId, sha256]
  · refine onlyValueErrors_raiseIf.bind fun _ => ?_
    refine (OnlyValueErrors.forM (fun v => ?_) _).bind fun _ => onlyValueErrors_raiseIf
    exact onlyValueErrors_raiseIf.bind fun _ => onlyValueErrors_raiseIf

@[simp] theorem quiet_artifactObservation (j : Json Str) : (artifactObservation j).Quiet := by
  simp [artifactObservation, identifier, sha256, localText]

@[simp] theorem quiet_operationObservation (j : Json Str) : (operationObservation j).Quiet := by
  simp [operationObservation, operationKind, identifier, sha256, localText]

@[simp] theorem quiet_tokenUsageObservation (j : Json Str) : (tokenUsageObservation j).Quiet := by
  refine quiet_modelAfter (fun o => ?_) fun u => ?_
  · simp [observationState, sha256]
  · refine onlyValueErrors_stateControlsFields.bind fun _ => ?_
    split
    · exact onlyValueErrors_raiseIf
    · exact onlyValueErrors_ok _

@[simp] theorem quiet_modelInvocationObservation (j : Json Str) :
    (modelInvocationObservation j).Quiet := by
  refine quiet_modelAfter (fun o => ?_) fun m => onlyValueErrors_stateControlsFields
  simp [observationState, identifier, sha256, localText]

@[simp] theorem quiet_effectObservation (j : Json Str) : (effectObservation j).Quiet := by
  refine quiet_modelAfter (fun o => ?_) fun e => onlyValueErrors_stateControlsFields
  simp [observationState, providerResult, identifier, sha256, localText]

@[simp] theorem quiet_costObservation (j : Json Str) : (costObservation j).Quiet := by
  refine quiet_modelAfter (fun o => ?_) fun c => onlyValueErrors_stateControlsFields
  simp [observationState, sha256]

@[simp] theorem quiet_durationObservation (j : Json Str) : (durationObservation j).Quiet := by
  refine quiet_modelAfter (fun o => ?_) fun d => onlyValueErrors_stateControlsFields
  simp [observationState, sha256]

@[simp] theorem quiet_provenanceReference (j : Json Str) : (provenanceReference j).Quiet := by
  simp [provenanceReference, sha256, localText]

@[simp] theorem quiet_actionCertificateReference (j : Json Str) :
    (actionCertificateReference j).Quiet := by
  refine quiet_modelAfter (fun o => ?_) fun r => onlyValueErrors_raiseIf
  simp [identifier, sha256]

theorem onlyValueErrors_receiptPredicate (p : ExecutionReceiptPredicateFields) :
    OnlyValueErrors p.validate := by
  unfold ExecutionReceiptPredicateFields.validate
  refine onlyValueErrors_raiseIf.bind fun _ => onlyValueErrors_raiseIf.bind fun _ =>
    onlyValueErrors_raiseIf.bind fun _ => onlyValueErrors_raiseIf.bind fun _ =>
    onlyValueErrors_raiseIf.bind fun _ => onlyValueErrors_raiseIf.bind fun _ =>
    onlyValueErrors_raiseIf.bind fun _ => ?_
  cases p.protocol with
  | localCall l => exact onlyValueErrors_raiseIf.bind fun _ => onlyValueErrors_raiseIf
  | mcp m => exact onlyValueErrors_raiseIf.bind fun _ => onlyValueErrors_raiseIf
  | a2a a => exact onlyValueErrors_raiseIf.bind fun _ => onlyValueErrors_raiseIf

@[simp] theorem quiet_executionReceiptPredicate (j : Json Str) :
    (executionReceiptPredicate j).Quiet := by
  refine quiet_modelAfter (fun o => ?_) onlyValueErrors_receiptPredicate
  simp [identifier]

/-- Parsing a receipt never raises anything but a `ValueError`. -/
theorem quiet_executionReceiptStatement (j : Json Str) : (executionReceiptStatement j).Quiet := by
  refine quiet_modelAfter (fun o => ?_) fun s => ?_
  · simp
  · simp [ExecutionReceiptStatementFields.validate]

end Decode

end ProofFlow
