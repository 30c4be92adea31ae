import ProofFlow.Value

/-!
# Models

The immutable pydantic contracts of the case workflow.  Every string field is stripped when a model
is built, so a stored string is its own stripped form; `min_length=1` leaves it non-empty.  A
date-time field must be timezone-aware.  Each model has its `model_dump(mode="python")`.
-/

namespace ProofFlow

/-! ## Field types -/

/-- A `str` field. -/
abbrev Stripped := { s : Str // strip s = s }

/-- A `str` field with `min_length=1`. -/
abbrev Filled := { s : Str // strip s = s ∧ s ≠ [] }

/-- A `datetime` field behind a validator that requires a time zone. -/
abbrev AwareTime := { t : DateTime // t.utcoffset.isSome = true }

/-- What a `str` field keeps of a string. -/
def stripped (s : Str) : Stripped := ⟨strip s, strip_strip s⟩

/-- A `str` field given as a literal. -/
def label (s : String) : Stripped := stripped (lit s)

/-- What a `str` field with `min_length=1` keeps of a string. -/
def filled (s : Str) : Except Fault Filled :=
  if h : strip s ≠ [] then .ok ⟨strip s, strip_strip s, h⟩ else .error .validationError

/-- A `datetime` field with a validator that requires a time zone. -/
def aware (t : DateTime) : Except Fault AwareTime :=
  if h : t.utcoffset.isSome = true then .ok ⟨t, h⟩ else .error .validationError

theorem strip_sha256 {s : Str} (h : isSha256 s = true) : strip s = s := by
  have hlower : ∀ c, isLowerHex c = true → isWhitespace c = false := by
    intro c hc
    simp only [isLowerHex, isDigit, Bool.or_eq_true, Bool.and_eq_true, decide_eq_true_eq] at hc
    simp only [isWhitespace, Bool.or_eq_false_iff, Bool.and_eq_false_iff, decide_eq_false_iff_not,
      beq_eq_false_iff_ne]
    omega
  have hprefix : ∀ c ∈ lit "sha256:", isWhitespace c = false := by
    have hall : (lit "sha256:").all (fun c => !isWhitespace c) = true := by decide
    simpa using hall
  simp only [isSha256, isHexOfLength, Bool.and_eq_true, List.isPrefixOf_iff_prefix,
    List.all_eq_true] at h
  obtain ⟨⟨t, rfl⟩, -, hall⟩ := h
  refine strip_eq_self fun c hc => ?_
  rcases List.mem_append.1 hc with hc | hc
  · exact hprefix c hc
  · refine hlower c (hall c ?_)
    rw [List.drop_append_of_le_length (by decide)]
    exact List.mem_append_right _ hc

/-- A digest as a `str` field. -/
def Sha256Text.stripped (d : Sha256Text) : Stripped := ⟨d.val, strip_sha256 d.property⟩

/-! ## Enumerations -/

inductive DataClassification where
  | publicSynthetic
  | internal
  | restricted
  deriving DecidableEq

def DataClassification.text : DataClassification → String
  | .publicSynthetic => "PUBLIC_SYNTHETIC"
  | .internal => "INTERNAL"
  | .restricted => "RESTRICTED"

inductive ActorKind where
  | agent
  | human
  | system
  deriving DecidableEq

def ActorKind.text : ActorKind → String
  | .agent => "AGENT"
  | .human => "HUMAN"
  | .system => "SYSTEM"

inductive FactStatus where
  | proposed
  | verified
  | conflicted
  | unresolved
  deriving DecidableEq

def FactStatus.text : FactStatus → String
  | .proposed => "PROPOSED"
  | .verified => "VERIFIED"
  | .conflicted => "CONFLICTED"
  | .unresolved => "UNRESOLVED"

inductive CaseState where
  | received
  | ingesting
  | needsEvidence
  | factsReady
  | rulesReady
  | calcReady
  | proposalReady
  | auditBlocked
  | awaitingApproval
  | approved
  | rejected
  | revisionRequired
  | packaged
  | closed
  deriving DecidableEq

def CaseState.text : CaseState → String
  | .received => "RECEIVED"
  | .ingesting => "INGESTING"
  | .needsEvidence => "NEEDS_EVIDENCE"
  | .factsReady => "FACTS_READY"
  | .rulesReady => "RULES_READY"
  | .calcReady => "CALC_READY"
  | .proposalReady => "PROPOSAL_READY"
  | .auditBlocked => "AUDIT_BLOCKED"
  | .awaitingApproval => "AWAITING_APPROVAL"
  | .approved => "APPROVED"
  | .rejected => "REJECTED"
  | .revisionRequired => "REVISION_REQUIRED"
  | .packaged => "PACKAGED"
  | .closed => "CLOSED"

inductive SkillStatus where
  | success
  | blocked
  | needsHuman
  | retryableFailure
  deriving DecidableEq

def SkillStatus.text : SkillStatus → String
  | .success => "SUCCESS"
  | .blocked => "BLOCKED"
  | .needsHuman => "NEEDS_HUMAN"
  | .retryableFailure => "RETRYABLE_FAILURE"

inductive AuditVerdict where
  | pass
  | revise
  | block
  deriving DecidableEq

def AuditVerdict.text : AuditVerdict → String
  | .pass => "PASS"
  | .revise => "REVISE"
  | .block => "BLOCK"

inductive ApprovalDecision where
  | approve
  | reject
  | revise
  deriving DecidableEq

def ApprovalDecision.text : ApprovalDecision → String
  | .approve => "APPROVE"
  | .reject => "REJECT"
  | .revise => "REVISE"

/-- An enumeration member in a dumped model. -/
def Value.enum (text : String) : Value := .str (lit text)

/-- A tuple of strings in a dumped model. -/
def Value.labels (l : List Stripped) : Value := .arr (l.map fun s => .str s.val)

/-- A nullable string in a dumped model. -/
def Value.label? : Option Stripped → Value
  | none => .null
  | some s => .str s.val

/-- A nullable date in a dumped model. -/
def Value.date? : Option Date → Value
  | none => .null
  | some d => .date d

/-- A nullable decimal in a dumped model. -/
def Value.decimal? : Option Decimal → Value
  | none => .null
  | some d => .decimal d

/-! ## Artifacts -/

/-- `SCHEMA_VERSION`. -/
def schemaVersion : Stripped := label "proofflow.dev/v1alpha1"

/-- `ArtifactMeta`. -/
structure ArtifactMeta where
  artifactId : Filled
  tenantId : Filled
  caseId : Filled
  schemaVersion : Stripped
  producerIdentity : Filled
  traceId : Filled
  createdAt : AwareTime
  sourceRefs : List Stripped
  classification : DataClassification
  contentHash : Option Stripped
  deriving DecidableEq

def ArtifactMeta.dump (m : ArtifactMeta) : Value :=
  .obj [keyed "artifact_id" (.str m.artifactId.val), keyed "tenant_id" (.str m.tenantId.val),
    keyed "case_id" (.str m.caseId.val), keyed "schema_version" (.str m.schemaVersion.val),
    keyed "producer_identity" (.str m.producerIdentity.val),
    keyed "trace_id" (.str m.traceId.val), keyed "created_at" (.datetime m.createdAt.val),
    keyed "source_refs" (.labels m.sourceRefs),
    keyed "classification" (.enum m.classification.text),
    keyed "content_hash" (.label? m.contentHash)]

/-- The subclasses of `Artifact`: a `meta` and fields of their own. -/
class Artifact (α : Type) where
  /-- `artifact.__class__.__name__`. -/
  className : String
  /-- `artifact.meta`. -/
  metadata : α → ArtifactMeta
  /-- The dumped fields other than `meta`. -/
  fields : α → List (Str × Value)
  /-- `artifact.model_copy` with a new `meta.content_hash`. -/
  withHash : α → Stripped → α
  metadata_withHash : ∀ a h, metadata (withHash a h) = { metadata a with contentHash := some h }
  fields_withHash : ∀ a h, fields (withHash a h) = fields a

namespace Artifact

variable {α : Type} [Artifact α]

/-- `artifact.model_dump(mode="python")`. -/
def dump (a : α) : Value := .obj (keyed "meta" (metadata a).dump :: fields a)

/-- The digest of an artifact without its own hash. -/
def sealDigest (P : Platform) (a : α) : Except Fault Sha256Text :=
  sha256Digest P (dump a) [lit "content_hash"]

/-- `Artifact.seal`. -/
def sealed (P : Platform) (a : α) : Except Fault α := do
  let digest ← sealDigest P a
  pure (withHash a digest.stripped)

/-- `Artifact.verify_hash`. -/
def verifyHash (P : Platform) (a : α) : Except Fault Bool :=
  match (metadata a).contentHash with
  | none => .ok false
  | some h => do
    let expected ← sealDigest P a
    pure (decide (h.val = expected.val))

/-- `artifact_ref`. -/
def ref (a : α) : Str := lit (className α) ++ ':' :: (metadata a).artifactId.val

end Artifact

/-! ## Cases and documents -/

/-- `CaseRecord`. -/
structure CaseRecord where
  caseId : Filled
  tenantId : Filled
  state : CaseState
  stateVersion : ℕ
  jurisdiction : Filled
  asOfDate : Date
  inputManifestHash : Filled
  unresolvedItems : List Stripped
  artifactRefs : List Stripped
  deriving DecidableEq

def CaseRecord.dump (c : CaseRecord) : Value :=
  .obj [keyed "case_id" (.str c.caseId.val), keyed "tenant_id" (.str c.tenantId.val),
    keyed "state" (.enum c.state.text), keyed "state_version" (.int c.stateVersion),
    keyed "jurisdiction" (.str c.jurisdiction.val), keyed "as_of_date" (.date c.asOfDate),
    keyed "input_manifest_hash" (.str c.inputManifestHash.val),
    keyed "unresolved_items" (.labels c.unresolvedItems),
    keyed "artifact_refs" (.labels c.artifactRefs)]

/-- `EvidenceObject`. -/
structure EvidenceObject where
  metadata : ArtifactMeta
  evidenceType : Stripped
  fieldName : Stripped
  normalizedValue : Stripped
  verbatimExcerpt : Stripped
  sourceDocumentId : Stripped
  factStatus : FactStatus
  confidence : { d : Decimal // d.isProportion = true }
  deriving DecidableEq

instance : Artifact EvidenceObject where
  className := "EvidenceObject"
  metadata := EvidenceObject.metadata
  fields e :=
    [keyed "evidence_type" (.str e.evidenceType.val), keyed "field_name" (.str e.fieldName.val),
      keyed "normalized_value" (.str e.normalizedValue.val),
      keyed "verbatim_excerpt" (.str e.verbatimExcerpt.val),
      keyed "source_document_id" (.str e.sourceDocumentId.val),
      keyed "fact_status" (.enum e.factStatus.text),
      keyed "confidence" (.decimal e.confidence.val)]
  withHash e h := { e with metadata := { e.metadata with contentHash := some h } }
  metadata_withHash _ _ := rfl
  fields_withHash _ _ := rfl

/-! ## Traces, contexts and results -/

/-- `TraceEvent`. -/
structure TraceEvent where
  sequence : { n : ℕ // 1 ≤ n }
  traceId : Stripped
  tenantId : Stripped
  caseId : Stripped
  actorIdentity : Stripped
  actorKind : ActorKind
  eventType : Stripped
  inputHash : Option Stripped
  outputHash : Option Stripped
  status : Stripped
  occurredAt : AwareTime
  errorCode : Option Stripped
  deriving DecidableEq

def TraceEvent.dump (e : TraceEvent) : Value :=
  .obj [keyed "sequence" (.int e.sequence.val), keyed "trace_id" (.str e.traceId.val),
    keyed "tenant_id" (.str e.tenantId.val), keyed "case_id" (.str e.caseId.val),
    keyed "actor_identity" (.str e.actorIdentity.val),
    keyed "actor_kind" (.enum e.actorKind.text), keyed "event_type" (.str e.eventType.val),
    keyed "input_hash" (.label? e.inputHash), keyed "output_hash" (.label? e.outputHash),
    keyed "status" (.str e.status.val), keyed "occurred_at" (.datetime e.occurredAt.val),
    keyed "error_code" (.label? e.errorCode)]

/-- `SkillContext`. -/
structure SkillContext where
  tenantId : Filled
  caseId : Filled
  callerIdentity : Filled
  actorKind : ActorKind
  traceId : Filled
  idempotencyKey : Filled
  schemaVersion : Stripped
  expectedStateVersion : ℕ
  deriving DecidableEq

/-- `Issue`. -/
structure Issue where
  code : Stripped
  severity : Stripped
  message : Stripped
  objectRefs : List Stripped
  retryable : Bool
  needsHuman : Bool
  deriving DecidableEq

def Issue.dump (i : Issue) : Value :=
  .obj [keyed "code" (.str i.code.val), keyed "severity" (.str i.severity.val),
    keyed "message" (.str i.message.val), keyed "object_refs" (.labels i.objectRefs),
    keyed "retryable" (.bool i.retryable), keyed "needs_human" (.bool i.needsHuman)]

/-- A blocking issue without references. -/
def Issue.blocker (code : String) (message : Str) (needsHuman : Bool) : Issue where
  code := label code
  severity := label "BLOCKER"
  message := stripped message
  objectRefs := []
  retryable := false
  needsHuman := needsHuman

/-- `SkillResult`. -/
structure SkillResult (α : Type) where
  status : SkillStatus
  value : Option α
  issues : List Issue
  inputHash : Stripped
  outputHash : Option Stripped
  emittedRefs : List Stripped

/-- A result with its value dumped. -/
def SkillResult.dump {α : Type} (dumpValue : α → Value) (r : SkillResult α) : Value :=
  .obj [keyed "status" (.enum r.status.text),
    keyed "value" (match r.value with | none => .null | some v => dumpValue v),
    keyed "issues" (.arr (r.issues.map Issue.dump)), keyed "input_hash" (.str r.inputHash.val),
    keyed "output_hash" (.label? r.outputHash), keyed "emitted_refs" (.labels r.emittedRefs)]

end ProofFlow
