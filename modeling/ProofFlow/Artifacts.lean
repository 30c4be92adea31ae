import ProofFlow.Models
import ProofFlow.Python.Zone

/-!
# Artifacts

The artifact classes of the case workflow other than `EvidenceObject`.  A validator that relates
fields of a model is a field of its structure, so a model that was built has passed it.
-/

namespace ProofFlow

/-! ## Field types -/

/-- A finite decimal: pydantic refuses the special values. -/
def Decimal.isFinite : Decimal → Bool
  | .finite _ _ _ => true
  | _ => false

theorem Decimal.isFinite_ofNat (n : ℕ) : (ofNat n).isFinite = true := rfl

/-- A `Decimal` field. -/
abbrev Amount := { d : Decimal // d.isFinite = true }

/-- A member of the union `Decimal | str | int`. -/
inductive Scalar where
  | decimal (d : Amount)
  | str (s : Stripped)
  | int (n : ℤ)
  deriving DecidableEq

def Scalar.dump : Scalar → Value
  | .decimal d => .decimal d.val
  | .str s => .str s.val
  | .int n => .int n

/-- A field of type `dict[str, Decimal | str | int]`. -/
structure ScalarDict where
  entries : List (Stripped × Scalar)
  nodup : (entries.map fun m => m.1.val).Nodup
  deriving DecidableEq

def ScalarDict.dump (d : ScalarDict) : Value := .obj (d.entries.map fun m => (m.1.val, m.2.dump))

/-! ## Facts and rules -/

/-- `require_source_or_unresolved`. -/
def eventSupported (sourceRefs : List Stripped) (occurredFrom occurredTo : Option Date)
    (factStatus : FactStatus) (unresolvedReason : Option Stripped) : Prop :=
  (sourceRefs ≠ [] ∨ (factStatus = .unresolved ∧ ∃ r ∈ unresolvedReason, r.val ≠ [])) ∧
    ∀ a ∈ occurredFrom, ∀ b ∈ occurredTo, ¬ b < a

instance (sourceRefs : List Stripped) (occurredFrom occurredTo : Option Date)
    (factStatus : FactStatus) (unresolvedReason : Option Stripped) :
    Decidable (eventSupported sourceRefs occurredFrom occurredTo factStatus unresolvedReason) :=
  inferInstanceAs (Decidable (_ ∧ _))

/-- `TimelineEvent`. -/
structure TimelineEvent where
  metadata : ArtifactMeta
  occurredFrom : Option Date
  occurredTo : Option Date
  description : Stripped
  factStatus : FactStatus
  unresolvedReason : Option Stripped
  supported : eventSupported metadata.sourceRefs occurredFrom occurredTo factStatus unresolvedReason
  deriving DecidableEq

instance : Artifact TimelineEvent where
  className := "TimelineEvent"
  metadata := TimelineEvent.metadata
  fields e :=
    [keyed "occurred_from" (.date? e.occurredFrom), keyed "occurred_to" (.date? e.occurredTo),
      keyed "description" (.str e.description.val), keyed "fact_status" (.enum e.factStatus.text),
      keyed "unresolved_reason" (.label? e.unresolvedReason)]
  withHash e h := { e with metadata := { e.metadata with contentHash := some h } }
  metadata_withHash _ _ := rfl
  fields_withHash _ _ := rfl

/-- `RuleCitation`. -/
structure RuleCitation where
  metadata : ArtifactMeta
  ruleId : Stripped
  version : Stripped
  issueCode : Stripped
  title : Stripped
  jurisdiction : Stripped
  effectiveFrom : Date
  effectiveTo : Option Date
  authoritativeSource : Stripped
  locator : Stripped
  excerpt : Stripped
  sourceHash : Sha256Text
  deriving DecidableEq

instance : Artifact RuleCitation where
  className := "RuleCitation"
  metadata := RuleCitation.metadata
  fields c :=
    [keyed "rule_id" (.str c.ruleId.val), keyed "version" (.str c.version.val),
      keyed "issue_code" (.str c.issueCode.val), keyed "title" (.str c.title.val),
      keyed "jurisdiction" (.str c.jurisdiction.val),
        keyed "effective_from" (.date c.effectiveFrom), keyed "effective_to" (.date? c.effectiveTo),
      keyed "authoritative_source" (.str c.authoritativeSource.val),
      keyed "locator" (.str c.locator.val), keyed "excerpt" (.str c.excerpt.val),
      keyed "source_hash" (.str c.sourceHash.val)]
  withHash c h := { c with metadata := { c.metadata with contentHash := some h } }
  metadata_withHash _ _ := rfl
  fields_withHash _ _ := rfl

/-! ## Calculations -/

/-- `CalculationLineItem`. -/
structure CalculationLineItem where
  itemCode : Stripped
  formulaId : Stripped
  formulaVersion : Stripped
  parameters : ScalarDict
  intermediateValues : ScalarDict
  amount : Amount
  deriving DecidableEq

def CalculationLineItem.dump (i : CalculationLineItem) : Value :=
  .obj [keyed "item_code" (.str i.itemCode.val), keyed "formula_id" (.str i.formulaId.val),
    keyed "formula_version" (.str i.formulaVersion.val), keyed "parameters" i.parameters.dump,
    keyed "intermediate_values" i.intermediateValues.dump, keyed "amount" (.decimal i.amount.val)]

/-- `CalculationSheet`. -/
structure CalculationSheet where
  metadata : ArtifactMeta
  lineItems : List CalculationLineItem
  total : Option Amount
  missingParameters : List Stripped
  reproducibilityHash : Option Stripped
  /-- `forbid_total_when_parameters_are_missing`. -/
  total_none : missingParameters ≠ [] → total = none
  deriving DecidableEq

instance : Artifact CalculationSheet where
  className := "CalculationSheet"
  metadata := CalculationSheet.metadata
  fields s :=
    [keyed "line_items" (.arr (s.lineItems.map CalculationLineItem.dump)),
      keyed "total" (.decimal? (s.total.map Subtype.val)),
      keyed "missing_parameters" (.labels s.missingParameters),
      keyed "reproducibility_hash" (.label? s.reproducibilityHash)]
  withHash s h := { s with metadata := { s.metadata with contentHash := some h } }
  metadata_withHash _ _ := rfl
  fields_withHash _ _ := rfl

/-! ## Proposals and audits -/

/-- `Proposal`. -/
structure Proposal where
  metadata : ArtifactMeta
  optionCode : Stripped
  summary : Stripped
  actions : List Stripped
  evidenceRefs : List Stripped
  ruleRefs : List Stripped
  calculationRef : Option Stripped
  risks : List Stripped
  uncertainties : List Stripped
  deriving DecidableEq

instance : Artifact Proposal where
  className := "Proposal"
  metadata := Proposal.metadata
  fields p :=
    [keyed "option_code" (.str p.optionCode.val), keyed "summary" (.str p.summary.val),
      keyed "actions" (.labels p.actions), keyed "evidence_refs" (.labels p.evidenceRefs),
      keyed "rule_refs" (.labels p.ruleRefs), keyed "calculation_ref" (.label? p.calculationRef),
      keyed "risks" (.labels p.risks), keyed "uncertainties" (.labels p.uncertainties)]
  withHash p h := { p with metadata := { p.metadata with contentHash := some h } }
  metadata_withHash _ _ := rfl
  fields_withHash _ _ := rfl

/-- `Conflict`. -/
structure Conflict where
  conflictId : Stripped
  severity : Stripped
  objectRefs : List Stripped
  description : Stripped
  requiredAction : Stripped
  deriving DecidableEq

def Conflict.dump (c : Conflict) : Value :=
  .obj [keyed "conflict_id" (.str c.conflictId.val), keyed "severity" (.str c.severity.val),
    keyed "object_refs" (.labels c.objectRefs), keyed "description" (.str c.description.val),
    keyed "required_action" (.str c.requiredAction.val)]

/-- `ConflictReport`. -/
structure ConflictReport where
  metadata : ArtifactMeta
  conflicts : List Conflict
  blockerIds : List Stripped
  inputComplete : Bool
  deriving DecidableEq

instance : Artifact ConflictReport where
  className := "ConflictReport"
  metadata := ConflictReport.metadata
  fields r :=
    [keyed "conflicts" (.arr (r.conflicts.map Conflict.dump)),
      keyed "blocker_ids" (.labels r.blockerIds), keyed "input_complete" (.bool r.inputComplete)]
  withHash r h := { r with metadata := { r.metadata with contentHash := some h } }
  metadata_withHash _ _ := rfl
  fields_withHash _ _ := rfl

/-- `AuditFinding`. -/
structure AuditFinding where
  findingId : Stripped
  severity : Stripped
  objectRefs : List Stripped
  message : Stripped
  requiredAction : Stripped
  deriving DecidableEq

def AuditFinding.dump (f : AuditFinding) : Value :=
  .obj [keyed "finding_id" (.str f.findingId.val), keyed "severity" (.str f.severity.val),
    keyed "object_refs" (.labels f.objectRefs), keyed "message" (.str f.message.val),
    keyed "required_action" (.str f.requiredAction.val)]

/-- `AuditReport`. -/
structure AuditReport where
  metadata : ArtifactMeta
  verdict : AuditVerdict
  findings : List AuditFinding
  unsupportedClaims : List Stripped
  auditedArtifactHashes : List Stripped
  policyVersion : Stripped
  deriving DecidableEq

instance : Artifact AuditReport where
  className := "AuditReport"
  metadata := AuditReport.metadata
  fields r :=
    [keyed "verdict" (.enum r.verdict.text),
      keyed "findings" (.arr (r.findings.map AuditFinding.dump)),
      keyed "unsupported_claims" (.labels r.unsupportedClaims),
      keyed "audited_artifact_hashes" (.labels r.auditedArtifactHashes),
      keyed "policy_version" (.str r.policyVersion.val)]
  withHash r h := { r with metadata := { r.metadata with contentHash := some h } }
  metadata_withHash _ _ := rfl
  fields_withHash _ _ := rfl

/-! ## Approvals and packages -/

/-- `require_ordered_aware_decision`, with the date-time of the metadata. -/
def decisionOrdered (createdAt decidedAt expiresAt : ZonedTime) : Prop :=
  createdAt.pyEq decidedAt ∧ ¬ expiresAt.pyLt decidedAt

instance (createdAt decidedAt expiresAt : ZonedTime) :
    Decidable (decisionOrdered createdAt decidedAt expiresAt) := inferInstanceAs (Decidable (_ ∧ _))

/-- `ApprovalRecord`; `createdAt` is `meta.created_at` with its `tzinfo`. -/
structure ApprovalRecord where
  metadata : ArtifactMeta
  requestId : Filled
  decision : ApprovalDecision
  approverId : Filled
  approverRole : Filled
  reason : Filled
  approvedArtifactHash : Sha256Text
  approvalMethod : Filled
  createdAt : ZonedTime
  decidedAt : ZonedTime
  expiresAt : ZonedTime
  created_eq : metadata.createdAt.val = createdAt.time
  ordered : decisionOrdered createdAt decidedAt expiresAt

instance : Artifact ApprovalRecord where
  className := "ApprovalRecord"
  metadata := ApprovalRecord.metadata
  fields r :=
    [keyed "request_id" (.str r.requestId.val), keyed "decision" (.enum r.decision.text),
      keyed "approver_id" (.str r.approverId.val), keyed "approver_role" (.str r.approverRole.val),
      keyed "reason" (.str r.reason.val),
      keyed "approved_artifact_hash" (.str r.approvedArtifactHash.val),
      keyed "approval_method" (.str r.approvalMethod.val),
      keyed "decided_at" (.datetime r.decidedAt.time),
      keyed "expires_at" (.datetime r.expiresAt.time)]
  withHash r h := { r with metadata := { r.metadata with contentHash := some h } }
  metadata_withHash _ _ := rfl
  fields_withHash _ _ := rfl

/-- `PackageFile`. -/
structure PackageFile where
  path : Stripped
  sha256 : Sha256Text
  deriving DecidableEq

def PackageFile.dump (f : PackageFile) : Value :=
  .obj [keyed "path" (.str f.path.val), keyed "sha256" (.str f.sha256.val)]

/-- `PackageManifest`. -/
structure PackageManifest where
  metadata : ArtifactMeta
  approvalRecordRef : Stripped
  auditReportRef : Stripped
  files : List PackageFile
  includedArtifactRefs : List Stripped
  manifestHash : Option Stripped
  deriving DecidableEq

instance : Artifact PackageManifest where
  className := "PackageManifest"
  metadata := PackageManifest.metadata
  fields m :=
    [keyed "approval_record_ref" (.str m.approvalRecordRef.val),
      keyed "audit_report_ref" (.str m.auditReportRef.val),
      keyed "files" (.arr (m.files.map PackageFile.dump)),
      keyed "included_artifact_refs" (.labels m.includedArtifactRefs),
      keyed "manifest_hash" (.label? m.manifestHash)]
  withHash m h := { m with metadata := { m.metadata with contentHash := some h } }
  metadata_withHash _ _ := rfl
  fields_withHash _ _ := rfl

/-! ## The classes -/

/-- The artifact classes. -/
inductive ArtifactClass where
  | evidenceObject
  | timelineEvent
  | ruleCitation
  | calculationSheet
  | proposal
  | conflictReport
  | auditReport
  | approvalRecord
  | packageManifest
  deriving DecidableEq

/-- The artifacts of a class. -/
def ArtifactClass.Model : ArtifactClass → Type
  | .evidenceObject => EvidenceObject
  | .timelineEvent => TimelineEvent
  | .ruleCitation => RuleCitation
  | .calculationSheet => CalculationSheet
  | .proposal => Proposal
  | .conflictReport => ConflictReport
  | .auditReport => AuditReport
  | .approvalRecord => ApprovalRecord
  | .packageManifest => PackageManifest

instance : (k : ArtifactClass) → Artifact k.Model
  | .evidenceObject => inferInstanceAs (Artifact EvidenceObject)
  | .timelineEvent => inferInstanceAs (Artifact TimelineEvent)
  | .ruleCitation => inferInstanceAs (Artifact RuleCitation)
  | .calculationSheet => inferInstanceAs (Artifact CalculationSheet)
  | .proposal => inferInstanceAs (Artifact Proposal)
  | .conflictReport => inferInstanceAs (Artifact ConflictReport)
  | .auditReport => inferInstanceAs (Artifact AuditReport)
  | .approvalRecord => inferInstanceAs (Artifact ApprovalRecord)
  | .packageManifest => inferInstanceAs (Artifact PackageManifest)

end ProofFlow
